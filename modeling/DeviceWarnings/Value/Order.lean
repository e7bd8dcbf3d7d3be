import DeviceWarnings.Fault

/-!
# Comparing values

Numbers are compared by exact value, and a flag counts as 0 or 1 among them. Texts are compared
code point by code point, and lists at the first place where their items differ, or else by their
lengths. Values of other kinds, or of two kinds, have no order, which is a fault.
-/

namespace DeviceWarnings

/-- Whether a text comes before another one. -/
def Text.before : Text → Text → Bool
  | _, [] => false
  | [], _ :: _ => true
  | x :: xs, y :: ys => x.val < y.val || (x.val = y.val && before xs ys)

namespace Value

/-- The number that a value counts as. -/
def amount? : Value → Option Number
  | flag b => some (.integer b.toNat)
  | number n => some n
  | _ => none

mutual

/-- Whether two values are equal; numbers are by value, mappings in any order. -/
def same : Value → Value → Bool
  | null, null => true
  | text s, text t => s = t
  | list xs, list ys => sameItems xs ys
  | mapping xs, mapping ys => xs.length = ys.length && sameEntries xs ys
  | a, b =>
    match a.amount?, b.amount? with
    | some m, some n => m.sameValue n
    | _, _ => false

/-- Whether two lists have equal items. -/
def sameItems : List Value → List Value → Bool
  | [], [] => true
  | x :: xs, y :: ys => same x y && sameItems xs ys
  | _, _ => false

/-- Whether a mapping has equal values for all keys of some entries. -/
def sameEntries : List (Text × Value) → Mapping → Bool
  | [], _ => true
  | (key, x) :: rest, other =>
    match Mapping.get? other key with
    | some y => same x y && sameEntries rest other
    | none => false

end

/-- Numbers are equal when they have the same value. -/
theorem same_number (m n : Number) : (number m).same (number n) = m.sameValue n := by
  simp [same, amount?]

end Value

namespace Comparison

/-- Whether two numbers compare so; NaN never does. -/
def ofNumbers (comparison : Comparison) (m n : Number) : Bool :=
  match comparison with
  | less => m < n
  | atMost => m ≤ n
  | greater => n < m
  | atLeast => n ≤ m

/-- Whether two texts compare so. -/
def ofTexts (comparison : Comparison) (s t : Text) : Bool :=
  match comparison with
  | less => s.before t
  | atMost => !t.before s
  | greater => t.before s
  | atLeast => !s.before t

mutual

/-- Whether two values compare so. -/
def holds (comparison : Comparison) : Value → Value → Except Fault Bool
  | .text s, .text t => .ok (comparison.ofTexts s t)
  | .list xs, .list ys => holdsItems comparison xs ys
  | a, b =>
    match a.amount?, b.amount? with
    | some m, some n => .ok (comparison.ofNumbers m n)
    | _, _ => .error (.incomparable comparison a.kind b.kind)

/-- Whether two lists compare so. -/
def holdsItems (comparison : Comparison) : List Value → List Value → Except Fault Bool
  | x :: xs, y :: ys => if x.same y then holdsItems comparison xs ys else holds comparison x y
  | xs, ys => .ok (comparison.ofNumbers (.integer xs.length) (.integer ys.length))

end

/-- Numbers compare as numbers do. -/
theorem holds_number (comparison : Comparison) (m n : Number) :
    comparison.holds (.number m) (.number n) = .ok (comparison.ofNumbers m n) := by
  simp [holds, Value.amount?]

end Comparison

end DeviceWarnings
