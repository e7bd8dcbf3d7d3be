import DeviceWarnings.Number
import DeviceWarnings.Text

/-!
# Values of settings and reports

A settings file and a battery report hold values of any kind: nothing, flags, numbers, texts,
lists, and mappings from texts to values. A mapping keeps the order in which its keys were
first set, and has each key once when it is built by `Mapping.set`.

Telemetry and settings are kept as the values that they came as. Whether a value fits is asked
only where a rule needs it.
-/

namespace DeviceWarnings

/-- A value of any kind. -/
inductive Value where
  | null
  | flag (value : Bool)
  | number (value : Number)
  | text (value : Text)
  | list (items : List Value)
  | mapping (entries : List (Text × Value))

/-- The entries of a mapping in order. -/
abbrev Mapping := List (Text × Value)

namespace Mapping

/-- The value of a key. -/
def get? (entries : Mapping) (key : Text) : Option Value :=
  (entries.find? fun entry => entry.1 = key).map (·.2)

/-- The mapping with a value for a key, at the place where the key already stands or else at
the end. -/
def set (entries : Mapping) (key : Text) (value : Value) : Mapping :=
  match entries with
  | [] => [(key, value)]
  | entry :: rest => if entry.1 = key then (key, value) :: rest else entry :: set rest key value

/-- The mapping of a list of entries, the last value of a key being kept. -/
def ofEntries (entries : List (Text × Value)) : Mapping :=
  entries.foldl (fun mapping entry => mapping.set entry.1 entry.2) []

end Mapping

namespace Value

instance : Inhabited Value := ⟨null⟩
instance (n : Nat) : OfNat Value n := ⟨number (.integer n)⟩
instance : Coe Number Value := ⟨number⟩
instance : Coe Binary64 Value := ⟨fun x => number (.binary x)⟩

mutual

/-- Whether two values are the same in kind and in content. -/
def decEq : (a b : Value) → Decidable (a = b)
  | null, b =>
    match b with
    | null => isTrue rfl
    | flag _ | number _ | text _ | list _ | mapping _ => isFalse Value.noConfusion
  | flag x, b =>
    match b with
    | flag y => decidable_of_iff (x = y) (by simp)
    | null | number _ | text _ | list _ | mapping _ => isFalse Value.noConfusion
  | number x, b =>
    match b with
    | number y => decidable_of_iff (x = y) (by simp)
    | null | flag _ | text _ | list _ | mapping _ => isFalse Value.noConfusion
  | text x, b =>
    match b with
    | text y => decidable_of_iff (x = y) (by simp)
    | null | flag _ | number _ | list _ | mapping _ => isFalse Value.noConfusion
  | list xs, b =>
    match b with
    | list ys =>
      match decEqItems xs ys with
      | isTrue h => isTrue (congrArg list h)
      | isFalse h => isFalse fun e => h (list.inj e)
    | null | flag _ | number _ | text _ | mapping _ => isFalse Value.noConfusion
  | mapping xs, b =>
    match b with
    | mapping ys =>
      match decEqEntries xs ys with
      | isTrue h => isTrue (congrArg mapping h)
      | isFalse h => isFalse fun e => h (mapping.inj e)
    | null | flag _ | number _ | text _ | list _ => isFalse Value.noConfusion

/-- Whether two lists hold the same items. -/
def decEqItems : (xs ys : List Value) → Decidable (xs = ys)
  | [], [] => isTrue rfl
  | [], _ :: _ | _ :: _, [] => isFalse (by simp)
  | x :: xs, y :: ys =>
    match decEq x y, decEqItems xs ys with
    | isTrue h, isTrue hs => isTrue (by rw [h, hs])
    | isFalse h, _ => isFalse fun e => h (List.cons.inj e).1
    | _, isFalse hs => isFalse fun e => hs (List.cons.inj e).2

/-- Whether two mappings hold the same entries in the same order. -/
def decEqEntries : (xs ys : List (Text × Value)) → Decidable (xs = ys)
  | [], [] => isTrue rfl
  | [], _ :: _ | _ :: _, [] => isFalse (by simp)
  | (k, x) :: xs, (l, y) :: ys =>
    match decEq x y, decEqEntries xs ys with
    | isTrue h, isTrue hs =>
      if hk : k = l then isTrue (by rw [hk, h, hs])
      else isFalse fun e => hk (Prod.mk.inj (List.cons.inj e).1).1
    | isFalse h, _ => isFalse fun e => h (Prod.mk.inj (List.cons.inj e).1).2
    | _, isFalse hs => isFalse fun e => hs (List.cons.inj e).2

end

instance : DecidableEq Value := decEq

/-- Whether a value counts as yes: it is neither nothing, nor a false flag, nor zero, nor
empty. -/
def truth : Value → Bool
  | null => false
  | flag b => b
  | number n => !n.isZero
  | text t => !t.isEmpty
  | list items => !items.isEmpty
  | mapping entries => !entries.isEmpty

end Value

end DeviceWarnings
