import DeviceWarnings.Binary64

/-!
# Numbers of the domain

Telemetry and settings hold whole numbers of any size and binary64 numbers, and the two stay
apart: a whole threshold is shown as `55`, a binary64 one as `55.0`. They are compared by exact
value, on the number line with its two ends; NaN has no place there and so is neither below, nor
above, nor equal to anything.
-/

namespace DeviceWarnings

/-- A place on the number line with both ends, in units of 2^-1074. -/
inductive Position where
  | bottom
  | point (units : Int)
  | top
  deriving DecidableEq

namespace Position

/-- Whether the first place comes strictly before the second. -/
def before : Position → Position → Bool
  | bottom, bottom => false
  | bottom, _ => true
  | point m, point n => m < n
  | point _, top => true
  | _, _ => false

instance : LT Position := ⟨fun p q => p.before q = true⟩
instance : LE Position := ⟨fun p q => p < q ∨ p = q⟩

instance (p q : Position) : Decidable (p < q) := inferInstanceAs (Decidable (_ = true))
instance (p q : Position) : Decidable (p ≤ q) := inferInstanceAs (Decidable (_ ∨ _))

end Position

/-- A whole number of any size, or a binary64 number. -/
inductive Number where
  | integer (value : Int)
  | binary (value : Binary64)
  deriving DecidableEq

namespace Number

instance : Inhabited Number := ⟨integer 0⟩
instance (n : Nat) : OfNat Number n := ⟨integer n⟩
instance : IntCast Number := ⟨integer⟩
instance : Coe Binary64 Number := ⟨binary⟩

/-- The place of a number on the line; NaN has none. -/
def position? : Number → Option Position
  | integer n => some (.point (n * Binary64.one))
  | binary .nan => none
  | binary (.infinity negative) => some (if negative then .bottom else .top)
  | binary (.finite negative units _) => some (.point (Binary64.signed negative units))

/-- Whether two numbers have places in the given relation. -/
def related (holds : Position → Position → Bool) (a b : Number) : Bool :=
  match a.position?, b.position? with
  | some p, some q => holds p q
  | _, _ => false

instance : LT Number := ⟨fun a b => related (fun p q => p < q) a b = true⟩
instance : LE Number := ⟨fun a b => related (fun p q => p ≤ q) a b = true⟩

instance (a b : Number) : Decidable (a < b) := inferInstanceAs (Decidable (_ = true))
instance (a b : Number) : Decidable (a ≤ b) := inferInstanceAs (Decidable (_ = true))

/-- Whether two numbers have the same value. -/
def sameValue (a b : Number) : Bool := related (fun p q => p = q) a b

/-- Whether the number is NaN. -/
def isNaN : Number → Bool
  | integer _ => false
  | binary x => x.isNaN

/-- The binary64 number nearest to this one; a whole number that is too large has none. -/
def toBinary? : Number → Option Binary64
  | integer n => if (Binary64.ofInt n).isFinite then some (Binary64.ofInt n) else none
  | binary x => some x

/-- The binary64 number nearest to this one; a whole number that is too large goes to an
infinity. -/
def toBinary : Number → Binary64
  | integer n => Binary64.ofInt n
  | binary x => x

/-- The sum: exact between whole numbers, a rounded binary64 sum otherwise. A whole number too
large for binary64 has no sum with a binary64 number. -/
def add? : Number → Number → Option Number
  | integer m, integer n => some (integer (m + n))
  | a, b => do return binary ((← a.toBinary?) + (← b.toBinary?))

/-- The difference, as exact or rounded as the sum. -/
def sub? : Number → Number → Option Number
  | integer m, integer n => some (integer (m - n))
  | a, b => do return binary ((← a.toBinary?) - (← b.toBinary?))

/-- The whole number left when the fraction is dropped; infinities and NaN have none. -/
def truncate? : Number → Option Int
  | integer n => some n
  | binary x => x.truncate?

/-- A number that fits into binary64 has a whole part below 2^1025. -/
theorem natAbs_lt_of_truncate? {a : Number} {x : Binary64} {n : Int}
    (hfits : a.toBinary? = some x) (h : a.truncate? = some n) : n.natAbs < 1 <<< 1025 := by
  cases a with
  | integer m =>
    simp only [truncate?, Option.some.injEq] at h
    subst h
    simp only [toBinary?] at hfits
    split at hfits
    case isTrue hfinite => exact Binary64.natAbs_lt_of_isFinite_ofInt hfinite
    case isFalse => simp at hfits
  | binary y =>
    have hlt := Binary64.natAbs_lt_of_truncate? h
    have hdouble : 1 <<< 1025 = 2 * (1 <<< 1024) := Binary64.one_shiftLeft_add 1 1024
    omega

/-- Whether the number is zero. -/
def isZero (n : Number) : Bool := n.sameValue 0

end Number

end DeviceWarnings
