import DeviceWarnings.Binary64

/-!
# Binary64 numbers and decimals

A decimal is a whole number of digits scaled by a power of ten. This module goes both ways:
`Binary64.ofDecimal` rounds a decimal to the nearest number, and `Decimal.shortest` chooses the
decimal with the fewest digits that rounds to a given magnitude; of two such decimals it takes
the nearer, and an exact tie goes to the even last digit. Both compare whole numbers exactly.
The search tries each count of digits up to seventeen, which tell any two numbers apart.
-/

namespace DeviceWarnings

/-- The decimal `digits * 10 ^ exponent`. -/
structure Decimal where
  digits : Nat
  exponent : Int
  deriving DecidableEq, Repr

namespace Decimal

/-- A power of ten. -/
def tenPow (n : Nat) : Nat := Nat.pow 10 n

/-- The factor ten to a power, as a numerator and a denominator. -/
def scale (exponent : Int) : Nat × Nat := (tenPow exponent.toNat, tenPow (-exponent).toNat)

/-- Four times the decimal, against which bounds in quarters of a unit are compared, over the
denominator of its scale. -/
def quarterUnits (d : Decimal) : Nat := 4 * d.digits * (scale d.exponent).1 * Binary64.one

/-- Whether the decimal rounds to the given magnitude: it lies between the midpoints to both
neighbours, and may be a midpoint when the magnitude has an even last bit. Below a power of two
the neighbour is only half as far away. -/
def readsBack (units : Nat) (d : Decimal) : Bool :=
  let gap := Binary64.spacing units
  let narrow := 1 < gap && units / gap = 1 <<< 52
  let low := (4 * units - if narrow then gap else 2 * gap) * (scale d.exponent).2
  let high := (4 * units + 2 * gap) * (scale d.exponent).2
  if units / gap % 2 = 0 then low ≤ d.quarterUnits && d.quarterUnits ≤ high
  else low < d.quarterUnits && d.quarterUnits < high

/-- The distance from the decimal to a magnitude, over the denominator of its scale. -/
def distance (units : Nat) (d : Decimal) : Nat :=
  ((d.quarterUnits : Int) - (4 * units * (scale d.exponent).2 : Nat)).natAbs

/-- The neighbour of a magnitude among the multiples of `10 ^ exponent` that rounds to it, if
one of the two does; of two, the nearer one, and on a tie the even one. -/
def neighbour? (units : Nat) (exponent : Int) : Option Decimal :=
  let below : Decimal :=
    ⟨units * (scale exponent).2 / (Binary64.one * (scale exponent).1), exponent⟩
  let above : Decimal := ⟨below.digits + 1, exponent⟩
  match readsBack units below, readsBack units above with
  | false, false => none
  | true, false => some below
  | false, true => some above
  | true, true =>
    if distance units below < distance units above then some below
    else if distance units above < distance units below then some above
    else if below.digits % 2 = 0 then some below else some above

/-- Whether a magnitude is at least `10 ^ exponent`. -/
def reaches (units : Nat) (exponent : Int) : Bool :=
  Binary64.one * (scale exponent).1 ≤ units * (scale exponent).2

/-- The exponent of the leading decimal digit of a magnitude: an estimate from the number of
bits, put right by at most one. -/
def leadingExponent (units : Nat) : Int :=
  let estimate := Int.fdiv ((units.log2 - 1074 : Int) * 30103) 100000
  if reaches units (estimate + 1) then estimate + 1
  else if reaches units estimate then estimate
  else estimate - 1

/-- The fewest digits that round to a magnitude. -/
def shortest (units : Nat) : Decimal :=
  let leading := leadingExponent units
  let found := (List.range 17).findSome? fun (n : Nat) => neighbour? units (leading - n)
  found.getD ⟨0, 0⟩

end Decimal

/-- The number nearest to a decimal with the given sign. Decimals far outside the range are
recognised by their exponent alone: ten is more than the third power of two. -/
def Binary64.ofDecimal (negative : Bool) (d : Decimal) : Binary64 :=
  if d.digits = 0 then round negative 0 1
  else if 1024 ≤ 3 * d.exponent then infinity negative
  else if (d.digits.log2 + 1076 : Int) ≤ -3 * d.exponent then round negative 0 1
  else round negative (d.digits * (Decimal.scale d.exponent).1 * one) (Decimal.scale d.exponent).2

end DeviceWarnings
