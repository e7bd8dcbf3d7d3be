import DeviceWarnings.Binary64.Decimal
import DeviceWarnings.Number

/-!
# How numbers are written

Settings and messages show a number so that it can be told apart from every other one: a whole
number by its digits, a binary64 number by the fewest digits that read back, positionally from
0.0001 up to below 10^16 and with a signed exponent of at least two digits outside. Reports show
a fixed number of places, which round the exact value half to even.
-/

namespace DeviceWarnings

namespace Decimal

/-- The decimal digits without trailing zeros, and the place of the point before which they
would be written as `0.digits`. -/
def significant (d : Decimal) : List Char × Int :=
  let digits := Nat.toDigits 10 d.digits
  ((digits.reverse.dropWhile (· = '0')).reverse, digits.length + d.exponent)

/-- The exponent mark, the sign and at least two digits. -/
def exponentText (exponent : Int) : String :=
  let digits := toString exponent.natAbs
  "e" ++ (if exponent < 0 then "-" else "+") ++ (if digits.length < 2 then "0" else "") ++ digits

/-- A positive decimal in the notation of settings and messages. -/
def render (d : Decimal) : String :=
  let (digits, point) := d.significant
  let zeros (n : Int) : List Char := List.replicate n.toNat '0'
  if 16 < point ∨ point ≤ -4 then
    let rest := digits.drop 1
    String.ofList (digits.take 1 ++ (if rest.isEmpty then [] else '.' :: rest))
      ++ exponentText (point - 1)
  else if point ≤ 0 then String.ofList ('0' :: '.' :: zeros (-point) ++ digits)
  else
    let rest := digits.drop point.toNat
    String.ofList (digits.take point.toNat ++ zeros (point - digits.length) ++ '.' ::
      (if rest.isEmpty then ['0'] else rest))

end Decimal

namespace Binary64

/-- The mark in front of a negative number. -/
def signText (negative : Bool) : String := if negative then "-" else ""

/-- The number with the fewest digits that read back. -/
def render : Binary64 → String
  | nan => "nan"
  | infinity negative => signText negative ++ "inf"
  | finite negative units _ =>
    signText negative ++ if units = 0 then "0.0" else (Decimal.shortest units).render

/-- The number with a fixed count of places. -/
def fixed (places : Nat) : Binary64 → String
  | nan => "nan"
  | infinity negative => signText negative ++ "inf"
  | finite negative units _ =>
    let scaled := roundHalfEven (units * Decimal.tenPow places) one
    let fraction := toString (scaled % Decimal.tenPow places)
    signText negative ++ toString (scaled / Decimal.tenPow places) ++
      if places = 0 then ""
      else "." ++ String.ofList (List.replicate (places - fraction.length) '0') ++ fraction

end Binary64

namespace Number

/-- A number as settings and messages show it. -/
def render : Number → String
  | integer n => toString n
  | binary x => x.render

/-- A number with a fixed count of places; a whole number goes through the nearest binary64
number, and one that is too large for it cannot be written so. -/
def fixed? (places : Nat) (n : Number) : Option String := n.toBinary?.map (Binary64.fixed places)

end Number

end DeviceWarnings
