import DeviceWarnings.Binary64.Decimal
import DeviceWarnings.Text

/-!
# Numerals

A number written in text: a sign, digits with an optional point and an optional exponent of ten,
or the words for infinity and NaN in any letter case. Digits may come from any script, and single
underscores may group them. `Text.number?` reads such a text with spaces around it; `Numeral` is
the part shared with other notations of the same numbers.
-/

namespace DeviceWarnings

/-- A decimal numeral in its parts; the digits are values from 0 to 9. -/
structure Numeral where
  negative : Bool
  whole : List Nat
  fraction : List Nat := []
  exponent : Int := 0

namespace Numeral

/-- The number that digits stand for, the most significant first. -/
def ofDigits (digits : List Nat) : Nat := digits.foldl (fun n d => 10 * n + d) 0

/-- The binary64 number nearest to the numeral. -/
def toBinary (n : Numeral) : Binary64 :=
  Binary64.ofDecimal n.negative
    ⟨ofDigits (n.whole ++ n.fraction), n.exponent - n.fraction.length⟩

/-- The whole number that the digits before the point stand for. -/
def toInt (n : Numeral) : Int :=
  if n.negative then -(ofDigits n.whole) else ofDigits n.whole

/-- The value of an ASCII digit. -/
def digitValue (c : Char) : Nat := c.toNat - '0'.toNat

/-- The digits that a list of characters starts with, and what follows them. -/
def splitDigits (cs : List Char) : List Nat × List Char :=
  ((cs.takeWhile Char.isDigit).map digitValue, cs.dropWhile Char.isDigit)

/-- A sign and what follows it. -/
def splitSign : List Char → Bool × List Char
  | '-' :: rest => (true, rest)
  | '+' :: rest => (false, rest)
  | cs => (false, cs)

/-- The power of ten after the digits of a numeral: nothing, or a mark, a sign and digits. -/
def exponent? : List Char → Option Int
  | [] => some 0
  | mark :: rest =>
    let (negative, unsigned) := splitSign rest
    let (digits, after) := splitDigits unsigned
    if (mark = 'e' ∨ mark = 'E') ∧ digits ≠ [] ∧ after = [] then
      some (toInt ⟨negative, digits, [], 0⟩)
    else none

/-- A numeral without a sign, in ASCII digits and without group marks. -/
def unsigned? (negative : Bool) (cs : List Char) : Option Numeral :=
  let (whole, afterWhole) := splitDigits cs
  let (fraction, afterFraction) :=
    match afterWhole with
    | '.' :: rest => splitDigits rest
    | rest => ([], rest)
  if whole = [] ∧ fraction = [] then none
  else (exponent? afterFraction).map fun exponent => ⟨negative, whole, fraction, exponent⟩

/-- The characters without group marks, each of which has to stand between two digits. -/
def ungroup? : List Char → Option (List Char)
  | [] => some []
  | c :: '_' :: rest =>
    if c.isDigit ∧ (rest.head?.any Char.isDigit) then (ungroup? rest).map (c :: ·) else none
  | c :: rest => if c = '_' then none else (ungroup? rest).map (c :: ·)

end Numeral

namespace Text

/-- The ASCII spelling of a text, digits of any script being written in ASCII; there is none
when another character remains. -/
def toAscii? (t : Text) : Option (List Char) :=
  t.mapM fun c =>
    if c < 0x7F then c.toChar? else c.digit?.map fun d => Char.ofNat ('0'.toNat + d)

/-- The number written in a text. -/
def number? (t : Text) : Option Binary64 := do
  let (negative, rest) := Numeral.splitSign (← Numeral.ungroup? (← t.trimNumeral.toAscii?))
  let word := String.ofList (rest.map Char.toLower)
  if word = "nan" then some .nan
  else if word = "inf" ∨ word = "infinity" then some (.infinity negative)
  else (Numeral.unsigned? negative rest).map Numeral.toBinary

end Text

end DeviceWarnings
