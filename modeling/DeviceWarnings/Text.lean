/-!
# Text

Text from files, commands and settings is a list of code points. Escapes in a settings file can
name half of a surrogate pair, which no `String` can hold, so code points are numbers below
0x110000 and not characters. Messages are text too, since they may show what was read as it is.

Blanks are the white space of Unicode together with the four separators of ASCII. There are two
trimmings: `Text.trim` for words and `Text.trimNumeral` for numerals, around which the ASCII
separators do not count as blank. Every script with decimal digits has ten of them in a row; the
table holds the digit zero of each script, and a numeral may mix scripts.
-/

namespace DeviceWarnings

/-- A Unicode code point, surrogates included. -/
abbrev CodePoint := Fin 0x110000

/-- Text: a list of code points. -/
abbrev Text := List CodePoint

/-- There are code points, so numerals may denote them. -/
instance CodePoint.neZero : @NeZero Nat Zero.ofOfNat0 0x110000 := ⟨by decide⟩

/-- The code point of a character. -/
def CodePoint.ofChar (c : Char) : CodePoint :=
  ⟨c.toNat, by
    have hvalid := c.valid
    simp only [UInt32.isValidChar, Nat.isValidChar] at hvalid
    simp only [Char.toNat]
    omega⟩

/-- The character of a code point that is no surrogate. -/
def CodePoint.toChar? (c : CodePoint) : Option Char :=
  if h : c.val.isValidChar then some (Char.ofNatAux c.val h) else none

namespace Text

/-- The code points of a string. -/
def ofString (s : String) : Text := s.toList.map CodePoint.ofChar

instance : Coe String Text := ⟨ofString⟩

/-- The characters of a text, without the halves of surrogate pairs. -/
def display (t : Text) : String := String.ofList (t.filterMap CodePoint.toChar?)

end Text

/-! ## Blanks -/

namespace CodePoint

/-- The separators of ASCII, between files, groups, records and units. -/
def isSeparator (c : CodePoint) : Bool := 0x1C ≤ c && c ≤ 0x1F

/-- Blanks apart from the ASCII separators. -/
def isSpace (c : CodePoint) : Bool :=
  (0x09 ≤ c && c ≤ 0x0D) || (0x2000 ≤ c && c ≤ 0x200A) ||
    [0x20, 0x85, 0xA0, 0x1680, 0x2028, 0x2029, 0x202F, 0x205F, 0x3000].contains c

/-- All blanks. -/
def isBlank (c : CodePoint) : Bool := c.isSpace || c.isSeparator

end CodePoint

namespace Text

/-- The text without the code points of a class at both ends. -/
def trimWhere (drops : CodePoint → Bool) (t : Text) : Text :=
  ((t.dropWhile drops).reverse.dropWhile drops).reverse

/-- The text without blanks at both ends. -/
def trim (t : Text) : Text := t.trimWhere CodePoint.isBlank

/-- The text without spaces at both ends, as far as a numeral may stand between them. -/
def trimNumeral (t : Text) : Text := t.trimWhere CodePoint.isSpace

end Text

/-! ## Decimal digits -/

namespace CodePoint

/-- The digit zero of each script that has decimal digits. -/
def zeros : List CodePoint :=
  [0x30, 0x660, 0x6F0, 0x7C0, 0x966, 0x9E6, 0xA66, 0xAE6, 0xB66, 0xBE6, 0xC66, 0xCE6, 0xD66,
    0xDE6, 0xE50, 0xED0, 0xF20, 0x1040, 0x1090, 0x17E0, 0x1810, 0x1946, 0x19D0, 0x1A80, 0x1A90,
    0x1B50, 0x1BB0, 0x1C40, 0x1C50, 0xA620, 0xA8D0, 0xA900, 0xA9D0, 0xA9F0, 0xAA50, 0xABF0,
    0xFF10, 0x104A0, 0x10D30, 0x11066, 0x110F0, 0x11136, 0x111D0, 0x112F0, 0x11450, 0x114D0,
    0x11650, 0x116C0, 0x11730, 0x118E0, 0x11950, 0x11C50, 0x11D50, 0x11DA0, 0x16A60, 0x16AC0,
    0x16B50, 0x1D7CE, 0x1D7D8, 0x1D7E2, 0x1D7EC, 0x1D7F6, 0x1E140, 0x1E2F0, 0x1E950, 0x1FBF0]

/-- The value of a decimal digit. -/
def digit? (c : CodePoint) : Option Nat :=
  (zeros.find? fun zero => zero ≤ c && c.val < zero.val + 10).map fun zero => c.val - zero.val

end CodePoint

end DeviceWarnings
