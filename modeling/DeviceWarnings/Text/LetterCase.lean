import DeviceWarnings.Text

/-!
# Letter case

Names of statuses, policies, zones and trip points are plain ASCII words that may be written in
any letter case. `Text.capitals` and `Text.smalls` change the case as far as such names can
tell: letters of other scripts stay as they are, except those few whose other case is spelled
with ASCII letters (the sharp s, the dotless i, the long s, the Latin ligatures, the Kelvin sign
and the dotted I).
-/

namespace DeviceWarnings

namespace CodePoint

/-- The code point in capitals, which may be more than one letter. -/
def capitals (c : CodePoint) : Text :=
  if 0x61 ≤ c ∧ c ≤ 0x7A then [c - 0x20]
  else if c = 0xDF then "SS"
  else if c = 0x131 then "I"
  else if c = 0x17F then "S"
  else if c = 0xFB00 then "FF"
  else if c = 0xFB01 then "FI"
  else if c = 0xFB02 then "FL"
  else if c = 0xFB03 then "FFI"
  else if c = 0xFB04 then "FFL"
  else if c = 0xFB05 ∨ c = 0xFB06 then "ST"
  else [c]

/-- The code point in small letters. -/
def smalls (c : CodePoint) : Text :=
  if 0x41 ≤ c ∧ c ≤ 0x5A then [c + 0x20]
  else if c = 0x130 then [0x69, 0x307]
  else if c = 0x212A then "k"
  else [c]

end CodePoint

namespace Text

/-- The text in capitals. -/
def capitals (t : Text) : Text := t.flatMap CodePoint.capitals

/-- The text in small letters. -/
def smalls (t : Text) : Text := t.flatMap CodePoint.smalls

end Text

end DeviceWarnings
