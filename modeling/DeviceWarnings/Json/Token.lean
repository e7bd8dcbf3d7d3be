import DeviceWarnings.Text.Numeral
import DeviceWarnings.Value.Text

/-!
# Tokens of JSON

A JSON text is a list of tokens with blanks between them. `JsonToken.scan` takes the longest
token that a text starts with, and says how many further code points belong to it; where no token
starts, the scan ends with an invalid one. NaN and the infinities count as numbers. A number is
whole when it has neither fraction nor exponent, and one of too many digits is a token of its
own, since it is a fault only where a value may stand.
-/

namespace DeviceWarnings

/-- A token of JSON. -/
inductive JsonToken where
  | openList
  | closeList
  | openMapping
  | closeMapping
  | comma
  | colon
  | scalar (value : Value)
  | text (value : Text)
  | longNumber (digits : Nat)
  | invalid

namespace JsonToken

/-- The four blanks that may stand between tokens. -/
def isSpacing (c : CodePoint) : Bool := c = 0x20 || c = 0x09 || c = 0x0A || c = 0x0D

/-- The value of an ASCII digit. -/
def digit? (c : CodePoint) : Option Nat :=
  if 0x30 ≤ c ∧ c ≤ 0x39 then some (c.val - 0x30) else none

/-- The value of a hexadecimal digit. -/
def hexDigit? (c : CodePoint) : Option Nat :=
  if 0x30 ≤ c ∧ c ≤ 0x39 then some (c.val - 0x30)
  else if 0x61 ≤ c ∧ c ≤ 0x66 then some (c.val - 0x57)
  else if 0x41 ≤ c ∧ c ≤ 0x46 then some (c.val - 0x37)
  else none

/-- The code point of four hexadecimal digits. -/
def hexEscape? (a b c d : CodePoint) : Option CodePoint := do
  let n := 4096 * (← hexDigit? a) + 256 * (← hexDigit? b) + 16 * (← hexDigit? c) + (← hexDigit? d)
  if h : n < 0x110000 then some ⟨n, h⟩ else none

/-- The code point that a letter after a backslash stands for. -/
def escape? (c : CodePoint) : Option CodePoint :=
  if c = .ofChar '"' ∨ c = .ofChar '\\' ∨ c = .ofChar '/' then some c
  else if c = .ofChar 'b' then some 0x08
  else if c = .ofChar 'f' then some 0x0C
  else if c = .ofChar 'n' then some 0x0A
  else if c = .ofChar 'r' then some 0x0D
  else if c = .ofChar 't' then some 0x09
  else none

/-- The rest of a text after its opening quote: its code points, and how many were read up to
and with the closing quote. -/
def scanText : Text → Option (Text × Nat)
  | [] => none
  | c :: rest =>
    if c = .ofChar '"' then some ([], 1)
    else if c < 0x20 then none
    else if c = .ofChar '\\' then
      match rest with
      | [] => none
      | mark :: tail =>
        if mark = .ofChar 'u' then
          match tail with
          | h₁ :: h₂ :: h₃ :: h₄ :: after =>
            match hexEscape? h₁ h₂ h₃ h₄, scanText after with
            | some code, some (t, n) => some (code :: t, n + 6)
            | _, _ => none
          | _ => none
        else
          match escape? mark, scanText tail with
          | some code, some (t, n) => some (code :: t, n + 2)
          | _, _ => none
    else (scanText rest).map fun (t, n) => (c :: t, n + 1)

/-- The code point of a high and a low surrogate. -/
def surrogatePair? (high low : CodePoint) : Option CodePoint :=
  if 0xD800 ≤ high ∧ high ≤ 0xDBFF ∧ 0xDC00 ≤ low ∧ low ≤ 0xDFFF then
    some (0x10000 + (high - 0xD800) * 0x400 + (low - 0xDC00))
  else none

/-- The text with each pair of surrogates as one code point; single surrogates stay. -/
def joinSurrogates : Text → Text
  | high :: low :: rest =>
    match surrogatePair? high low with
    | some c => c :: joinSurrogates rest
    | none => high :: joinSurrogates (low :: rest)
  | t => t

/-- The digits that a text starts with. -/
def leadingDigits (t : Text) : List Nat :=
  match t with
  | [] => []
  | c :: rest =>
    match digit? c with
    | some d => d :: leadingDigits rest
    | none => []

/-- The point and the digits after it, if there are both; how many code points that takes. -/
def scanFraction (t : Text) : List Nat × Nat :=
  match t with
  | c :: rest =>
    let digits := leadingDigits rest
    if c = .ofChar '.' ∧ digits ≠ [] then (digits, digits.length + 1) else ([], 0)
  | [] => ([], 0)

/-- The exponent mark, a sign and digits, if there are both mark and digits; how many code
points that takes. -/
def scanExponent (t : Text) : Int × Nat :=
  match t with
  | mark :: rest =>
    let signed := rest.head? = some (.ofChar '-') ∨ rest.head? = some (.ofChar '+')
    let digits := leadingDigits (if signed then rest.drop 1 else rest)
    if (mark = .ofChar 'e' ∨ mark = .ofChar 'E') ∧ digits ≠ [] then
      ((Numeral.mk (rest.head? = some (.ofChar '-')) digits [] 0).toInt,
        digits.length + if signed then 2 else 1)
    else (0, 0)
  | [] => (0, 0)

/-- The digits before the point: a single zero, or digits that do not start with zero. -/
def scanWhole (t : Text) : List Nat :=
  match leadingDigits t with
  | 0 :: _ => [0]
  | digits => digits

/-- The number that a text starts with after its sign, and how many code points it takes. -/
def scanNumber (negative : Bool) (t : Text) : JsonToken × Nat :=
  let whole := scanWhole t
  let (fraction, afterPoint) := scanFraction (t.drop whole.length)
  let (exponent, afterMark) := scanExponent (t.drop (whole.length + afterPoint))
  let numeral : Numeral := ⟨negative, whole, fraction, exponent⟩
  if whole = [] then
    if negative ∧ (Text.ofString "Infinity").isPrefixOf t then
      (scalar (.number (.binary (.infinity true))), "Infinity".length)
    else (invalid, 0)
  else if afterPoint + afterMark = 0 then
    (if digitLimit < whole.length then longNumber whole.length
      else scalar (.number (.integer numeral.toInt)), whole.length)
  else (scalar (.number (.binary numeral.toBinary)), whole.length + afterPoint + afterMark)

/-- The words that stand for values. -/
def words : List (String × Value) :=
  [("null", .null), ("true", .flag true), ("false", .flag false),
    ("NaN", .number (.binary .nan)), ("Infinity", .number (.binary (.infinity false)))]

/-- The word that a text starts with, and how many code points follow its first. -/
def scanWord (t : Text) : JsonToken × Nat :=
  match words.find? fun word => (Text.ofString word.1).isPrefixOf t with
  | some (word, value) => (scalar value, word.length - 1)
  | none => (invalid, 0)

/-- The token that starts with a code point that is no blank, and how many of the code points
after it belong to it. -/
def scan (c : CodePoint) (rest : Text) : JsonToken × Nat :=
  if c = .ofChar '[' then (openList, 0)
  else if c = .ofChar ']' then (closeList, 0)
  else if c = .ofChar '\x7b' then (openMapping, 0)
  else if c = .ofChar '\x7d' then (closeMapping, 0)
  else if c = .ofChar ',' then (comma, 0)
  else if c = .ofChar ':' then (colon, 0)
  else if c = .ofChar '"' then
    match scanText rest with
    | some (t, n) => (text (joinSurrogates t), n)
    | none => (invalid, 0)
  else if c = .ofChar '-' then scanNumber true rest
  else if (digit? c).isSome then
    let (token, n) := scanNumber false (c :: rest)
    (token, n - 1)
  else scanWord (c :: rest)

/-- The tokens of a text. -/
def tokens : Text → List JsonToken
  | [] => []
  | c :: rest =>
    if isSpacing c then tokens rest
    else (scan c rest).1 :: tokens (rest.drop (scan c rest).2)
termination_by t => t.length
decreasing_by all_goals simp only [List.length_cons, List.length_drop]; omega

end JsonToken

end DeviceWarnings
