import DeviceWarnings.Number.Text
import DeviceWarnings.Text.Printable
import DeviceWarnings.Value

/-!
# How values are written

Messages show a value on one line: numbers as settings show them, texts in quotes, lists in
brackets and mappings in braces. Whole numbers of more than 4300 digits are not written; a value
that holds one is not `Value.isWritable`.
-/

namespace DeviceWarnings

/-- The most digits that a whole number may have to be read or written in decimal. -/
def digitLimit : Nat := 4300

namespace Value

mutual

/-- A value on one line. -/
def render : Value → String
  | null => "None"
  | flag true => "True"
  | flag false => "False"
  | number n => n.render
  | text t => t.quoted
  | list items => "[" ++ ", ".intercalate (renderItems items) ++ "]"
  | mapping entries => "\x7b" ++ ", ".intercalate (renderEntries entries) ++ "\x7d"

/-- The items of a list, each on one line. -/
def renderItems : List Value → List String
  | [] => []
  | item :: rest => item.render :: renderItems rest

/-- The entries of a mapping, each on one line. -/
def renderEntries : List (Text × Value) → List String
  | [] => []
  | (key, value) :: rest => (key.quoted ++ ": " ++ value.render) :: renderEntries rest

end

/-- A value as the running text of a message shows it: a text as it is, all else on one
line. -/
def shown : Value → Text
  | text t => t
  | v => v.render

mutual

/-- Whether no whole number in the value has too many digits to be written. -/
def isWritable : Value → Bool
  | number (.integer n) => n.natAbs < Decimal.tenPow digitLimit
  | list items => areWritable items
  | mapping entries => areEntriesWritable entries
  | _ => true

/-- Whether all items of a list are writable. -/
def areWritable : List Value → Bool
  | [] => true
  | item :: rest => item.isWritable && areWritable rest

/-- Whether all values of a mapping are writable. -/
def areEntriesWritable : List (Text × Value) → Bool
  | [] => true
  | (_, value) :: rest => value.isWritable && areEntriesWritable rest

end

/-- A whole number below 2^1025 is writable: it has 309 digits at most. -/
theorem isWritable_integer {n : Int} (h : n.natAbs < 1 <<< 1025) :
    (number (.integer n)).isWritable = true := by
  have hpow : 1 <<< 1025 ≤ Decimal.tenPow digitLimit := by decide +kernel
  simp only [isWritable, decide_eq_true_eq]
  exact Nat.lt_of_lt_of_le h hpow

end Value

end DeviceWarnings
