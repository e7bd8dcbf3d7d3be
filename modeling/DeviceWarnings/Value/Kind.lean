import DeviceWarnings.Value

/-!
# Kinds of values

Complaints about a value name its kind, and complaints about two values that have no order name
the comparison that was asked for.
-/

namespace DeviceWarnings

/-- A kind of values; whole numbers and binary64 numbers are two kinds. -/
inductive Kind where
  | null
  | flag
  | whole
  | binary
  | text
  | list
  | mapping
  deriving DecidableEq, Repr

/-- The name of a kind in messages. -/
def Kind.name : Kind → String
  | null => "NoneType"
  | flag => "bool"
  | whole => "int"
  | binary => "float"
  | text => "str"
  | list => "list"
  | mapping => "dict"

/-- The kind of a value. -/
def Value.kind : Value → Kind
  | .null => .null
  | .flag _ => .flag
  | .number (.integer _) => .whole
  | .number (.binary _) => .binary
  | .text _ => .text
  | .list _ => .list
  | .mapping _ => .mapping

/-- A way to compare two values. -/
inductive Comparison where
  | less
  | atMost
  | greater
  | atLeast
  deriving DecidableEq, Repr

/-- The sign of a comparison in messages. -/
def Comparison.sign : Comparison → String
  | less => "<"
  | atMost => "<="
  | greater => ">"
  | atLeast => ">="

end DeviceWarnings
