import DeviceWarnings.Sensor
import DeviceWarnings.Settings
import DeviceWarnings.Value.Kind
import DeviceWarnings.Value.Text

/-!
# Faults

What can go wrong, by cause, and the message of each. Two families are expected and contained by
a poll: settings that cannot be used, and telemetry that is unavailable. All others end the poll
in which they arise. Callbacks and the monitor loop contain all faults but interruptions.
-/

namespace DeviceWarnings

/-- Why a settings file cannot be read. -/
inductive Unreadable where
  | isDirectory
  | notUnicode
  | notJson
  deriving DecidableEq, Repr

/-- Why settings cannot be used. -/
inductive SettingsProblem where
  | notFlag (key : SettingKey) (value : Value)
  | notNumber (key : SettingKey) (value : Value)
  | unknownPolicy (key : SettingKey) (value : Value)
  | unreadable (path : String) (cause : Unreadable)
  | notMapping (path : String)
  | reported (text : String)
  deriving DecidableEq

namespace SettingsProblem

/-- A setting with its value, as messages show them. -/
def about (key : SettingKey) (complaint : String) (value : Value) : String :=
  "Setting " ++ (Text.ofString key.name).quoted ++ " " ++ complaint ++ ": " ++ value.render

/-- The message of a problem with settings. -/
def message : SettingsProblem → String
  | notFlag key value => about key "is not a boolean" value
  | notNumber key value => about key "is not a number" value
  | unknownPolicy key value => about key "has unknown policy" value
  | unreadable path _ => "Cannot read settings " ++ path
  | notMapping path => "Settings " ++ path ++ " must be a JSON object"
  | reported text => text

end SettingsProblem

/-- Why telemetry is unavailable. -/
inductive Outage where
  | noZone (sensor : SensorClass)
  | temperatureUnreadable (sensor : SensorClass)
  | shutdownUnreadable (sensor : SensorClass)
  | noCriticalTrip (sensor : SensorClass)
  | percentageMissing (value : Value)
  | percentageNotFinite (value : Value)
  | reported (text : String)
  deriving DecidableEq

/-- The message of an outage. -/
def Outage.message : Outage → String
  | noZone sensor => "No thermal zone for " ++ sensor.name
  | temperatureUnreadable sensor => sensor.name ++ " temperature unreadable"
  | shutdownUnreadable sensor => sensor.name ++ " shutdown trip unreadable"
  | noCriticalTrip sensor => "No critical trip point for " ++ sensor.name
  | percentageMissing value => "Battery percentage missing: " ++ value.render
  | percentageNotFinite value => "Battery percentage not a number: " ++ value.render
  | reported text => text

/-- What can go wrong. -/
inductive Fault where
  /-- The settings cannot be used. -/
  | settings (problem : SettingsProblem)
  /-- Telemetry is unavailable. -/
  | unavailable (outage : Outage)
  /-- A whole number is too large for binary64 arithmetic. -/
  | numberTooLarge
  /-- A whole number in a file or report has too many digits to be read. -/
  | tooManyDigits (count : Nat)
  /-- Lists or mappings in a file or report lie too deep in one another to be read. -/
  | tooDeep (kind : Kind)
  /-- A whole number has too many digits to be written. -/
  | unwritable
  /-- A bucket was asked for without warning levels. -/
  | noWarningLevels
  /-- A report was read without warning levels. -/
  | firstLevelMissing
  /-- No warning level is at or above the level. -/
  | noLevelReached
  /-- A history was asked to keep a negative number of samples. -/
  | negativeCapacity
  /-- A history was asked to keep more samples than can be counted. -/
  | capacityTooLarge
  /-- A value is no whole number where one is needed. -/
  | notWhole (kind : Kind)
  /-- A value is no number where one is needed. -/
  | notNumber (kind : Kind)
  /-- A value is neither a number nor a numeral where one of them is needed. -/
  | notFigure (kind : Kind)
  /-- A value is no temperature: neither missing, nor a number that fits into a machine word. -/
  | notTemperature
  /-- A temperature is a list with no number in it. -/
  | noTemperature
  /-- A temperature is a list of several numbers. -/
  | manyTemperatures
  /-- Lists in a list are of different lengths. The extents are those of its regular part. -/
  | notTable (extents : List Nat)
  /-- Lists in a list are too deep in one another. -/
  | tooManyDimensions (limit : Nat)
  /-- A text is no numeral where a number is needed. -/
  | notNumeral (text : Text)
  /-- Two values have no order. -/
  | incomparable (comparison : Comparison) (left right : Kind)
  /-- A value was to be written with a fixed count of places and is no number. -/
  | notFixed (kind : Kind)
  /-- A value is no mapping, or no text, and so has no part of the name that is asked for. -/
  | noMember (kind : Kind) (member : String)
  /-- A file is not text. -/
  | notUnicode
  /-- A collaborator took too long. -/
  | timeout
  /-- A collaborator or callback failed by itself. -/
  | crash (text : Text)
  /-- What was being done was cancelled. -/
  | cancelled
  /-- The program was asked to end. -/
  | ending
  deriving DecidableEq

namespace Fault

/-- The extents of a table between parentheses. -/
def extentsText (extents : List Nat) : String :=
  match extents with
  | [n] => "(" ++ toString n ++ ",)"
  | _ => "(" ++ ", ".intercalate (extents.map toString) ++ ")"

/-- The message of a fault. -/
def message : Fault → Text
  | settings problem => problem.message
  | unavailable outage => outage.message
  | numberTooLarge => "int too large to convert to float"
  | tooManyDigits count =>
    "Exceeds the limit (4300 digits) for integer string conversion: value has " ++
      toString count ++ " digits; use sys.set_int_max_str_digits() to increase the limit"
  | tooDeep kind =>
    "maximum recursion depth exceeded while decoding a JSON " ++
      (if kind = .mapping then "object" else "array") ++ " from a unicode string"
  | unwritable =>
    "Exceeds the limit (4300 digits) for integer string conversion; " ++
      "use sys.set_int_max_str_digits() to increase the limit"
  | noWarningLevels => "warning_levels must not be empty"
  | firstLevelMissing => "tuple index out of range"
  | noLevelReached => "max() arg is an empty sequence"
  | negativeCapacity => "maxlen must be non-negative"
  | capacityTooLarge => "Python int too large to convert to C ssize_t"
  | notWhole kind => "'" ++ kind.name ++ "' object cannot be interpreted as an integer"
  | notNumber kind => "must be real number, not " ++ kind.name
  | notFigure kind =>
    "float() argument must be a string or a real number, not '" ++ kind.name ++ "'"
  | notTemperature =>
    "ufunc 'isnan' not supported for the input types, and the inputs could not be safely " ++
      "coerced to any supported types according to the casting rule ''safe''"
  | noTemperature =>
    "The truth value of an empty array is ambiguous. Use `array.size > 0` to check that an " ++
      "array is not empty."
  | manyTemperatures =>
    "The truth value of an array with more than one element is ambiguous. " ++
      "Use a.any() or a.all()"
  | notTable extents =>
    "setting an array element with a sequence. The requested array has an inhomogeneous shape " ++
      "after " ++ toString extents.length ++ " dimensions. The detected shape was " ++
      extentsText extents ++ " + inhomogeneous part."
  | tooManyDimensions limit =>
    "setting an array element with a sequence. The requested array would exceed the maximum " ++
      "number of dimension of " ++ toString limit ++ "."
  | notNumeral t => "could not convert string to float: " ++ t.quoted
  | incomparable comparison left right =>
    "'" ++ comparison.sign ++ "' not supported between instances of '" ++ left.name ++ "' and '" ++
      right.name ++ "'"
  | notFixed .text => "Unknown format code 'f' for object of type 'str'"
  | notFixed kind => "unsupported format string passed to " ++ kind.name ++ ".__format__"
  | noMember kind member => "'" ++ kind.name ++ "' object has no attribute '" ++ member ++ "'"
  | notUnicode => "invalid UTF-8"
  | timeout | cancelled | ending => ""
  | crash text => text

/-- Whether a fault is an interruption: those who contain faults of every kind let it pass. -/
def isInterruption : Fault → Bool
  | cancelled | ending => true
  | _ => false

/-- The complaint about a value, if the value can be written in its message. -/
def concerning (value : Value) (fault : Fault) : Fault :=
  if value.isWritable then fault else unwritable

end Fault

/-- A value that is to stand in a message has to be writable. -/
def Value.checkWritable (v : Value) : Except Fault Unit :=
  if v.isWritable then .ok () else .error .unwritable

end DeviceWarnings
