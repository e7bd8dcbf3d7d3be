import DeviceWarnings.Battery.Power
import DeviceWarnings.Device.Tree
import DeviceWarnings.Json.Reader

/-!
# Power commands

The power state of a device comes from two commands: one prints a battery report, the other
whether power is being saved. A command counts only when it ends in time, with success and with
text as its output. Without a usable battery report there is no power state.
-/

namespace DeviceWarnings

/-- How a command ended. -/
inductive CommandOutcome where
  | finished (exitCode : Nat) (output : ByteArray)
  | missing
  | timedOut

/-- The output of a successful command. -/
def CommandOutcome.text? : CommandOutcome → Option Text
  | finished exitCode output => if exitCode = 0 then decodeText output else none
  | missing | timedOut => none

/-- Whether the output of the power saver command says that power is being saved. -/
def savesPower (saver : CommandOutcome) : Bool :=
  saver.text?.any fun t => t.trim = ("1" : Text)

/-- The power state of a battery report, as far as the report makes sense. -/
def usableReport (report : Value) (powerSaver : Bool) : Except Fault (Option PowerState) :=
  match PowerState.ofReport report defaultWarningLevels defaultCloseOffset (.flag powerSaver) with
  | .ok power => .ok (some power)
  | .error (.noMember ..) | .error (.unavailable _) => .ok none
  | .error fault => .error fault

/-- The power state that the two commands tell; the report is read up to a limit of lists in one
another. -/
def readPowerState (limit : Nat) (battery saver : CommandOutcome) :
    Except Fault (Option PowerState) :=
  match battery.text? with
  | none => .ok none
  | some t =>
    match Value.ofJson limit t with
    | .ok report => usableReport report (savesPower saver)
    | .error .malformed => .ok none
    | .error (.tooManyDigits count) => .error (.tooManyDigits count)
    | .error (.tooDeep kind) => .error (.tooDeep kind)

end DeviceWarnings
