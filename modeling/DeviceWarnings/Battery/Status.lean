import DeviceWarnings.Fault
import DeviceWarnings.Text
import DeviceWarnings.Text.LetterCase

/-!
# Battery status

The charge states and health problems that a battery reports. A report names them in any letter
case and with spaces for underscores; a name that is not recognised, or missing, is unknown, and
an unknown status is not trusted to act on.
-/

namespace DeviceWarnings

/-- A charge state or a state of health. -/
inductive BatteryStatus where
  | unknown
  | charging
  | discharging
  | notCharging
  | full
  | good
  | overheat
  | dead
  | overVoltage
  | unspecifiedFailure
  | cold
  deriving DecidableEq, Repr

namespace BatteryStatus

/-- The name of a status. -/
def name : BatteryStatus → String
  | unknown => "UNKNOWN"
  | charging => "CHARGING"
  | discharging => "DISCHARGING"
  | notCharging => "NOT_CHARGING"
  | full => "FULL"
  | good => "GOOD"
  | overheat => "OVERHEAT"
  | dead => "DEAD"
  | overVoltage => "OVER_VOLTAGE"
  | unspecifiedFailure => "UNSPECIFIED_FAILURE"
  | cold => "COLD"

/-- All statuses. -/
def all : List BatteryStatus :=
  [unknown, charging, discharging, notCharging, full, good, overheat, dead, overVoltage,
    unspecifiedFailure, cold]

/-- The spelling of a reported name by which it is looked up. -/
def canonical (t : Text) : Text :=
  t.trim.capitals.map fun c => if c = .ofChar ' ' then .ofChar '_' else c

/-- The status with a reported name. -/
def ofText (t : Text) : BatteryStatus :=
  (all.find? fun status => Text.ofString status.name = canonical t).getD unknown

/-- The status in a report: nothing, or a value that counts as no, is unknown, and any other
value has to be a text. -/
def ofReported (value : Option Value) : Except Fault BatteryStatus :=
  match value with
  | none => .ok unknown
  | some (.text t) => .ok (ofText t)
  | some v => if v.truth then .error (.noMember v.kind "strip") else .ok unknown

/-- Whether the status may be acted on. -/
def isTrustworthy (status : BatteryStatus) : Bool := status != unknown

end BatteryStatus

end DeviceWarnings
