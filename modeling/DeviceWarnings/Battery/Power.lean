import DeviceWarnings.Battery.Bucket
import DeviceWarnings.Battery.Status

/-!
# Power readings

What is known about the power supply at one poll, and how a battery report is read. A health
problem takes the place of a known charge status. The percentage has to be a finite number; its
fraction is dropped. Every value of `plugged` but `UNPLUGGED` means that the device is plugged
in, and entries other than these four do not matter.
-/

namespace DeviceWarnings

/-- The power supply at one poll: the charge level, if known, in percent, and the estimate of
the remaining time, if there is one, in seconds. All but the status is kept as it was told. The
level is shown in messages only. -/
structure PowerState where
  plugged : Value := .flag false
  powerSaver : Value := .flag false
  status : BatteryStatus := .discharging
  bucket : Value := 1
  level : Value := .null
  timeRemaining : Value := Binary64.infinity false
  deriving DecidableEq

instance : Inhabited PowerState := ⟨{}⟩

/-- The more accurate estimate of the remaining time in seconds, if it is enabled. -/
structure HybridEstimate where
  enabled : Value := .flag false
  timeRemaining : Value := Binary64.infinity false
  deriving DecidableEq

/-- The estimate in whole seconds, as reports show it. -/
def HybridEstimate.seconds (hybrid : HybridEstimate) : Except Fault String :=
  hybrid.timeRemaining.fixed 0

/-- The status of a battery with a charge status and a state of health. -/
def BatteryStatus.withHealth (status health : BatteryStatus) : BatteryStatus :=
  if status.isTrustworthy ∧ health ≠ .good ∧ health ≠ .unknown then health else status

/-- The whole percentage in a report. -/
def percentageOf (reported : Option Value) : Except Fault Int :=
  match reported with
  | some (.number n) =>
    match n.toBinary?, n.truncate? with
    | none, _ => .error .numberTooLarge
    | some _, some percentage => .ok percentage
    | some _, none => .error (.unavailable (.percentageNotFinite (.number n)))
  | other =>
    let value := other.getD .null
    .error (.concerning value (.unavailable (.percentageMissing value)))

/-- Whether a report says that the device is plugged in. -/
def isPlugged (reported : Option Value) : Bool :=
  match reported with
  | none => false
  | some (.text t) => t ≠ ("UNPLUGGED" : Text)
  | some _ => true

namespace PowerState

/-- The power state that the entries of a battery report describe. -/
def ofEntries (entries : Mapping) (levels : List Value) (closeOffset : Value)
    (powerSaver : Value) : Except Fault PowerState := do
  let status ← BatteryStatus.ofReported (entries.get? "status")
  let health ← BatteryStatus.ofReported (entries.get? "health")
  let percentage ← percentageOf (entries.get? "percentage")
  let first ← levels.head?.elim (.error .firstLevelMissing) .ok
  let level : Value := .number (.integer percentage)
  let bucket ← bucketOf level levels (← first.plus closeOffset)
  return {
    plugged := .flag (isPlugged (entries.get? "plugged"))
    powerSaver := powerSaver
    status := status.withHealth health
    bucket := .number (.integer bucket)
    level := level }

/-- The power state that a battery report describes; the report has to be a mapping. -/
def ofReport (report : Value) (levels : List Value := defaultWarningLevels)
    (closeOffset : Value := defaultCloseOffset) (powerSaver : Value := .flag false) :
    Except Fault PowerState :=
  match report with
  | .mapping entries => ofEntries entries levels closeOffset powerSaver
  | v => .error (.noMember v.kind "get")

end PowerState

end DeviceWarnings
