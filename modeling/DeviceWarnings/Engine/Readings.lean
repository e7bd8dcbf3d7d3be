import DeviceWarnings.Engine.Section

/-!
# Readings

What the sources of a poll answer, each with a value or a fault, and what the engine makes of
it. Unusable settings give way to the defaults; an outage of a sensor, of the power supply or of
the hybrid estimate means that there is no reading; a power reading may also take too long. All
other faults end the poll.
-/

namespace DeviceWarnings

/-- What the sources answer in the first half of a poll, and when. -/
structure ThermalReadings where
  clock : Binary64
  settings : Except Fault WarningSettings
  current : Except Fault Value
  shutdown : Except Fault Value

/-- What the sources answer about the hybrid estimate. -/
structure HybridReadings where
  enabled : Except Fault Bool
  time : Except Fault Value

/-- What the sources answer in the second half of a poll, and when. -/
structure PowerReadings where
  clock : Binary64
  power : Except Fault (Option PowerState)
  hybrid : HybridReadings

/-- What the sources answer in one poll. -/
structure Readings where
  thermal : ThermalReadings
  power : PowerReadings

namespace Section

/-- Counts a failed read. -/
def countFailure : Section Unit := modify fun e => { e with readFailures := e.readFailures + 1 }

/-- The settings, or the defaults if they cannot be used. -/
def readSettings (answer : Except Fault WarningSettings) : Section WarningSettings :=
  match answer with
  | .error (.settings problem) => do
    log .error .engine ("Invalid settings, using config defaults: " ++ problem.message)
    return {}
  | answer => ofExcept answer

/-- A temperature, or null if it is not available. -/
def readTemperature (answer : Except Fault Value) : Section Value :=
  match answer with
  | .error (.unavailable _) => do
    countFailure
    return .null
  | answer => ofExcept answer

/-- The power state, if it is available in time. -/
def readPower (answer : Except Fault (Option PowerState)) : Section (Option PowerState) :=
  match answer with
  | .error (.unavailable _) | .error .timeout => do
    countFailure
    return none
  | answer => ofExcept answer

end Section

/-- The hybrid estimate. While it is unavailable it counts as enabled and unknown: it neither
calls for a warning nor agrees to a dismissal. -/
def HybridReadings.estimate (answers : HybridReadings) : Except Fault HybridEstimate :=
  match answers.enabled, answers.time with
  | .ok false, _ => .ok {}
  | .ok true, .ok time => .ok ⟨.flag true, time⟩
  | .error (.unavailable _), _ | .ok true, .error (.unavailable _) =>
    .ok ⟨.flag true, Binary64.nan⟩
  | .error fault, _ | .ok true, .error fault => .error fault

end DeviceWarnings
