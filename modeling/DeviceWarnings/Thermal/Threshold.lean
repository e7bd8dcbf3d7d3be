import DeviceWarnings.Value.Amount

/-!
# The overheating threshold

The threshold is either configured, or derived from the temperature at which the device shuts
down less a tolerance. A configured value of -1, or none, asks for derivation. Settings that make
no sense, and a missing shutdown temperature, leave the channel without a threshold.
-/

namespace DeviceWarnings

/-- Where a threshold comes from. -/
inductive ThresholdOrigin where
  | configured
  | derived (shutdown tolerance : Binary64)
  deriving DecidableEq

/-- A temperature from which on the device counts as overheating. -/
structure ThermalThreshold where
  value : Binary64
  origin : ThresholdOrigin := .configured
  deriving DecidableEq

/-- The limit that a threshold sets. -/
def ThermalThreshold.limit (threshold : ThermalThreshold) : Value := threshold.value

/-- Why there is no threshold. -/
inductive ThresholdProblem where
  | invalidTemperature (configured : Value)
  | shutdownUnavailable
  | invalidTolerance (tolerance : Value)
  deriving DecidableEq

/-- The warning about a threshold problem; an unavailable shutdown temperature is passed over in
silence. -/
def ThresholdProblem.warning? : ThresholdProblem → Option Text
  | invalidTemperature configured =>
    some ("Invalid warning temperature " ++ configured.shown ++ ", thermal warnings disabled")
  | shutdownUnavailable => none
  | invalidTolerance tolerance =>
    some ("Invalid temperature tolerance " ++ tolerance.shown ++ ", thermal warnings disabled")

/-- Whether a tolerance or a configured temperature is there and not negative. -/
def isUsable (v : Value) : Except Fault Bool := do
  if ← v.isMissing then return false else return !(← Comparison.less.holds v 0)

/-- The threshold that lies a tolerance below the shutdown temperature. -/
def deriveThreshold (shutdown tolerance : Value) :
    Except Fault (Except ThresholdProblem ThermalThreshold) := do
  if ← shutdown.isMissing then return .error .shutdownUnavailable
  else if ← isUsable tolerance then
    let (high, margin) := (← shutdown.figure, ← tolerance.figure)
    return .ok ⟨high - margin, .derived high margin⟩
  else return .error (.invalidTolerance tolerance)

/-- The threshold for a configured temperature. -/
def configuredThreshold (configured : Value) :
    Except Fault (Except ThresholdProblem ThermalThreshold) := do
  if ← isUsable configured then return .ok ⟨← configured.figure, .configured⟩
  else return .error (.invalidTemperature configured)

/-- The threshold for a configured temperature, a shutdown temperature and a tolerance. -/
def resolveThreshold (configured shutdown tolerance : Value) :
    Except Fault (Except ThresholdProblem ThermalThreshold) :=
  if configured = .null ∨ configured.same deriveMark then deriveThreshold shutdown tolerance
  else configuredThreshold configured

end DeviceWarnings
