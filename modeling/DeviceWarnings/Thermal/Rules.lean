import DeviceWarnings.Thermal.Threshold
import DeviceWarnings.Warning

/-!
# Overheating rules

An overheating warning is raised when warnings are enabled and the temperature has reached the
threshold. A shown warning is cleared when the policy allows it and the temperature has fallen
below the threshold by more than the margin. A missing temperature or threshold does neither, and
a decision raises only a hidden warning and clears only a shown one.

The rules look at an amount only when its turn comes: without a threshold a temperature of the
wrong kind does no harm.
-/

namespace DeviceWarnings

/-- Whether a temperature calls for an overheating warning. -/
def overheats (current : Value) (limit : Option Value) (enabled : Bool) : Except Fault Bool :=
  match enabled, limit with
  | true, some limit => do
    if ← current.isMissing then return false else Comparison.atLeast.holds current limit
  | _, _ => .ok false

/-- A margin, at least zero; NaN stays NaN. -/
def atLeastZero (margin : Value) : Except Fault Value := do
  let zero : Value := Binary64.zero
  return if ← Comparison.greater.holds zero margin then zero else margin

/-- Whether a temperature allows a shown overheating warning to be cleared. -/
def hasCooled (current : Value) (limit : Option Value) (policy : ClearPolicy)
    (margin : Value) : Except Fault Bool :=
  match policy, limit with
  | .onCooldown, some limit => do
    if ← current.isMissing then return false
    else Comparison.less.holds current (← limit.minus (← atLeastZero margin))
  | _, _ => .ok false

/-- What is to be done about overheating, and the threshold behind it. -/
structure ThermalDecision where
  action : Option WarningAction := none
  threshold : Option ThermalThreshold := none
  deriving DecidableEq

/-- The limit of the threshold behind a decision. -/
def ThermalDecision.limit (decision : ThermalDecision) : Option Value :=
  decision.threshold.map ThermalThreshold.limit

/-- The settings of overheating warnings. -/
structure ThermalEvaluator where
  enabled : Bool
  configured : Value := deriveMark
  tolerance : Value := ({} : WarningSettings).warningTemperatureTolerance
  policy : ClearPolicy := .onCooldown
  margin : Value := ({} : WarningSettings).thermalClearMargin
  deriving DecidableEq

namespace ThermalEvaluator

/-- The part of the settings that overheating warnings use. -/
def ofSettings (settings : WarningSettings) : ThermalEvaluator where
  enabled := settings.showTemperatureWarning.truth
  configured := settings.warningTemperature
  tolerance := settings.warningTemperatureTolerance
  policy := settings.thermalClearPolicy
  margin := settings.thermalClearMargin

/-- Whether the shutdown temperature is worth a reading: no temperature is configured, or a
negative one. -/
def readsShutdown (e : ThermalEvaluator) : Except Fault Bool :=
  if e.configured = .null then .ok true else Comparison.less.holds e.configured 0

/-- The threshold for a shutdown temperature, or why there is none. -/
def threshold (e : ThermalEvaluator) (shutdown : Value) :
    Except Fault (Except ThresholdProblem ThermalThreshold) :=
  resolveThreshold e.configured shutdown e.tolerance

/-- The decision for a temperature and the state of the warning, when the threshold is known. -/
def decision (e : ThermalEvaluator) (current : Value) (threshold : Option ThermalThreshold)
    (state : WarningState) : Except Fault ThermalDecision :=
  let limit := threshold.map ThermalThreshold.limit
  match state with
  | .hidden => do
    let hot ← overheats current limit e.enabled
    return ⟨if hot then some .raise else none, threshold⟩
  | .shown => do
    let cooled ← hasCooled current limit e.policy e.margin
    return ⟨if cooled then some .dismiss else none, threshold⟩

/-- The decision for a temperature, a shutdown temperature and the state of the warning. -/
def evaluate (e : ThermalEvaluator) (current shutdown : Value) (state : WarningState) :
    Except Fault ThermalDecision := do
  e.decision current (← e.threshold shutdown).toOption state

end ThermalEvaluator

end DeviceWarnings
