import DeviceWarnings.Engine.Poll

/-!
# Questions to the engine

The decisions of a poll can also be asked for one at a time, for readings of the caller's choice.
Settings that are not given are read, and so is whether the hybrid estimate is enabled.
-/

namespace DeviceWarnings

namespace Section

/-- The given settings, or those that are read. -/
def settingsOr (given : Option WarningSettings) (answer : Except Fault WarningSettings) :
    Section WarningSettings :=
  match given with
  | some settings => return settings
  | none => readSettings answer

/-- Whether the hybrid estimate is enabled, as given or, for null, as read. -/
def hybridOr (given : Value) (answers : HybridReadings) : Section Value :=
  if given = .null then do return (← ofExcept answers.estimate).enabled else return given

/-- Whether a temperature calls for an overheating warning. -/
def asksThermal (readings : Readings) (current shutdown : Value)
    (given : Option WarningSettings) : Section Bool := do
  let evaluator := ThermalEvaluator.ofSettings (← settingsOr given readings.thermal.settings)
  let threshold ← ofExcept (evaluator.threshold shutdown)
  warnThreshold threshold
  ofExcept (overheats current (threshold.toOption.map ThermalThreshold.limit) evaluator.enabled)

/-- The verdict on raising the low battery warning for a power state. -/
def asksRaise (readings : Readings) (previous : PreviousPower) (power : PowerState)
    (hybrid : HybridEstimate) (given : Option WarningSettings) : Section Value := do
  let enabled ← hybridOr hybrid.enabled readings.power.hybrid
  let thresholds := BatteryThresholds.ofSettings (← settingsOr given readings.thermal.settings)
  ofExcept (thresholds.raiseVerdict previous power { hybrid with enabled })

/-- Whether a power state allows the low battery warning to be dismissed. -/
def asksDismiss (readings : Readings) (previous : PreviousPower) (power : PowerState)
    (hybrid : HybridEstimate) (given : Option WarningSettings) : Section Bool := do
  let enabled ← hybridOr hybrid.enabled readings.power.hybrid
  let thresholds := BatteryThresholds.ofSettings (← settingsOr given readings.thermal.settings)
  ofExcept (thresholds.shouldDismiss previous power { hybrid with enabled })

end Section

end DeviceWarnings
