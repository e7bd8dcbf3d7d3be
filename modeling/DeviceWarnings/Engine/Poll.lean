import DeviceWarnings.Engine.Readings

/-!
# Polls

A poll has two halves. The first reads the settings and the temperatures and raises or clears
the overheating warning; the second reads the power supply and raises or dismisses the low
battery warning. Only the second half counts the poll as completed. Each change of a warning is
put on display before it is carried in the state, and recorded as an event. A change of the
battery warning is carried together with the power reading, at the end of the section. Its event
tells the level when the warning is raised: a level that cannot be written ends the poll when the
warning is already on display.
-/

namespace DeviceWarnings

/-- A temperature as messages show it. -/
def degrees (x : Binary64) : String := x.fixed 1 ++ "°C"

/-- The statistics line of a summary. -/
def TemperatureSummary.line (s : TemperatureSummary) : String :=
  "Skin temps over " ++ toString s.count ++ " samples: mean " ++ degrees s.mean ++
    ", median " ++ degrees s.median ++ ", max " ++ degrees s.max

namespace Section

/-- Logs the statistics of the temperatures and starts anew, unless the last time is too
recent. -/
def logStatistics (clock : Binary64) : Section Unit := do
  let e ← engine
  if ((clock - e.lastStatistics : Binary64) : Number) < statisticsInterval then pure ()
  else do
    let summary ← ofExcept e.temperatures.summary
    summary.forM fun summary => log .info .engine summary.line
    modify fun e => { e with temperatures := e.temperatures.clear, lastStatistics := clock }

/-- Keeps a temperature that was read. -/
def noteTemperature (clock : Binary64) (reading : Value) : Section Unit := do
  if reading = .null then pure ()
  else do
    let temperatures ← ofExcept ((← engine).temperatures.append reading)
    modify fun e => { e with temperatures }
    logStatistics clock

/-- Warns about settings that leave no threshold. -/
def warnThreshold (threshold : Except ThresholdProblem ThermalThreshold) : Section Unit :=
  match threshold with
  | .error problem => problem.warning?.forM (log .warning .thermal)
  | .ok _ => return

/-- Puts a change of the overheating warning on display and carries it in the state. -/
def changeThermal (action : WarningAction) : Section Unit := do
  perform (.present .thermal action)
  modify fun e => { e with state := { e.state with thermalWarning := .after action } }

/-- Acts on a decision about overheating. -/
def actOnThermal (clock : Binary64) (source : WarningSource) (current : Binary64)
    (decision : ThermalDecision) : Section Unit :=
  match decision.action, decision.threshold with
  | some .raise, some threshold => do
    log .warning .engine ("Skin temperature " ++ degrees current ++ " >= threshold " ++
      degrees threshold.value ++ " (" ++ source.label ++ ")")
    changeThermal .raise
    record clock .thermal .raise (degrees current ++ " >= " ++ degrees threshold.value)
  | some .dismiss, _ => do
    changeThermal .dismiss
    record clock .thermal .dismiss ("cooled to " ++ degrees current)
  | _, _ => return

/-- The thermal section of a poll. -/
def pollThermal (settings : WarningSettings) (readings : ThermalReadings) :
    Section ThermalDecision := do
  let evaluator := ThermalEvaluator.ofSettings settings
  let current ← readTemperature readings.current
  let shutdown ←
    if ← ofExcept evaluator.readsShutdown then readTemperature readings.shutdown else pure .null
  noteTemperature readings.clock current
  let threshold ← ofExcept (evaluator.threshold shutdown)
  warnThreshold threshold
  let e ← engine
  let decision ←
    ofExcept (evaluator.decision current threshold.toOption e.state.thermalWarning)
  actOnThermal readings.clock settings.warningSource current.nearest decision
  return decision

/-- Acts on a decision about the battery. -/
def actOnBattery (clock : Binary64) (power : PowerState) (seconds : String)
    (decision : BatteryDecision) : Section Unit := do
  let before := (← engine).state.previous.bucket
  let buckets := "bucket " ++ before.shown ++ "->" ++ power.bucket.shown
  match decision.action with
  | some .raise => do
    perform (.present .battery .raise)
    ofExcept power.level.checkWritable
    record clock .battery .raise
      (buckets ++ ", level " ++ power.level.shown ++ "%, hybrid " ++ seconds ++ "s")
  | some .dismiss => do
    perform (.present .battery .dismiss)
    record clock .battery .dismiss ("plugged=" ++ power.plugged.shown ++ " saver=" ++
      power.powerSaver.shown ++ " " ++ buckets)
  | none => return

/-- The battery section of a poll with a power state. -/
def pollPower (settings : WarningSettings) (readings : PowerReadings) (power : PowerState) :
    Section BatteryDecision := do
  let hybrid ← ofExcept readings.hybrid.estimate
  let e ← engine
  let decision ← ofExcept ((BatteryThresholds.ofSettings settings).evaluate e.state.previous power
    hybrid e.state.batteryWarning)
  let seconds ← ofExcept hybrid.seconds
  actOnBattery readings.clock power seconds decision
  modify fun e =>
    { e with
      state := { e.state with
        previous := ⟨power.bucket, power.plugged⟩
        batteryWarning := e.state.batteryWarning.afterAction decision.action } }
  return decision

/-- The battery section of a poll; without a power state there is no decision. -/
def pollBattery (settings : WarningSettings) (readings : PowerReadings) :
    Section (Option BatteryDecision) := do
  match ← readPower readings.power with
  | none => return none
  | some power => return some (← pollPower settings readings power)

/-- The first half of a poll: the settings, and the decision about overheating. -/
def pollFirst (readings : ThermalReadings) : Section (WarningSettings × ThermalDecision) := do
  let settings ← readSettings readings.settings
  return (settings, ← pollThermal settings readings)

/-- The second half of a poll. -/
def pollSecond (settings : WarningSettings) (thermal : ThermalDecision)
    (readings : PowerReadings) : Section PollReport := do
  let battery ← pollBattery settings readings
  modify fun e => { e with pollsCompleted := e.pollsCompleted + 1 }
  return ⟨(← engine).state, thermal, battery⟩

/-- One poll up to its callbacks. -/
def poll (readings : Readings) : Section PollReport := do
  let (settings, thermal) ← pollFirst readings.thermal
  pollSecond settings thermal readings.power

end Section

end DeviceWarnings
