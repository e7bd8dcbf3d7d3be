import DeviceWarnings.Proofs.Decisions
import DeviceWarnings.Proofs.Display

/-!
# What a poll changes

Each half of a poll decides once and then acts on its decision. The decision of the first half is
the only thing it carries and displays; the second half carries the power reading along with its
own decision. A half that is cut off by a fault has changed neither warning: every fault comes
before the first change, but for one. The event of a raised battery warning tells the level, and a
level that cannot be written leaves the warning on display and not carried. So what a poll displays
is said apart from what it carries, and the two agree where the level can be written.
-/

namespace DeviceWarnings

/-- The carried state after a change of one warning, if there is one. -/
def PollState.change (s : PollState) (channel : Channel) (action : Option WarningAction) :
    PollState :=
  match channel with
  | .thermal => { s with thermalWarning := s.thermalWarning.afterAction action }
  | .battery => { s with batteryWarning := s.batteryWarning.afterAction action }

/-- Whether the charge level that the power source tells, if it tells one, can be written. Only a
whole number of more than 4300 digits cannot. -/
def Readings.HasWritableLevel (readings : Readings) : Prop :=
  ∀ power, readings.power.power = .ok (some power) → power.level.isWritable = true

/-- A power state in warning with the least charge level that cannot be written. -/
def PowerState.beyondWriting : PowerState where
  bucket := .number (.integer (-1))
  level := .number (.integer (Decimal.tenPow digitLimit))

namespace Section

/-- What the settings source comes to: unusable settings are the defaults. -/
def settingsFrom (answer : Except Fault WarningSettings) : Except Fault WarningSettings :=
  match answer with
  | .error (.settings _) => .ok {}
  | answer => answer

/-- What a temperature source comes to: an unavailable temperature is null. -/
def temperatureFrom (answer : Except Fault Value) : Except Fault Value :=
  match answer with
  | .error (.unavailable _) => .ok .null
  | answer => answer

/-- What the power source comes to: without an answer in time there is no power state. -/
def powerFrom (answer : Except Fault (Option PowerState)) : Except Fault (Option PowerState) :=
  match answer with
  | .error (.unavailable _) | .error .timeout => .ok none
  | answer => answer

/-- Settings are what their source has answered, or the defaults in place of a problem. -/
theorem settingsFrom_eq_ok {answer : Except Fault WarningSettings} {settings : WarningSettings} :
    settingsFrom answer = .ok settings ↔
      answer = .ok settings ∨ (∃ problem, answer = .error (.settings problem)) ∧ settings = {} := by
  unfold settingsFrom
  split
  case h_1 problem => simp [eq_comm]
  case h_2 hnone => exact (or_iff_left fun h => h.1.elim hnone).symm

/-- A power state is what its source has answered. -/
theorem powerFrom_eq_some {answer : Except Fault (Option PowerState)} {power : PowerState} :
    powerFrom answer = .ok (some power) ↔ answer = .ok (some power) := by
  unfold powerFrom
  split <;> simp

theorem readSettings_outcome (answer : Except Fault WarningSettings) (e : Engine) :
    (readSettings answer e).outcome = settingsFrom answer := by
  unfold readSettings
  split
  · rfl
  · simp [settingsFrom, ofExcept]

theorem readSettings_engine (answer : Except Fault WarningSettings) (e : Engine) :
    (readSettings answer e).engine = e := by
  unfold readSettings
  split <;> rfl

theorem readTemperature_outcome (answer : Except Fault Value) (e : Engine) :
    (readTemperature answer e).outcome = temperatureFrom answer := by
  unfold readTemperature
  split
  · rfl
  · simp [temperatureFrom, ofExcept]

theorem readPower_outcome (answer : Except Fault (Option PowerState)) (e : Engine) :
    (readPower answer e).outcome = powerFrom answer := by
  unfold readPower
  split
  · rfl
  · rfl
  · simp [powerFrom, ofExcept]

/-! ## The first half -/

/-- The shutdown temperature that a poll works with: null where the settings do not ask for
it. -/
def shutdownFrom (settings : WarningSettings) (readings : ThermalReadings) :
    Except Fault Value := do
  if ← (ThermalEvaluator.ofSettings settings).readsShutdown then temperatureFrom readings.shutdown
  else return .null

/-- The threshold that the readings of a poll leave under its settings. -/
def thresholdFrom (settings : WarningSettings) (readings : ThermalReadings) :
    Except Fault (Except ThresholdProblem ThermalThreshold) := do
  (ThermalEvaluator.ofSettings settings).threshold (← shutdownFrom settings readings)

/-- Reads the shutdown temperature where the settings ask for it. -/
def readShutdown (settings : WarningSettings) (readings : ThermalReadings) : Section Value := do
  if ← ofExcept (ThermalEvaluator.ofSettings settings).readsShutdown then
    readTemperature readings.shutdown
  else return .null

/-- The part of the thermal section that comes before its decision. -/
def gatherThermal (settings : WarningSettings) (readings : ThermalReadings) :
    Section (Value × Except ThresholdProblem ThermalThreshold) := do
  let current ← readTemperature readings.current
  let shutdown ← readShutdown settings readings
  noteTemperature readings.clock current
  let threshold ← ofExcept ((ThermalEvaluator.ofSettings settings).threshold shutdown)
  warnThreshold threshold
  return (current, threshold)

/-- The part of the thermal section that decides and acts. -/
def concludeThermal (settings : WarningSettings) (readings : ThermalReadings)
    (gathered : Value × Except ThresholdProblem ThermalThreshold) : Section ThermalDecision := do
  let e ← engine
  let decision ← ofExcept ((ThermalEvaluator.ofSettings settings).decision gathered.1
    gathered.2.toOption e.state.thermalWarning)
  actOnThermal readings.clock settings.warningSource gathered.1.nearest decision
  return decision

/-- The thermal section gathers first and then concludes. -/
theorem pollThermal_eq (settings : WarningSettings) (readings : ThermalReadings) :
    pollThermal settings readings =
      gatherThermal settings readings >>= concludeThermal settings readings := by
  simp only [pollThermal, gatherThermal, readShutdown, bind_assoc, pure_bind]
  congr 1
  funext current
  congr 1
  funext reads
  cases reads <;> rfl

theorem quiet_readShutdown (settings : WarningSettings) (readings : ThermalReadings) :
    Quiet (readShutdown settings readings) := by
  refine (quiet_ofExcept _).bind fun reads => ?_
  split
  · exact quiet_readTemperature _
  · exact quiet_pure _

theorem quiet_gatherThermal (settings : WarningSettings) (readings : ThermalReadings) :
    Quiet (gatherThermal settings readings) := by
  refine (quiet_readTemperature _).bind fun current => ?_
  refine (quiet_readShutdown _ _).bind fun shutdown => ?_
  refine (quiet_noteTemperature _ _).bind fun _ => ?_
  refine (quiet_ofExcept _).bind fun threshold => ?_
  exact (quiet_warnThreshold threshold).bind fun _ => quiet_pure _

theorem readShutdown_outcome (settings : WarningSettings) (readings : ThermalReadings)
    (e : Engine) : (readShutdown settings readings e).outcome = shutdownFrom settings readings := by
  rw [readShutdown, outcome_bind, shutdownFrom]
  congr 1
  funext reads
  cases reads with
  | false => rfl
  | true => exact readTemperature_outcome _ _

/-- What was gathered is what the sources come to. -/
theorem gatherThermal_ok {settings : WarningSettings} {readings : ThermalReadings} {e : Engine}
    {current : Value} {threshold : Except ThresholdProblem ThermalThreshold}
    (h : (gatherThermal settings readings e).outcome = .ok (current, threshold)) :
    temperatureFrom readings.current = .ok current ∧
      thresholdFrom settings readings = .ok threshold := by
  simp only [gatherThermal, outcome_bind, bind_eq_ok, readTemperature_outcome,
    readShutdown_outcome] at h
  obtain ⟨current', hcurrent, shutdown, hshutdown, _, _, threshold', hthreshold, _, _, hpair⟩ := h
  obtain ⟨rfl, rfl⟩ := Prod.mk.inj (Except.ok.inj hpair)
  refine ⟨hcurrent, ?_⟩
  rw [thresholdFrom, hshutdown]
  exact hthreshold

/-- Acting on a decision that calls for no change does nothing. -/
theorem actOnThermal_none (clock : Binary64) (source : WarningSource) (current : Binary64)
    {decision : ThermalDecision} (h : decision.action = none) (e : Engine) :
    actOnThermal clock source current decision e = ⟨e, [], .ok ()⟩ := by
  simp [actOnThermal, h, pure_apply]

/-- Acting on a decision puts its change on display and carries it; a warning is raised only
where there is a threshold. -/
theorem actOnThermal_changes (clock : Binary64) (source : WarningSource) (current : Binary64)
    {decision : ThermalDecision}
    (h : decision.action = some .raise → ∃ threshold, decision.threshold = some threshold)
    (e : Engine) :
    (actOnThermal clock source current decision e).outcome = .ok () ∧
      (actOnThermal clock source current decision e).engine.state =
        e.state.change .thermal decision.action ∧
      displayChanges (actOnThermal clock source current decision e).effects =
        decision.action.toList.map (.thermal, ·) := by
  cases haction : decision.action with
  | none =>
    rw [actOnThermal_none clock source current haction]
    exact ⟨rfl, rfl, rfl⟩
  | some action =>
    cases action with
    | raise =>
      obtain ⟨threshold, hthreshold⟩ := h haction
      rw [actOnThermal, haction, hthreshold]
      exact ⟨rfl, rfl, rfl⟩
    | dismiss =>
      rw [actOnThermal, haction]
      exact ⟨rfl, rfl, rfl⟩

/-- The thermal section ends as the decision on what was gathered. -/
theorem concludeThermal_cases (settings : WarningSettings) (readings : ThermalReadings)
    (current : Value) (threshold : Except ThresholdProblem ThermalThreshold) (e : Engine) :
    (∃ fault, (ThermalEvaluator.ofSettings settings).decision current threshold.toOption
        e.state.thermalWarning = .error fault ∧
      concludeThermal settings readings (current, threshold) e = ⟨e, [], .error fault⟩) ∨
    ∃ decision, (ThermalEvaluator.ofSettings settings).decision current threshold.toOption
        e.state.thermalWarning = .ok decision ∧
      (concludeThermal settings readings (current, threshold) e).outcome = .ok decision ∧
      (concludeThermal settings readings (current, threshold) e).engine.state =
        e.state.change .thermal decision.action ∧
      displayChanges (concludeThermal settings readings (current, threshold) e).effects =
        decision.action.toList.map (.thermal, ·) := by
  have happly : concludeThermal settings readings (current, threshold) e =
      (ofExcept ((ThermalEvaluator.ofSettings settings).decision current threshold.toOption
        e.state.thermalWarning) >>= fun decision => do
          actOnThermal readings.clock settings.warningSource current.nearest decision
          return decision) e := rfl
  rw [happly]
  cases hdecision : (ThermalEvaluator.ofSettings settings).decision current threshold.toOption
      e.state.thermalWarning with
  | error fault => exact .inl ⟨fault, rfl, rfl⟩
  | ok decision =>
    obtain ⟨houtcome, hstate, hchanges⟩ := actOnThermal_changes readings.clock
      settings.warningSource current.nearest (ThermalEvaluator.threshold_of_raise hdecision) e
    refine .inr ⟨decision, rfl, ?_⟩
    rw [ofExcept_ok_bind, bind_apply_of_ok houtcome]
    exact ⟨rfl, hstate, by simpa [pure_apply] using hchanges⟩

/-- A thermal section either changes nothing or acts on one decision. -/
theorem pollThermal_cases (settings : WarningSettings) (readings : ThermalReadings) (e : Engine) :
    (∃ fault, (pollThermal settings readings e).outcome = .error fault ∧
      (pollThermal settings readings e).engine.state = e.state ∧
      displayChanges (pollThermal settings readings e).effects = []) ∨
    ∃ current threshold decision,
      (gatherThermal settings readings e).outcome = .ok (current, threshold) ∧
      (ThermalEvaluator.ofSettings settings).decision current threshold.toOption
        e.state.thermalWarning = .ok decision ∧
      (pollThermal settings readings e).outcome = .ok decision ∧
      (pollThermal settings readings e).engine.state = e.state.change .thermal decision.action ∧
      displayChanges (pollThermal settings readings e).effects =
        decision.action.toList.map (.thermal, ·) := by
  rw [pollThermal_eq]
  have hquiet := quiet_gatherThermal settings readings
  cases hgather : (gatherThermal settings readings e).outcome with
  | error fault =>
    obtain ⟨hstate, hchanges⟩ := hquiet e
    rw [bind_apply_of_error hgather]
    exact .inl ⟨fault, rfl, hstate, hchanges⟩
  | ok gathered =>
    obtain ⟨current, threshold⟩ := gathered
    obtain ⟨hengine, hchanges, hstate⟩ :=
      hquiet.bind_apply (concludeThermal settings readings) e hgather
    have houtcome : ((gatherThermal settings readings >>= concludeThermal settings readings)
        e).outcome = (concludeThermal settings readings (current, threshold)
          (gatherThermal settings readings e).engine).outcome := by
      rw [outcome_bind, hgather]; rfl
    rw [hengine, hchanges, houtcome]
    rcases concludeThermal_cases settings readings current threshold
      (gatherThermal settings readings e).engine with ⟨fault, -, heq⟩ |
        ⟨decision, hdecision, hmade, hafter, hshown⟩
    · rw [heq]
      exact .inl ⟨fault, rfl, hstate, rfl⟩
    · rw [hstate] at hdecision hafter
      exact .inr ⟨current, threshold, decision, rfl, hdecision, hmade, hafter, hshown⟩

/-- A thermal section ends as the decision on what was gathered does. -/
theorem pollThermal_outcome (settings : WarningSettings) (readings : ThermalReadings)
    (e : Engine) :
    (pollThermal settings readings e).outcome =
      (gatherThermal settings readings e).outcome >>= fun gathered =>
        (ThermalEvaluator.ofSettings settings).decision gathered.1 gathered.2.toOption
          e.state.thermalWarning := by
  rw [pollThermal_eq, outcome_bind]
  congr 1
  funext gathered
  obtain ⟨current, threshold⟩ := gathered
  rw [← (quiet_gatherThermal settings readings e).1]
  rcases concludeThermal_cases settings readings current threshold
    (gatherThermal settings readings e).engine with ⟨fault, hdecision, hfault⟩ |
      ⟨decision, hdecision, houtcome, -⟩
  · rw [hfault, hdecision]
  · rw [houtcome, hdecision]

/-- The first half of a poll is the thermal section under the settings that are read. -/
theorem pollFirst_outcome (readings : ThermalReadings) (e : Engine) :
    (pollFirst readings e).outcome = settingsFrom readings.settings >>= fun settings =>
      (pollThermal settings readings e).outcome.map (settings, ·) := by
  rw [pollFirst, outcome_bind, readSettings_outcome, readSettings_engine]
  congr 1
  funext settings
  rw [outcome_bind]
  cases (pollThermal settings readings e).outcome <;> rfl

/-- The first half of a poll either changes nothing or ends with a decision that it acts on. -/
theorem pollFirst_cases (readings : ThermalReadings) (e : Engine) :
    (∃ fault, (pollFirst readings e).outcome = .error fault ∧
      (pollFirst readings e).engine.state = e.state ∧
      displayChanges (pollFirst readings e).effects = []) ∨
    ∃ settings current threshold decision, settingsFrom readings.settings = .ok settings ∧
      temperatureFrom readings.current = .ok current ∧
      thresholdFrom settings readings = .ok threshold ∧
      (ThermalEvaluator.ofSettings settings).decision current threshold.toOption
        e.state.thermalWarning = .ok decision ∧
      (pollFirst readings e).outcome = .ok (settings, decision) ∧
      (pollFirst readings e).engine.state = e.state.change .thermal decision.action ∧
      displayChanges (pollFirst readings e).effects =
        decision.action.toList.map (.thermal, ·) := by
  have houtcome := pollFirst_outcome readings e
  have hread := readSettings_outcome readings.settings e
  obtain ⟨hstate, hchanges⟩ := quiet_readSettings readings.settings e
  cases hsettings : settingsFrom readings.settings with
  | error fault =>
    rw [pollFirst, bind_apply_of_error (hread.trans hsettings)]
    exact .inl ⟨fault, rfl, hstate, hchanges⟩
  | ok settings =>
    rw [hsettings] at houtcome
    have hrest : (pollFirst readings e).engine = (pollThermal settings readings e).engine ∧
        displayChanges (pollFirst readings e).effects =
          displayChanges (pollThermal settings readings e).effects := by
      rw [pollFirst, bind_apply_of_ok (hread.trans hsettings), readSettings_engine]
      cases h : (pollThermal settings readings e).outcome with
      | error fault =>
        rw [bind_apply_of_error h]
        exact ⟨rfl, by simp [hchanges]⟩
      | ok decision =>
        rw [bind_apply_of_ok h]
        exact ⟨rfl, by simp [hchanges, pure_apply]⟩
    change _ = (pollThermal settings readings e).outcome.map _ at houtcome
    rw [hrest.1, hrest.2, houtcome]
    rcases pollThermal_cases settings readings e with ⟨fault, hfault, hsame, hnone⟩ |
      ⟨current, threshold, decision, hgather, hdecision, hmade, hafter, hshown⟩
    · exact .inl ⟨fault, by rw [hfault]; rfl, hsame, hnone⟩
    · obtain ⟨hcurrent, hthreshold⟩ := gatherThermal_ok hgather
      exact .inr ⟨settings, current, threshold, decision, rfl, hcurrent, hthreshold, hdecision,
        by rw [hmade]; rfl, hafter, hshown⟩

/-! ## The second half -/

/-- What the battery section decides on a power state, from the carried state. -/
def batteryDecision (settings : WarningSettings) (hybrid : HybridReadings) (power : PowerState)
    (state : PollState) : Except Fault BatteryDecision := do
  (BatteryThresholds.ofSettings settings).evaluate state.previous power (← hybrid.estimate)
    state.batteryWarning

/-- Acting on a decision about the battery displays its change and carries nothing yet; it comes to
an end if the decision can be told. -/
theorem actOnBattery_changes (clock : Binary64) (power : PowerState) (seconds : String)
    (decision : BatteryDecision) (e : Engine) :
    (actOnBattery clock power seconds decision e).outcome =
        (if decision.IsTellable power then .ok () else .error .unwritable) ∧
      (actOnBattery clock power seconds decision e).engine.state = e.state ∧
      displayChanges (actOnBattery clock power seconds decision e).effects =
        decision.action.toList.map (.battery, ·) := by
  rw [actOnBattery, engine_bind]
  cases haction : decision.action with
  | none =>
    rw [if_pos (by simp [BatteryDecision.IsTellable, haction])]
    exact ⟨rfl, rfl, rfl⟩
  | some action =>
    cases action with
    | dismiss =>
      rw [if_pos (by simp [BatteryDecision.IsTellable, haction])]
      exact present_record clock .battery .dismiss _ e
    | raise =>
      dsimp only
      rw [Value.checkWritable]
      by_cases hlevel : power.level.isWritable = true
      · have htell : decision.IsTellable power := fun _ => hlevel
        simp only [if_pos hlevel, if_pos htell, ofExcept_ok_bind]
        exact present_record clock .battery .raise _ e
      · have htell : ¬decision.IsTellable power := fun htell => hlevel (htell haction)
        rw [if_neg hlevel, if_neg htell]
        exact ⟨rfl, rfl, rfl⟩

/-- The carried state after a decision on a power state. -/
def afterPower (state : PollState) (power : PowerState) (decision : BatteryDecision) : PollState :=
  { state.change .battery decision.action with previous := power.left }

/-- The battery section with a power state does nothing, acts on one decision, or displays a
decision that it can neither tell nor carry. -/
theorem pollPower_cases (settings : WarningSettings) (readings : PowerReadings)
    (power : PowerState) (e : Engine) :
    (∃ fault, batteryDecision settings readings.hybrid power e.state = .error fault ∧
      pollPower settings readings power e = ⟨e, [], .error fault⟩) ∨
    ∃ decision, batteryDecision settings readings.hybrid power e.state = .ok decision ∧
      displayChanges (pollPower settings readings power e).effects =
        decision.action.toList.map (.battery, ·) ∧
      if decision.IsTellable power then
        (pollPower settings readings power e).outcome = .ok decision ∧
          (pollPower settings readings power e).engine.state = afterPower e.state power decision
      else
        (pollPower settings readings power e).outcome = .error .unwritable ∧
          (pollPower settings readings power e).engine.state = e.state := by
  rw [pollPower]
  cases hhybrid : readings.hybrid.estimate with
  | error fault => exact .inl ⟨fault, by rw [batteryDecision, hhybrid]; rfl, rfl⟩
  | ok hybrid =>
    have hbattery : batteryDecision settings readings.hybrid power e.state =
        (BatteryThresholds.ofSettings settings).evaluate e.state.previous power hybrid
          e.state.batteryWarning := by
      rw [batteryDecision, hhybrid]; rfl
    rw [ofExcept_ok_bind, engine_bind, hbattery]
    cases hdecision : (BatteryThresholds.ofSettings settings).evaluate e.state.previous power
        hybrid e.state.batteryWarning with
    | error fault => exact .inl ⟨fault, rfl, rfl⟩
    | ok decision =>
      obtain ⟨seconds, hseconds⟩ := BatteryThresholds.seconds_of_evaluate hdecision
      obtain ⟨houtcome, hstate, hchanges⟩ :=
        actOnBattery_changes readings.clock power seconds decision e
      refine .inr ⟨decision, rfl, ?_⟩
      rw [ofExcept_ok_bind, hseconds, ofExcept_ok_bind]
      by_cases htell : decision.IsTellable power
      · rw [if_pos htell] at houtcome ⊢
        rw [bind_apply_of_ok houtcome]
        refine ⟨?_, rfl, ?_⟩
        · change displayChanges (_ ++ []) = _
          rw [List.append_nil, hchanges]
        · change ({ (actOnBattery readings.clock power seconds decision e).engine.state with
              previous := _, batteryWarning := _ } : PollState) = _
          rw [hstate]
          rfl
      · rw [if_neg htell] at houtcome ⊢
        rw [bind_apply_of_error houtcome]
        exact ⟨hchanges, rfl, hstate⟩

/-- What the battery section decides from the carried state, and on which power state. A decision
that cannot be told is none. -/
def decideBattery (settings : WarningSettings) (readings : PowerReadings) (state : PollState) :
    Except Fault (Option (PowerState × BatteryDecision)) :=
  match powerFrom readings.power with
  | .error fault => .error fault
  | .ok none => .ok none
  | .ok (some power) => do
    let decision ← batteryDecision settings readings.hybrid power state
    if decision.IsTellable power then return some (power, decision) else throw .unwritable

/-- The battery section decides on the power state that its source comes to. -/
theorem decideBattery_eq_some {settings : WarningSettings} {readings : PowerReadings}
    {state : PollState} {power : PowerState} {decision : BatteryDecision} :
    decideBattery settings readings state = .ok (some (power, decision)) ↔
      powerFrom readings.power = .ok (some power) ∧
        batteryDecision settings readings.hybrid power state = .ok decision ∧
        decision.IsTellable power := by
  unfold decideBattery
  split
  case h_1 fault hpower => simp [hpower]
  case h_2 hpower => simp [hpower]
  case h_3 read hpower =>
    rw [hpower, bind_eq_ok]
    constructor
    · rintro ⟨made, hmade, h⟩
      split at h
      case isTrue htell =>
        obtain ⟨rfl, rfl⟩ := Prod.mk.inj (Option.some.inj (Except.ok.inj h))
        exact ⟨rfl, hmade, htell⟩
      case isFalse => cases h
    · rintro ⟨hread, hdecision, htell⟩
      obtain rfl := Option.some.inj (Except.ok.inj hread)
      exact ⟨decision, hdecision, if_pos htell⟩

/-- The change that comes of what a battery section decides. -/
def batteryAction : Except Fault (Option (PowerState × BatteryDecision)) → Option WarningAction
  | .ok (some (_, decision)) => decision.action
  | _ => none

/-- The change that a battery section puts on display, be it that it can be told or not. -/
def batteryShown (settings : WarningSettings) (readings : PowerReadings) (state : PollState) :
    Option WarningAction :=
  match powerFrom readings.power with
  | .ok (some power) =>
    (batteryDecision settings readings.hybrid power state).toOption.bind BatteryDecision.action
  | _ => none

/-- A battery section displays what it decides on a power state. -/
theorem batteryShown_eq_some {settings : WarningSettings} {readings : PowerReadings}
    {state : PollState} {action : WarningAction} :
    batteryShown settings readings state = some action ↔
      ∃ power decision, powerFrom readings.power = .ok (some power) ∧
        batteryDecision settings readings.hybrid power state = .ok decision ∧
        decision.action = some action := by
  unfold batteryShown
  split
  case h_1 power hpower =>
    rw [hpower]
    cases hdecision : batteryDecision settings readings.hybrid power state with
    | error fault => simp [Except.toOption, hdecision]
    | ok decision => simp [Except.toOption, hdecision]
  case h_2 hnone =>
    constructor
    · intro h
      cases h
    · rintro ⟨power, decision, hpower, -⟩
      exact absurd hpower (hnone power)

/-- The carried state after what a battery section decides. -/
def afterBattery (state : PollState) :
    Except Fault (Option (PowerState × BatteryDecision)) → PollState
  | .ok (some (power, decision)) => afterPower state power decision
  | _ => state

theorem batteryAction_eq_some {outcome : Except Fault (Option (PowerState × BatteryDecision))}
    {action : WarningAction} :
    batteryAction outcome = some action ↔
      ∃ power decision, outcome = .ok (some (power, decision)) ∧ decision.action = some action := by
  unfold batteryAction
  split
  case h_1 power decision =>
    constructor
    · intro h
      exact ⟨power, decision, rfl, h⟩
    · rintro ⟨power', decision', houtcome, h⟩
      obtain ⟨rfl, rfl⟩ := Prod.mk.inj (Option.some.inj (Except.ok.inj houtcome))
      exact h
  case h_2 hnone =>
    constructor
    · intro h
      cases h
    · rintro ⟨power, decision, houtcome, -⟩
      exact absurd houtcome (hnone power decision)

/-- A battery section that comes to an end displays what it decides. -/
theorem batteryShown_of_decideBattery {settings : WarningSettings} {readings : PowerReadings}
    {state : PollState} {made : Option (PowerState × BatteryDecision)}
    (h : decideBattery settings readings state = .ok made) :
    batteryShown settings readings state = batteryAction (.ok made) := by
  unfold decideBattery at h
  unfold batteryShown
  split at h
  case h_1 => cases h
  case h_2 hpower =>
    obtain rfl := Except.ok.inj h
    rw [hpower]
    rfl
  case h_3 power hpower =>
    obtain ⟨decision, hdecision, h⟩ := bind_eq_ok.1 h
    split at h
    case isTrue =>
      obtain rfl := Except.ok.inj h
      simp only [hpower, hdecision]
      rfl
    case isFalse => cases h

/-- What a battery section displays is what it decides, where a warning that is raised can be
told. -/
theorem batteryShown_eq_batteryAction {settings : WarningSettings} {readings : PowerReadings}
    {state : PollState}
    (h : batteryShown settings readings state = some .raise → ∀ power,
      powerFrom readings.power = .ok (some power) → power.level.isWritable = true) :
    batteryShown settings readings state =
      batteryAction (decideBattery settings readings state) := by
  refine Option.ext fun action => ?_
  rw [batteryAction_eq_some, batteryShown_eq_some]
  constructor
  · rintro ⟨power, decision, hpower, hdecision, haction⟩
    refine ⟨power, decision, decideBattery_eq_some.2 ⟨hpower, hdecision, fun hraise => ?_⟩, haction⟩
    exact h (batteryShown_eq_some.2 ⟨power, decision, hpower, hdecision, hraise⟩) power hpower
  · rintro ⟨power, decision, houtcome, haction⟩
    obtain ⟨hpower, hdecision, -⟩ := decideBattery_eq_some.1 houtcome
    exact ⟨power, decision, hpower, hdecision, haction⟩

theorem afterBattery_thermalWarning (state : PollState)
    (outcome : Except Fault (Option (PowerState × BatteryDecision))) :
    (afterBattery state outcome).thermalWarning = state.thermalWarning := by
  unfold afterBattery
  split <;> rfl

theorem afterBattery_batteryWarning (state : PollState)
    (outcome : Except Fault (Option (PowerState × BatteryDecision))) :
    (afterBattery state outcome).batteryWarning =
      state.batteryWarning.afterAction (batteryAction outcome) := by
  unfold afterBattery batteryAction
  split <;> rfl

/-- The battery section ends as its decision does, which it carries, and displays its change. -/
theorem pollBattery_spec (settings : WarningSettings) (readings : PowerReadings) (e : Engine) :
    (pollBattery settings readings e).outcome =
        (decideBattery settings readings e.state).map (Option.map Prod.snd) ∧
      (pollBattery settings readings e).engine.state =
        afterBattery e.state (decideBattery settings readings e.state) ∧
      displayChanges (pollBattery settings readings e).effects =
        (batteryShown settings readings e.state).toList.map (.battery, ·) := by
  have hread := readPower_outcome readings.power e
  obtain ⟨hstate, hchanges⟩ := quiet_readPower readings.power e
  rw [pollBattery, decideBattery, batteryShown]
  cases hpower : powerFrom readings.power with
  | error fault =>
    rw [bind_apply_of_error (hread.trans hpower)]
    exact ⟨rfl, hstate, hchanges⟩
  | ok answer =>
    rw [bind_apply_of_ok (hread.trans hpower)]
    cases answer with
    | none => exact ⟨rfl, hstate, by simpa [pure_apply] using hchanges⟩
    | some power =>
      have hcases := pollPower_cases settings readings power (readPower readings.power e).engine
      rw [hstate] at hcases
      dsimp only
      rcases hcases with ⟨fault, hdecision, hfault⟩ | ⟨decision, hdecision, hshown, hcases⟩
      · have houtcome := congrArg Progress.outcome hfault
        rw [bind_apply_of_error houtcome, hfault, hdecision]
        exact ⟨rfl, hstate, by simpa [Except.toOption] using hchanges⟩
      · rw [hdecision]
        change _ = Except.map _ (if decision.IsTellable power then _ else _) ∧
          _ = afterBattery e.state (if decision.IsTellable power then _ else _) ∧ _
        split at hcases
        case isTrue htell =>
          obtain ⟨houtcome, hafter⟩ := hcases
          rw [bind_apply_of_ok houtcome, if_pos htell]
          exact ⟨rfl, hafter, by
            simpa [Except.toOption, hchanges, pure_apply] using hshown⟩
        case isFalse htell =>
          obtain ⟨houtcome, hafter⟩ := hcases
          rw [bind_apply_of_error houtcome, if_neg htell]
          exact ⟨rfl, hafter, by simpa [Except.toOption, hchanges] using hshown⟩

/-- The second half of a poll ends as its battery section does, and reports the state that this
leaves. -/
theorem pollSecond_eq (settings : WarningSettings) (thermal : ThermalDecision)
    (readings : PowerReadings) (e : Engine) :
    (pollSecond settings thermal readings e).outcome =
        ((pollBattery settings readings e).outcome.map fun battery =>
          ⟨(pollBattery settings readings e).engine.state, thermal, battery⟩) ∧
      (pollSecond settings thermal readings e).engine.state =
        (pollBattery settings readings e).engine.state ∧
      (pollSecond settings thermal readings e).effects =
        (pollBattery settings readings e).effects := by
  rw [pollSecond]
  cases h : (pollBattery settings readings e).outcome with
  | error fault =>
    rw [bind_apply_of_error h]
    exact ⟨rfl, rfl, rfl⟩
  | ok battery =>
    rw [bind_apply_of_ok h]
    exact ⟨rfl, rfl, List.append_nil _⟩

/-! ## Both halves -/

/-- The change that comes of the first half of a poll; there is none if a fault cuts it off. -/
def thermalAction (readings : ThermalReadings) (e : Engine) : Option WarningAction :=
  (pollFirst readings e).outcome.toOption.bind fun first => first.2.action

/-- What a poll decides about the battery, if its first half is not cut off. -/
def batteryOutcome (readings : Readings) (e : Engine) :
    Except Fault (Option (PowerState × BatteryDecision)) :=
  match (pollFirst readings.thermal e).outcome with
  | .ok (settings, _) => decideBattery settings readings.power e.state
  | .error fault => .error fault

/-- The first half of a poll carries its change and displays it, and does nothing else to the
warnings. -/
theorem pollFirst_spec (readings : ThermalReadings) (e : Engine) :
    (pollFirst readings e).engine.state = e.state.change .thermal (thermalAction readings e) ∧
      displayChanges (pollFirst readings e).effects =
        (thermalAction readings e).toList.map (.thermal, ·) := by
  rcases pollFirst_cases readings e with ⟨fault, houtcome, hstate, hchanges⟩ |
    ⟨settings, current, threshold, decision, -, -, -, -, houtcome, hstate, hchanges⟩
  · rw [thermalAction, houtcome]
    exact ⟨hstate, hchanges⟩
  · rw [thermalAction, houtcome]
    exact ⟨hstate, hchanges⟩

/-- A first half that ends has ended with the settings that were read. -/
theorem settings_of_pollFirst {readings : ThermalReadings} {e : Engine}
    {settings : WarningSettings} {decision : ThermalDecision}
    (h : (pollFirst readings e).outcome = .ok (settings, decision)) :
    settingsFrom readings.settings = .ok settings := by
  rcases pollFirst_cases readings e with ⟨fault, houtcome, -⟩ |
    ⟨settings', current, threshold, decision', hsettings, -, -, -, houtcome, -⟩
  · rw [houtcome] at h
    cases h
  · rw [houtcome] at h
    obtain ⟨rfl, rfl⟩ := Prod.mk.inj (Except.ok.inj h)
    exact hsettings

/-- A poll decides about the battery exactly if its first half ends and the battery section
decides on the power state that was read. -/
theorem batteryOutcome_eq_some {readings : Readings} {e : Engine} {power : PowerState}
    {decision : BatteryDecision} :
    batteryOutcome readings e = .ok (some (power, decision)) ↔
      ∃ settings thermal, (pollFirst readings.thermal e).outcome = .ok (settings, thermal) ∧
        powerFrom readings.power.power = .ok (some power) ∧
        batteryDecision settings readings.power.hybrid power e.state = .ok decision ∧
        decision.IsTellable power := by
  rw [batteryOutcome]
  cases hfirst : (pollFirst readings.thermal e).outcome with
  | error fault => simp
  | ok first =>
    obtain ⟨settings, thermal⟩ := first
    dsimp only
    rw [decideBattery_eq_some]
    constructor
    · rintro ⟨hpower, hdecision⟩
      exact ⟨settings, thermal, rfl, hpower, hdecision⟩
    · rintro ⟨settings', thermal', hpair, hpower, hdecision⟩
      obtain ⟨rfl, rfl⟩ := Prod.mk.inj (Except.ok.inj hpair)
      exact ⟨hpower, hdecision⟩

/-- The change of one warning that a poll puts on display, be it that it can be told or not. -/
def pollShown (readings : Readings) (e : Engine) : Channel → Option WarningAction
  | .thermal => thermalAction readings.thermal e
  | .battery =>
    (pollFirst readings.thermal e).outcome.toOption.bind fun first =>
      batteryShown first.1 readings.power e.state

/-- A poll carries and displays the change of each of its halves, the second of which starts from
the engine that the first has left. -/
theorem poll_spec (readings : Readings) (e : Engine) :
    (poll readings e).engine.state =
        afterBattery (e.state.change .thermal (thermalAction readings.thermal e))
          (batteryOutcome readings e) ∧
      displayChanges (poll readings e).effects =
        (pollShown readings e .thermal).toList.map (.thermal, ·) ++
          (pollShown readings e .battery).toList.map (.battery, ·) := by
  obtain ⟨hstate, hchanges⟩ := pollFirst_spec readings.thermal e
  rw [poll, batteryOutcome, pollShown, pollShown]
  cases hfirst : (pollFirst readings.thermal e).outcome with
  | error fault =>
    rw [bind_apply_of_error hfirst]
    exact ⟨hstate, by simpa [Except.toOption] using hchanges⟩
  | ok first =>
    rw [bind_apply_of_ok hfirst]
    dsimp only
    obtain ⟨-, hafter, heffects⟩ := pollSecond_eq first.1 first.2 readings.power
      (pollFirst readings.thermal e).engine
    obtain ⟨-, hcarried, hshown⟩ := pollBattery_spec first.1 readings.power
      (pollFirst readings.thermal e).engine
    rw [displayChanges_append, hafter, heffects, hcarried, hshown, hchanges, hstate]
    exact ⟨rfl, rfl⟩

/-- A poll is completed exactly if it decides on the battery or finds that there is no power
state. -/
theorem poll_outcome (readings : Readings) (e : Engine) :
    (poll readings e).outcome.map PollReport.battery =
      (batteryOutcome readings e).map (Option.map Prod.snd) := by
  rw [poll, batteryOutcome]
  cases hfirst : (pollFirst readings.thermal e).outcome with
  | error fault =>
    rw [bind_apply_of_error hfirst]
    rfl
  | ok first =>
    rw [bind_apply_of_ok hfirst]
    dsimp only
    rw [(pollSecond_eq first.1 first.2 readings.power _).1,
      (pollBattery_spec first.1 readings.power _).1, (pollFirst_spec readings.thermal e).1]
    change _ = (decideBattery first.1 readings.power
      (e.state.change .thermal (thermalAction readings.thermal e))).map _
    cases decideBattery first.1 readings.power
      (e.state.change .thermal (thermalAction readings.thermal e)) <;> rfl

/-- A failed poll has decided nothing about the battery. -/
theorem batteryOutcome_of_error {readings : Readings} {e : Engine} {fault : Fault}
    (h : (poll readings e).outcome = .error fault) :
    ∃ other, batteryOutcome readings e = .error other := by
  have hreport := poll_outcome readings e
  rw [h] at hreport
  cases hbattery : batteryOutcome readings e with
  | error other => exact ⟨other, rfl⟩
  | ok made =>
    rw [hbattery] at hreport
    cases hreport

/-- The change of one warning that comes of a poll. -/
def pollAction (readings : Readings) (e : Engine) : Channel → Option WarningAction
  | .thermal => thermalAction readings.thermal e
  | .battery => batteryAction (batteryOutcome readings e)

/-- A poll carries its change of a warning. -/
theorem poll_warning (readings : Readings) (e : Engine) (channel : Channel) :
    (poll readings e).engine.state.warning channel =
      (e.state.warning channel).afterAction (pollAction readings e channel) := by
  rw [(poll_spec readings e).1]
  cases channel with
  | thermal => exact afterBattery_thermalWarning _ _
  | battery => exact afterBattery_batteryWarning _ _

/-- A poll displays one change of a warning at most. -/
theorem poll_actionsOn (readings : Readings) (e : Engine) (channel : Channel) :
    actionsOn channel (displayChanges (poll readings e).effects) =
      (pollShown readings e channel).toList := by
  rw [(poll_spec readings e).2, actionsOn_append, actionsOn_option, actionsOn_option]
  cases channel with
  | thermal => rw [if_pos rfl, if_neg (by decide), List.append_nil]
  | battery => rw [if_neg (by decide), if_pos rfl, List.nil_append]

/-- What a poll displays is what `pollShown` says. -/
theorem mem_displayChanges_poll {readings : Readings} {e : Engine} {channel : Channel}
    {action : WarningAction} :
    (channel, action) ∈ displayChanges (poll readings e).effects ↔
      pollShown readings e channel = some action := by
  rw [← mem_actionsOn, poll_actionsOn, Option.mem_toList]

/-- A poll displays a change of the battery warning exactly if its first half ends and its battery
section decides so. -/
theorem pollShown_battery_eq_some {readings : Readings} {e : Engine} {action : WarningAction} :
    pollShown readings e .battery = some action ↔
      ∃ settings thermal power decision,
        (pollFirst readings.thermal e).outcome = .ok (settings, thermal) ∧
        powerFrom readings.power.power = .ok (some power) ∧
        batteryDecision settings readings.power.hybrid power e.state = .ok decision ∧
        decision.action = some action := by
  rw [pollShown]
  cases (pollFirst readings.thermal e).outcome with
  | error fault => simp [Except.toOption]
  | ok first =>
    obtain ⟨settings, thermal⟩ := first
    change batteryShown settings readings.power e.state = some action ↔ _
    rw [batteryShown_eq_some]
    constructor
    · rintro ⟨power, decision, h⟩
      exact ⟨settings, thermal, power, decision, rfl, h⟩
    · rintro ⟨settings', thermal', power, decision, hpair, h⟩
      obtain ⟨rfl, rfl⟩ := Prod.mk.inj (Except.ok.inj hpair)
      exact ⟨power, decision, h⟩

/-- What a poll displays is what it carries, where a warning that is raised can be told. -/
theorem pollShown_eq_pollAction {readings : Readings} {e : Engine}
    (h : pollShown readings e .battery = some .raise → readings.HasWritableLevel)
    (channel : Channel) : pollShown readings e channel = pollAction readings e channel := by
  cases channel with
  | thermal => rfl
  | battery =>
    rw [pollShown, pollAction, batteryOutcome]
    rw [pollShown] at h
    cases hfirst : (pollFirst readings.thermal e).outcome with
    | error fault => rfl
    | ok first =>
      rw [hfirst] at h
      exact batteryShown_eq_batteryAction fun hraise power hpower =>
        h hraise power (powerFrom_eq_some.1 hpower)

/-- A poll displays all that it carries. -/
theorem pollShown_of_pollAction {readings : Readings} {e : Engine} {channel : Channel}
    {action : WarningAction} (h : pollAction readings e channel = some action) :
    pollShown readings e channel = some action := by
  cases channel with
  | thermal => exact h
  | battery =>
    obtain ⟨power, decision, houtcome, haction⟩ := batteryAction_eq_some.1 h
    obtain ⟨settings, thermal, hfirst, hpower, hdecision, -⟩ := batteryOutcome_eq_some.1 houtcome
    exact pollShown_battery_eq_some.2
      ⟨settings, thermal, power, decision, hfirst, hpower, hdecision, haction⟩

/-- A completed poll displays what it carries. -/
theorem pollShown_of_ok {readings : Readings} {e : Engine} {report : PollReport}
    (h : (poll readings e).outcome = .ok report) (channel : Channel) :
    pollShown readings e channel = pollAction readings e channel := by
  cases channel with
  | thermal => rfl
  | battery =>
    have hreport := poll_outcome readings e
    rw [h, batteryOutcome] at hreport
    rw [pollShown, pollAction, batteryOutcome]
    cases hfirst : (pollFirst readings.thermal e).outcome with
    | error fault =>
      rw [hfirst] at hreport
      cases hreport
    | ok first =>
      rw [hfirst] at hreport
      change batteryShown first.1 readings.power e.state =
        batteryAction (decideBattery first.1 readings.power e.state)
      cases hmade : decideBattery first.1 readings.power e.state with
      | error fault =>
        dsimp only at hreport
        rw [hmade] at hreport
        cases hreport
      | ok made => exact batteryShown_of_decideBattery hmade

/-- A change of a warning that is displayed fits the state that the poll starts in. -/
theorem state_of_pollShown {readings : Readings} {e : Engine} {channel : Channel}
    {action : WarningAction} (h : action ∈ pollShown readings e channel) :
    e.state.warning channel = .before action := by
  cases channel with
  | thermal =>
    change action ∈ thermalAction readings.thermal e at h
    rcases pollFirst_cases readings.thermal e with ⟨fault, houtcome, -⟩ |
      ⟨settings, current, threshold, decision, -, -, -, hdecision, houtcome, -⟩
    · rw [thermalAction, houtcome] at h
      cases h
    · rw [thermalAction, houtcome] at h
      exact ThermalEvaluator.state_of_action hdecision h
  | battery =>
    obtain ⟨settings, thermal, power, decision, -, -, hdecision, haction⟩ :=
      pollShown_battery_eq_some.1 h
    obtain ⟨hybrid, -, hevaluate⟩ := bind_eq_ok.1 hdecision
    exact BatteryThresholds.state_of_action hevaluate haction

/-- A displayed dismissal is carried. -/
theorem pollAction_of_pollShown_dismiss {readings : Readings} {e : Engine} {channel : Channel}
    (h : pollShown readings e channel = some .dismiss) :
    pollAction readings e channel = some .dismiss := by
  cases channel with
  | thermal => exact h
  | battery =>
    rw [← h]
    refine (pollShown_eq_pollAction (fun hraise => ?_) .battery).symm
    rw [h] at hraise
    cases hraise

/-- A displayed change is carried, or else the poll ends by a level that cannot be written, with
the battery warning raised on display. -/
theorem pollShown_cases (readings : Readings) (e : Engine) (channel : Channel) :
    pollShown readings e channel = pollAction readings e channel ∨
      channel = .battery ∧ pollShown readings e .battery = some .raise ∧
        ¬readings.HasWritableLevel := by
  by_cases h : pollShown readings e .battery = some .raise → readings.HasWritableLevel
  · exact .inl (pollShown_eq_pollAction h channel)
  · obtain ⟨hraise, hlevel⟩ := Classical.not_imp.1 h
    cases channel with
    | thermal => exact .inl rfl
    | battery => exact .inr ⟨rfl, hraise, hlevel⟩

end Section

end DeviceWarnings
