import DeviceWarnings.Engine.Contracts
import DeviceWarnings.Proofs.Completion
import DeviceWarnings.Proofs.Soundness

/-!
# Polls and questions decide alike

A poll that is completed has decided as the engine answers when it is asked for the decisions one at
a time, with the same readings. Two things differ on the way. A poll reads the shutdown temperature
only under a configured temperature that is null or negative; under all others the threshold does
not depend on it. And a question may leave out the settings and the switch of the hybrid estimate,
which are then read again. The time of an estimate that is switched off is never looked at.
-/

namespace DeviceWarnings

/-- A rule that makes one change only has been met exactly if it has made this change. -/
theorem WarningAction.decide_of_rule {made : Option WarningAction} {change : WarningAction}
    {met : Bool} (hmade : made = if met then some change else none) :
    decide (made = some change) = met := by
  rw [hmade]
  cases met <;> simp

/-! ## What the rules do not look at -/

/-- A value that counts as -1 is below 0. -/
theorem Value.less_zero_of_same_deriveMark {v : Value} (h : v.same deriveMark = true) :
    Comparison.less.holds v 0 = .ok true := by
  have hless {n : Number} (hn : n.sameValue (.integer (-1)) = true) : n < 0 := by
    rw [Number.sameValue, Number.related] at hn
    cases hposition : n.position? with
    | none =>
      rw [hposition] at hn
      cases hn
    | some p =>
      rw [hposition] at hn
      have hp : p = .point (-1 * Binary64.one) := of_decide_eq_true hn
      exact Number.lt_iff.2 ⟨p, _, hposition, rfl, by rw [hp]; decide⟩
  cases v with
  | flag b => cases b <;> cases h
  | number n =>
    rw [deriveMark, Value.same_number] at h
    change Comparison.less.holds (.number n) (.number 0) = _
    rw [Comparison.holds_number]
    exact congrArg Except.ok (decide_eq_true (hless h))
  | _ => cases h

/-- Where the shutdown temperature is not worth a reading, the threshold does not depend on it. -/
theorem ThermalEvaluator.threshold_eq_of_not_reads {evaluator : ThermalEvaluator}
    (h : evaluator.readsShutdown = .ok false) (shutdown other : Value) :
    evaluator.threshold shutdown = evaluator.threshold other := by
  have hconfigured : ¬(evaluator.configured = .null ∨ evaluator.configured.same deriveMark) := by
    rintro (hnull | hmark)
    · rw [readsShutdown, if_pos hnull] at h
      cases h
    · have hnegative := Value.less_zero_of_same_deriveMark hmark
      rw [readsShutdown] at h
      split at h
      · cases h
      · rw [hnegative] at h
        cases h
  rw [threshold, threshold, resolveThreshold, resolveThreshold, if_neg hconfigured,
    if_neg hconfigured]

namespace BatteryThresholds

variable (thresholds : BatteryThresholds) (previous : PreviousPower) (power : PowerState)
  {hybrid : HybridEstimate} {time : Value}

/-- The verdict on raising does not depend on an estimate that is switched off. -/
theorem raiseVerdict_of_time (htime : hybrid.enabled.truth = true → time = hybrid.timeRemaining) :
    thresholds.raiseVerdict previous power ⟨hybrid.enabled, time⟩ =
      thresholds.raiseVerdict previous power hybrid := by
  have hsignal : thresholds.hybridSignal ⟨hybrid.enabled, time⟩ =
      thresholds.hybridSignal hybrid := by
    rw [hybridSignal, hybridSignal]
    split
    · rw [htime ‹_›]
    · rfl
  rw [raiseVerdict, raiseVerdict, hsignal]

/-- Neither does a dismissal. -/
theorem shouldDismiss_of_time
    (htime : hybrid.enabled.truth = true → time = hybrid.timeRemaining) :
    thresholds.shouldDismiss previous power ⟨hybrid.enabled, time⟩ =
      thresholds.shouldDismiss previous power hybrid := by
  by_cases henabled : hybrid.enabled.truth = true
  · rw [htime henabled]
  · simp only [shouldDismiss, if_neg henabled]

end BatteryThresholds

namespace Section

/-! ## Completed polls -/

variable {readings : Readings} {e : Engine} {settings : WarningSettings} {report : PollReport}

/-- A completed poll has decided in both halves, under the settings that were read. -/
theorem decides_of_poll (h : (poll readings e).outcome = .ok report) :
    ∃ settings battery, (pollFirst readings.thermal e).outcome = .ok (settings, report.thermal) ∧
      decideBattery settings readings.power e.state = .ok battery := by
  have hreport := poll_outcome readings e
  rw [h] at hreport
  obtain ⟨battery, hbattery, -⟩ := map_eq_ok.1 hreport.symm
  cases hfirst : (pollFirst readings.thermal e).outcome with
  | error fault =>
    rw [batteryOutcome, hfirst] at hbattery
    cases hbattery
  | ok first =>
    rw [batteryOutcome, hfirst] at hbattery
    obtain ⟨settings, thermal⟩ := first
    have hcompleted := (poll_eq_ok hfirst hbattery).1
    obtain rfl := Except.ok.inj (h.symm.trans hcompleted)
    exact ⟨settings, battery, rfl, hbattery⟩

/-- The threshold that a poll works with is the one for the shutdown temperature, whether the poll
has read it or not. -/
theorem threshold_of_thresholdFrom {readings : ThermalReadings}
    {threshold : Except ThresholdProblem ThermalThreshold}
    (h : thresholdFrom settings readings = .ok threshold) {shutdown : Value}
    (hshutdown : temperatureFrom readings.shutdown = .ok shutdown) :
    (ThermalEvaluator.ofSettings settings).threshold shutdown = .ok threshold := by
  obtain ⟨used, hused, hthreshold⟩ := bind_eq_ok.1 h
  obtain ⟨reads, hreads, hused⟩ := bind_eq_ok.1 hused
  cases reads with
  | false => rw [ThermalEvaluator.threshold_eq_of_not_reads hreads shutdown used, hthreshold]
  | true =>
    obtain rfl : shutdown = used := Except.ok.inj (hshutdown.symm.trans hused)
    exact hthreshold

/-- A poll that decides on a power state decides by its estimate. -/
theorem evaluate_of_decideBattery {readings : PowerReadings} {state : PollState}
    {battery : Option (PowerState × BatteryDecision)} {power : PowerState}
    (h : decideBattery settings readings state = .ok battery)
    (hpower : powerFrom readings.power = .ok (some power)) :
    ∃ hybrid decision, readings.hybrid.estimate = .ok hybrid ∧ battery = some (power, decision) ∧
      (BatteryThresholds.ofSettings settings).evaluate state.previous power hybrid
        state.batteryWarning = .ok decision := by
  rw [decideBattery, hpower] at h
  obtain ⟨decision, hdecision, hmade⟩ := bind_eq_ok.1 h
  obtain ⟨hybrid, hhybrid, hevaluate⟩ := bind_eq_ok.1 hdecision
  split at hmade
  case isTrue => exact ⟨hybrid, decision, hhybrid, (Except.ok.inj hmade).symm, hevaluate⟩
  case isFalse => cases hmade

/-! ## Answers -/

/-- Settings that are given are taken, and the others are those that are read. -/
theorem settingsOr_outcome {answer : Except Fault WarningSettings}
    (hanswer : settingsFrom answer = .ok settings) {given : Option WarningSettings}
    (hgiven : given ∈ [none, some settings]) (e : Engine) :
    (settingsOr given answer e).outcome = .ok settings := by
  have hcases : given = none ∨ given = some settings := by simpa using hgiven
  rcases hcases with rfl | rfl
  · exact (readSettings_outcome answer e).trans hanswer
  · rfl

/-- A switch of the hybrid estimate that is given is taken, and null stands for the one that is
read. -/
theorem hybridOr_outcome {answers : HybridReadings} {hybrid : HybridEstimate}
    (hanswers : answers.estimate = .ok hybrid) {enabled : Value}
    (henabled : enabled ∈ [.null, hybrid.enabled]) (e : Engine) :
    (hybridOr enabled answers e).outcome = .ok hybrid.enabled := by
  rw [hybridOr]
  split
  · rw [hanswers]
    rfl
  · have hcases : enabled = .null ∨ enabled = hybrid.enabled := by simpa using henabled
    rw [hcases.resolve_left ‹_›]
    rfl

variable {given : Option WarningSettings}

theorem asksThermal_outcome (hsettings : settingsFrom readings.thermal.settings = .ok settings)
    (hgiven : given ∈ [none, some settings]) {current shutdown : Value}
    {threshold : Except ThresholdProblem ThermalThreshold}
    (hthreshold : (ThermalEvaluator.ofSettings settings).threshold shutdown = .ok threshold) :
    (asksThermal readings current shutdown given e).outcome =
      overheats current (threshold.toOption.map ThermalThreshold.limit)
        settings.showTemperatureWarning.truth := by
  rw [asksThermal, outcome_bind, settingsOr_outcome hsettings hgiven]
  change ((ofExcept ((ThermalEvaluator.ofSettings settings).threshold shutdown) >>= _) _).outcome =
    _
  rw [hthreshold, ofExcept_ok_bind, outcome_bind, warnThreshold_outcome]
  rfl

variable {previous : PreviousPower} {power : PowerState} {hybrid : HybridEstimate} {enabled : Value}
  {time : Value}

theorem asksRaise_outcome (hsettings : settingsFrom readings.thermal.settings = .ok settings)
    (hgiven : given ∈ [none, some settings]) (hhybrid : readings.power.hybrid.estimate = .ok hybrid)
    (henabled : enabled ∈ [.null, hybrid.enabled]) :
    (asksRaise readings previous power ⟨enabled, time⟩ given e).outcome =
      (BatteryThresholds.ofSettings settings).raiseVerdict previous power
        ⟨hybrid.enabled, time⟩ := by
  rw [asksRaise, outcome_bind, hybridOr_outcome hhybrid henabled]
  change ((settingsOr given readings.thermal.settings >>= _) _).outcome = _
  rw [outcome_bind, settingsOr_outcome hsettings hgiven]
  rfl

theorem asksDismiss_outcome (hsettings : settingsFrom readings.thermal.settings = .ok settings)
    (hgiven : given ∈ [none, some settings]) (hhybrid : readings.power.hybrid.estimate = .ok hybrid)
    (henabled : enabled ∈ [.null, hybrid.enabled]) :
    (asksDismiss readings previous power ⟨enabled, time⟩ given e).outcome =
      (BatteryThresholds.ofSettings settings).shouldDismiss previous power
        ⟨hybrid.enabled, time⟩ := by
  rw [asksDismiss, outcome_bind, hybridOr_outcome hhybrid henabled]
  change ((settingsOr given readings.thermal.settings >>= _) _).outcome = _
  rw [outcome_bind, settingsOr_outcome hsettings hgiven]
  rfl

/-! ## Agreement -/

variable (now : Engine)

/-- A first half that ends has decided as the evaluator does for the shutdown temperature, and has
raised a hidden warning exactly if the answer for these readings is yes. -/
theorem pollFirst_agrees {thermal : ThermalDecision}
    (h : (pollFirst readings.thermal e).outcome = .ok (settings, thermal)) :
    ∃ current, temperatureFrom readings.thermal.current = .ok current ∧
      ∀ shutdown, temperatureFrom readings.thermal.shutdown = .ok shutdown →
        (ThermalEvaluator.ofSettings settings).evaluate current shutdown e.state.thermalWarning =
            .ok thermal ∧
          (e.state.thermalWarning = .hidden → ∀ given ∈ [none, some settings],
            (asksThermal readings current shutdown given now).outcome =
              .ok (decide (thermal.action = some .raise))) := by
  rcases pollFirst_cases readings.thermal e with ⟨fault, houtcome, -⟩ |
    ⟨read, current, threshold, decision, hsettings, hcurrent, hfrom, hdecision, houtcome, -⟩
  · rw [houtcome] at h
    cases h
  · rw [houtcome] at h
    obtain ⟨rfl, rfl⟩ := Prod.mk.inj (Except.ok.inj h)
    refine ⟨current, hcurrent, fun shutdown hshutdown => ?_⟩
    have hthreshold := threshold_of_thresholdFrom hfrom hshutdown
    refine ⟨?_, fun hhidden given hgiven => ?_⟩
    · rw [ThermalEvaluator.evaluate, hthreshold]
      exact hdecision
    · rw [hhidden] at hdecision
      obtain ⟨-, hot, hhot, haction⟩ := ThermalEvaluator.decision_cases hdecision
      rw [asksThermal_outcome hsettings hgiven hthreshold, WarningAction.decide_of_rule haction]
      exact hhot

/-- A battery section that decides on a power state raises a hidden warning and dismisses a shown
one exactly if the answer for these readings is yes. -/
theorem decideBattery_agrees (hsettings : settingsFrom readings.thermal.settings = .ok settings)
    {battery : Option (PowerState × BatteryDecision)}
    (h : decideBattery settings readings.power e.state = .ok battery)
    (hpower : powerFrom readings.power.power = .ok (some power)) :
    ∃ hybrid, readings.power.hybrid.estimate = .ok hybrid ∧
      ∀ given ∈ [none, some settings], ∀ enabled ∈ [.null, hybrid.enabled],
        ∀ time, (hybrid.enabled.truth = true → time = hybrid.timeRemaining) →
          (e.state.batteryWarning = .hidden →
            (asksRaise readings e.state.previous power ⟨enabled, time⟩ given now).outcome.map
              Value.truth = .ok (decide (batteryAction (.ok battery) = some .raise))) ∧
          (e.state.batteryWarning = .shown →
            (asksDismiss readings e.state.previous power ⟨enabled, time⟩ given now).outcome =
              .ok (decide (batteryAction (.ok battery) = some .dismiss))) := by
  obtain ⟨hybrid, decision, hhybrid, rfl, hevaluate⟩ := evaluate_of_decideBattery h hpower
  refine ⟨hybrid, hhybrid, fun given hgiven enabled henabled time htime => ⟨?_, ?_⟩⟩
  · intro hhidden
    rw [hhidden] at hevaluate
    obtain ⟨-, raises, hraises, haction⟩ := BatteryThresholds.evaluate_cases hevaluate
    rw [asksRaise_outcome hsettings hgiven hhybrid henabled,
      BatteryThresholds.raiseVerdict_of_time _ _ _ htime]
    exact hraises.trans (congrArg Except.ok (WarningAction.decide_of_rule haction).symm)
  · intro hshown
    rw [hshown] at hevaluate
    obtain ⟨-, dismisses, hdismisses, haction⟩ := BatteryThresholds.evaluate_cases hevaluate
    rw [asksDismiss_outcome hsettings hgiven hhybrid henabled,
      BatteryThresholds.shouldDismiss_of_time _ _ _ htime]
    exact hdismisses.trans (congrArg Except.ok (WarningAction.decide_of_rule haction).symm)

/-- A poll that no fault ends has decided as the engine answers when it is asked with the same
readings. Its decision about overheating is the one that the evaluator makes for the shutdown
temperature, even where the poll has not read it, and a hidden warning was raised exactly if the
question says so; on a power state a hidden warning was raised, and a shown one dismissed, exactly
if its question says so. It makes no difference whether the settings and the switch of the hybrid
estimate are given or read again. -/
theorem pollOnce_agrees {behaviour : CallbackBehaviour} {state : PollState}
    (h : (pollOnce behaviour readings e).outcome = .ok state) :
    let changes := displayChanges (pollOnce behaviour readings e).effects
    ∃ settings report current, settingsFrom readings.thermal.settings = .ok settings ∧
      (poll readings e).outcome = .ok report ∧
      temperatureFrom readings.thermal.current = .ok current ∧
      (∀ shutdown, temperatureFrom readings.thermal.shutdown = .ok shutdown →
        (ThermalEvaluator.ofSettings settings).evaluate current shutdown e.state.thermalWarning =
            .ok report.thermal ∧
          (e.state.thermalWarning = .hidden → ∀ given ∈ [none, some settings],
            (asksThermal readings current shutdown given now).outcome =
              .ok (decide (report.thermal.action = some .raise)))) ∧
      ∀ power, powerFrom readings.power.power = .ok (some power) →
        ∃ hybrid, readings.power.hybrid.estimate = .ok hybrid ∧
          ∀ given ∈ [none, some settings], ∀ enabled ∈ [.null, hybrid.enabled],
            ∀ time, (hybrid.enabled.truth = true → time = hybrid.timeRemaining) →
              (e.state.batteryWarning = .hidden →
                (asksRaise readings e.state.previous power ⟨enabled, time⟩ given now).outcome.map
                  Value.truth = .ok (decide ((.battery, .raise) ∈ changes))) ∧
              (e.state.batteryWarning = .shown →
                (asksDismiss readings e.state.previous power ⟨enabled, time⟩ given now).outcome =
                  .ok (decide ((.battery, .dismiss) ∈ changes))) := by
  intro changes
  cases hpoll : (poll readings e).outcome with
  | error fault =>
    rw [(pollOnce_of_error behaviour hpoll).1] at h
    cases h
  | ok report =>
    obtain ⟨settings, battery, hfirst, hbattery⟩ := decides_of_poll hpoll
    have hsettings := settings_of_pollFirst hfirst
    obtain ⟨current, hcurrent, hthermal⟩ := pollFirst_agrees now hfirst
    refine ⟨settings, report, current, hsettings, rfl, hcurrent, hthermal, fun power hpower => ?_⟩
    have hchange (action : WarningAction) :
        (.battery, action) ∈ changes ↔ batteryAction (.ok battery) = some action := by
      rw [← (poll_eq_ok hfirst hbattery).2.2.2, ← mem_displayChanges_poll,
        ← (pollOnce_changes behaviour readings e).2]
    simp only [hchange]
    exact decideBattery_agrees now hsettings hbattery hpower

/-- Under a configured temperature of 45 degrees 50 degrees are warned of whatever the shutdown
temperature, and with a hybrid estimate that is switched on but unavailable the bucket alone raises
the warning. -/
theorem pollOnce_agrees_configured :
    let power : PowerState := { bucket := .number (.integer (-1)) }
    let readings : Readings :=
      { thermal := ⟨.zero, .ok { warningTemperature := 45 }, .ok 50, .ok 40⟩
        power := ⟨.zero, .ok (some power), ⟨.ok true, .error (.unavailable (.reported ""))⟩⟩ }
    let e := Engine.new .zero
    (asksThermal readings 50 40 none e).outcome = .ok true ∧
      (asksRaise readings {} power ⟨.null, Binary64.nan⟩ none e).outcome.map Value.truth =
        .ok true := by
  intro power readings e
  have hstate : (pollOnce (fun _ _ => {}) readings e).outcome =
      .ok ⟨power.left, .shown, .shown⟩ := by decide +kernel
  have haction : (poll readings e).outcome.map (fun report => report.thermal.action) =
      .ok (some .raise) := by decide +kernel
  have hraise : (.battery, .raise) ∈
      displayChanges (pollOnce (fun _ _ => {}) readings e).effects := by decide +kernel
  obtain ⟨settings, report, current, hsettings, hpoll, hcurrent, hthermal, hbattery⟩ :=
    pollOnce_agrees e hstate
  obtain rfl := Except.ok.inj hsettings
  obtain rfl := Except.ok.inj hcurrent
  obtain ⟨hybrid, hhybrid, hasked⟩ := hbattery power rfl
  obtain rfl := Except.ok.inj hhybrid
  rw [hpoll] at haction
  refine ⟨((hthermal 40 rfl).2 rfl none (by simp)).trans ?_, ?_⟩
  · exact congrArg Except.ok (decide_eq_true (Except.ok.inj haction))
  · refine ((hasked none (by simp) .null (by simp) Binary64.nan fun _ => rfl).1 rfl).trans ?_
    exact congrArg Except.ok (decide_eq_true hraise)

end Section

end DeviceWarnings
