import DeviceWarnings.Proofs.Order
import DeviceWarnings.Proofs.Run

/-!
# After a dismissal

A dismissal rests on the bucket and on the hybrid estimate, if that is enabled. Neither of them,
nor the plug, calls for a warning in the next poll if the readings stay as they are: the bucket is
above the threshold before and after, so it makes no edge, and an estimate above its threshold is
not below it. The standard estimate has no say in a dismissal. Where it is below its threshold, the
warning that was dismissed is raised anew by the same readings.
-/

namespace DeviceWarnings

/-- An estimate that is there is an amount. -/
theorem Value.exists_amount_of_isKnown {v : Value} (h : v.isKnown = .ok true) :
    ∃ n, v.amount? = some n := by
  cases v with
  | null => cases h
  | flag b => exact ⟨_, rfl⟩
  | number n => exact ⟨n, rfl⟩
  | text t => cases h
  | list items => cases h
  | mapping entries => cases h

/-- An estimate above its threshold is not below it. -/
theorem timeBelow_of_timeRecovered {time threshold : Value}
    (h : timeRecovered time threshold = .ok true) : timeBelow time threshold = .ok false := by
  obtain ⟨off, hoff, h⟩ := bind_eq_ok.1 h
  rw [timeBelow, hoff]
  cases off with
  | true => rfl
  | false =>
    obtain ⟨known, hknown, h⟩ := bind_eq_ok.1 h
    cases known with
    | false => cases h
    | true =>
      obtain ⟨m, hm⟩ := Value.exists_amount_of_isKnown hknown
      change Comparison.greater.holds time threshold = .ok true at h
      rcases Comparison.holds_ok_cases h with ⟨s, t, rfl, -⟩ | ⟨xs, ys, rfl, -⟩ | ⟨m', n, hm', hn⟩
      · cases hm
      · cases hm
      · rw [Comparison.holds_of_amount _ hm' hn] at h
        change (do
          if ← time.isKnown then Comparison.less.holds time threshold else return false) = _
        rw [hknown]
        change Comparison.less.holds time threshold = _
        rw [Comparison.holds_of_amount _ hm' hn,
          Comparison.ofNumbers_less_of_greater (Except.ok.inj h)]

/-- What comes up out of warning is above the threshold. -/
theorem greater_of_leavesWarning {old new threshold : Value}
    (h : leavesWarning old new threshold = .ok true) :
    Comparison.greater.holds new threshold = .ok true := by
  obtain ⟨inWarning, -, h⟩ := bind_eq_ok.1 h
  cases inWarning with
  | false => cases h
  | true => exact h

namespace BatteryThresholds

variable {thresholds : BatteryThresholds} {previous : PreviousPower} {power : PowerState}
  {hybrid : HybridEstimate} {decision : BatteryDecision}

/-- Whether the standard estimate of an unplugged device calls for a warning that nothing
suppresses. -/
def EstimateCalls (thresholds : BatteryThresholds) (power : PowerState) : Prop :=
  power.plugged.truth = false ∧ power.powerSaver.truth = false ∧
    power.status.isTrustworthy = true ∧
    timeBelow power.timeRemaining thresholds.standardTime = .ok true

/-- What dismisses the warning of an unplugged device that saves no power: the bucket has come up
out of warning, and an enabled hybrid estimate is above its threshold. -/
theorem recovered_of_shouldDismiss (hplug : power.plugged.truth = false)
    (hsaver : power.powerSaver.truth = false)
    (h : thresholds.shouldDismiss previous power hybrid = .ok true) :
    Comparison.greater.holds power.bucket thresholds.warningBucket = .ok true ∧
      (hybrid.enabled.truth = true →
        timeRecovered hybrid.timeRemaining thresholds.hybridTime = .ok true) := by
  rw [shouldDismiss, if_neg (by simp [hplug, hsaver])] at h
  obtain ⟨leaves, hleaves, h⟩ := bind_eq_ok.1 h
  cases leaves with
  | false => cases h
  | true =>
    refine ⟨greater_of_leavesWarning hleaves, fun henabled => ?_⟩
    rw [if_pos rfl, if_pos henabled] at h
    exact h

/-- A bucket that stays above the threshold gives no signal, so the standard estimate alone
decides. -/
theorem standardSignal_of_above
    (h : Comparison.greater.holds power.bucket thresholds.warningBucket = .ok true) :
    thresholds.standardSignal power.left power =
      timeBelow power.timeRemaining thresholds.standardTime := by
  have hout := Comparison.holds_atMost_of_greater _ _ h
  have hedge : entersWarning power.left.bucket power.bucket thresholds.warningBucket =
      .ok false := by
    change entersWarning power.bucket power.bucket thresholds.warningBucket = .ok false
    rw [entersWarning, h]
    exact hout
  rw [standardSignal, hout, hedge]
  change (if (power.left.plugged.truth && false) = true then _ else _) = _
  rw [Bool.and_false]
  rfl

/-- A hybrid estimate that agrees to a dismissal does not call for a warning. -/
theorem hybridSignal_of_recovered
    (h : hybrid.enabled.truth = true →
      timeRecovered hybrid.timeRemaining thresholds.hybridTime = .ok true) :
    ∃ verdict, thresholds.hybridSignal hybrid = .ok verdict ∧ verdict.truth = false := by
  rw [hybridSignal]
  by_cases henabled : hybrid.enabled.truth = true
  · rw [if_pos henabled, timeBelow_of_timeRecovered (h henabled)]
    exact ⟨.flag false, rfl, rfl⟩
  · rw [if_neg henabled]
    exact ⟨hybrid.enabled, rfl, by simpa using henabled⟩

/-- The readings that dismiss the warning call for it anew exactly if their standard estimate
does. -/
theorem shouldRaise_after_dismissal
    (h : thresholds.shouldDismiss previous power hybrid = .ok true) :
    thresholds.shouldRaise power.left power hybrid = .ok true ↔ thresholds.EstimateCalls power := by
  by_cases hsuppressed : power.plugged.truth ∨ power.powerSaver.truth ∨ ¬power.status.isTrustworthy
  · rw [shouldRaise, raiseVerdict, if_pos hsuppressed]
    constructor
    · intro hraises
      cases hraises
    · rintro ⟨hplug, hsaver, htrust, -⟩
      simp [hplug, hsaver, htrust] at hsuppressed
  · obtain ⟨hplug, hsaver, htrust⟩ : power.plugged.truth = false ∧
        power.powerSaver.truth = false ∧ power.status.isTrustworthy = true := by
      simpa using hsuppressed
    obtain ⟨habove, hrecovered⟩ := recovered_of_shouldDismiss hplug hsaver h
    obtain ⟨verdict, hverdict, hfalse⟩ := hybridSignal_of_recovered hrecovered
    rw [shouldRaise, raiseVerdict, if_neg hsuppressed, standardSignal_of_above habove, hverdict]
    cases hstandard : timeBelow power.timeRemaining thresholds.standardTime with
    | error fault =>
      constructor
      · intro hraises
        cases hraises
      · rintro ⟨-, -, -, hcalls⟩
        rw [hstandard] at hcalls
        cases hcalls
    | ok below =>
      cases below with
      | true => exact ⟨fun _ => ⟨hplug, hsaver, htrust, hstandard⟩, fun _ => rfl⟩
      | false =>
        constructor
        · intro hraises
          have htrue : verdict.truth = true := Except.ok.inj hraises
          rw [hfalse] at htrue
          cases htrue
        · rintro ⟨-, -, -, hcalls⟩
          rw [hstandard] at hcalls
          cases hcalls

/-- What could be told of a power state can be told of it again in the next poll. -/
theorem checkTold_left (h : checkTold previous power hybrid = .ok ()) :
    checkTold power.left power hybrid = .ok () := by
  obtain ⟨_, hvalues, hseconds⟩ := bind_eq_ok.1 h
  obtain ⟨_, -, hvalues⟩ := bind_eq_ok.1 hvalues
  obtain ⟨_, hbucket, hrest⟩ := bind_eq_ok.1 hvalues
  refine bind_eq_ok.2 ⟨(), ?_, hseconds⟩
  exact bind_eq_ok.2 ⟨(), hbucket, hvalues⟩

/-- After a dismissal the same readings raise the warning anew exactly if their standard estimate
calls for it. -/
theorem evaluate_after_dismissal
    (h : thresholds.evaluate previous power hybrid .shown = .ok decision)
    (hdismiss : decision.action = some .dismiss) :
    (∃ next, thresholds.evaluate power.left power hybrid .hidden = .ok next ∧
        next.action = some .raise) ↔
      thresholds.EstimateCalls power := by
  obtain ⟨htold, dismisses, hdismisses, haction⟩ := evaluate_cases h
  obtain ⟨rfl, -⟩ := WarningAction.eq_of_rule haction hdismiss
  rw [evaluate_raises_iff, shouldRaise_after_dismissal hdismisses]
  exact and_iff_left (checkTold_left htold)

end BatteryThresholds

namespace Section

variable {first second : Tick} {e : Engine} {settings : WarningSettings} {power : PowerState}

/-- A poll that dismisses the low battery warning has decided so on the power state that was read,
carries it, and leaves the warning hidden. -/
theorem dismissal_cases (hsettings : settingsFrom first.readings.thermal.settings = .ok settings)
    (hpower : first.readings.power.power = .ok (some power))
    (h : (.battery, .dismiss) ∈
      displayChanges (pollOnce first.behaviour first.readings e).effects) :
    (∃ hybrid decision, first.readings.power.hybrid.estimate = .ok hybrid ∧
        (BatteryThresholds.ofSettings settings).evaluate e.state.previous power hybrid .shown =
          .ok decision ∧ decision.action = some .dismiss) ∧
      (pollOnce first.behaviour first.readings e).engine.state.previous = power.left ∧
      (pollOnce first.behaviour first.readings e).engine.state.batteryWarning = .hidden := by
  obtain ⟨hstate, hchanges⟩ := pollOnce_changes first.behaviour first.readings e
  rw [hchanges, mem_displayChanges_poll] at h
  have hshown : e.state.batteryWarning = .shown := state_of_pollShown h
  have hcarried : pollAction first.readings e .battery = some .dismiss :=
    pollAction_of_pollShown_dismiss h
  obtain ⟨read, decision, houtcome, haction⟩ := batteryAction_eq_some.1 hcarried
  obtain ⟨settings', thermal, hfirst, hread, hdecision, -⟩ := batteryOutcome_eq_some.1 houtcome
  obtain rfl : settings = settings' :=
    Except.ok.inj (hsettings.symm.trans (settings_of_pollFirst hfirst))
  obtain rfl : power = read :=
    Option.some.inj (Except.ok.inj (hpower.symm.trans (powerFrom_eq_some.1 hread)))
  obtain ⟨hybrid, hhybrid, hevaluate⟩ := bind_eq_ok.1 hdecision
  rw [hshown] at hevaluate
  refine ⟨⟨hybrid, decision, hhybrid, hevaluate, haction⟩, ?_, ?_⟩
  · rw [hstate, (poll_spec first.readings e).1, houtcome]
    rfl
  · rw [hstate]
    change (poll first.readings e).engine.state.warning .battery = _
    rw [poll_warning, hcarried]
    rfl

/-- When a poll has dismissed the low battery warning, then the next poll with the same settings,
power state and hybrid estimate raises it anew exactly if its first half ends and the standard
estimate calls for a warning: no bucket, plug or hybrid signal is left in readings that dismiss. -/
theorem raise_after_dismissal
    (hfirst : settingsFrom first.readings.thermal.settings = .ok settings)
    (hsecond : settingsFrom second.readings.thermal.settings = .ok settings)
    (hpower : first.readings.power.power = .ok (some power))
    (hagain : second.readings.power.power = .ok (some power))
    (hhybrid : second.readings.power.hybrid.estimate = first.readings.power.hybrid.estimate)
    (hdismiss : (.battery, .dismiss) ∈
      displayChanges (pollOnce first.behaviour first.readings e).effects) :
    let between := (pollOnce first.behaviour first.readings e).engine
    (.battery, .raise) ∈
        displayChanges (pollOnce second.behaviour second.readings between).effects ↔
      (∃ thermal, (pollFirst second.readings.thermal between).outcome = .ok (settings, thermal)) ∧
        (BatteryThresholds.ofSettings settings).EstimateCalls power := by
  intro between
  obtain ⟨⟨hybrid, decision, hestimate, hevaluate, haction⟩, hprevious, hhidden⟩ :=
    dismissal_cases hfirst hpower hdismiss
  have hnext := BatteryThresholds.evaluate_after_dismissal hevaluate haction
  have hdecides (next : BatteryDecision) :
      batteryDecision settings second.readings.power.hybrid power between.state = .ok next ↔
        (BatteryThresholds.ofSettings settings).evaluate power.left power hybrid .hidden =
          .ok next := by
    rw [batteryDecision, hhybrid, hestimate, hprevious, hhidden]
    rfl
  rw [(pollOnce_changes second.behaviour second.readings between).2, mem_displayChanges_poll,
    ← hnext, pollShown_battery_eq_some]
  constructor
  · rintro ⟨settings', thermal, read, next, hends, hread, hmade, hraise⟩
    obtain rfl : settings = settings' :=
      Except.ok.inj (hsecond.symm.trans (settings_of_pollFirst hends))
    obtain rfl : power = read :=
      Option.some.inj (Except.ok.inj (hagain.symm.trans (powerFrom_eq_some.1 hread)))
    exact ⟨⟨thermal, hends⟩, next, (hdecides next).1 hmade, hraise⟩
  · rintro ⟨⟨thermal, hends⟩, next, hmade, hraise⟩
    exact ⟨settings, thermal, power, next, hends, powerFrom_eq_some.2 hagain,
      (hdecides next).2 hmade, hraise⟩

/-- A device that reaches bucket 1 with 100 seconds left according to the standard estimate has its
warning dismissed by this, and raised anew. -/
theorem raise_after_dismissal_bucket_one :
    let low : Tick := .ofPower { bucket := .number (.integer (-1)) }
    let recovered : Tick := .ofPower { timeRemaining := 100 }
    let before := ((Engine.fresh .zero []).run [low]).engine
    let between := (pollOnce recovered.behaviour recovered.readings before).engine
    (.battery, .dismiss) ∈
        displayChanges (pollOnce recovered.behaviour recovered.readings before).effects ∧
      (.battery, .raise) ∈
        displayChanges (pollOnce recovered.behaviour recovered.readings between).effects := by
  intro low recovered before between
  have hdismiss : (.battery, .dismiss) ∈
      displayChanges (pollOnce recovered.behaviour recovered.readings before).effects := by
    decide +kernel
  have hends : (pollFirst recovered.readings.thermal between).outcome = .ok ({}, {}) := by
    decide +kernel
  have hcalls : (BatteryThresholds.ofSettings {}).EstimateCalls { timeRemaining := 100 } := by
    refine ⟨rfl, rfl, rfl, ?_⟩
    decide +kernel
  exact ⟨hdismiss,
    (raise_after_dismissal rfl rfl rfl rfl rfl hdismiss).2 ⟨⟨_, hends⟩, hcalls⟩⟩

/-- It is not so that readings that dismiss the low battery warning never raise it in the next
poll. -/
theorem not_steady_after_dismissal :
    ¬∀ (clock : Binary64) (callbacks : List Callback) (ticks : List Tick) (t : Tick),
      let before := ((Engine.fresh clock callbacks).run ticks).engine
      let between := (pollOnce t.behaviour t.readings before).engine
      (.battery, .dismiss) ∈ displayChanges (pollOnce t.behaviour t.readings before).effects →
        (.battery, .raise) ∉ displayChanges (pollOnce t.behaviour t.readings between).effects := by
  intro h
  refine h .zero [] [.ofPower { bucket := .number (.integer (-1)) }]
    (.ofPower { timeRemaining := 100 }) ?_ ?_
  · decide +kernel
  · decide +kernel

end Section

end DeviceWarnings
