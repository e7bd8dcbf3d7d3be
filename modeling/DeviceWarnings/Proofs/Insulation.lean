import DeviceWarnings.Proofs.Completion
import DeviceWarnings.Proofs.Soundness

/-!
# A failed read does not spread

A poll in which a source fails as it declares is compared with the same poll in which this source
answers; where the settings fail, with the poll under the default settings. Both are completed, and
they agree about every warning that does not rest on the failed source. About the other one the
failed read is never the reason for a change: without a temperature or a power state nothing is
done, without a shutdown temperature only a configured threshold is left, and an unknown hybrid
estimate neither calls for a warning nor agrees to a dismissal on its own. So whatever the poll
changes nevertheless, it would have changed with any answer.

A fault that a source does not declare is another matter: it ends the poll.
-/

namespace DeviceWarnings

/-- The warning that rests on a source; the settings serve both. -/
def Source.channel? : Source → Option Channel
  | settings => none
  | current | shutdown => some .thermal
  | power | hybridSwitch | hybridTime => some .battery

/-- Readings of which one source fails instead. -/
def Readings.failing (readings : Readings) (source : Source) (fault : Fault) : Readings :=
  let thermal := readings.thermal
  let power := readings.power
  match source with
  | .settings => ⟨{ thermal with settings := .error fault }, power⟩
  | .current => ⟨{ thermal with current := .error fault }, power⟩
  | .shutdown => ⟨{ thermal with shutdown := .error fault }, power⟩
  | .power => ⟨thermal, { power with power := .error fault }⟩
  | .hybridSwitch =>
    ⟨thermal, { power with hybrid := { power.hybrid with enabled := .error fault } }⟩
  | .hybridTime => ⟨thermal, { power with hybrid := { power.hybrid with time := .error fault } }⟩

/-- The readings with which those are compared in which a source fails: failed settings count as
the defaults. -/
def Readings.comparable (readings : Readings) : Source → Readings
  | .settings => ⟨{ readings.thermal with settings := .ok {} }, readings.power⟩
  | _ => readings

/-- Whether two reports tell the same about a warning: the decision on it, and what is carried for
it. -/
def PollReport.AgreesWith (a b : PollReport) : Channel → Prop
  | .thermal => a.thermal = b.thermal ∧ a.state.thermalWarning = b.state.thermalWarning
  | .battery => a.battery = b.battery ∧ a.state.previous = b.state.previous ∧
      a.state.batteryWarning = b.state.batteryWarning

namespace Readings

variable {readings : Readings} {source : Source} {fault : Fault}

theorem fault?_failing (readings : Readings) (source other : Source) (fault : Fault) :
    (readings.failing source fault).fault? other =
      if other = source then some fault else readings.fault? other := by
  cases source <;> cases other <;> rfl

/-- A source that fails answers nothing unsound. -/
theorem IsSound.failing (h : readings.IsSound) (source : Source) (fault : Fault) :
    (readings.failing source fault).IsSound := by
  cases source with
  | settings => exact ⟨nofun, h.current, h.shutdown, h.power, h.time⟩
  | current => exact ⟨h.settings, nofun, h.shutdown, h.power, h.time⟩
  | shutdown => exact ⟨h.settings, h.current, nofun, h.power, h.time⟩
  | power => exact ⟨h.settings, h.current, h.shutdown, nofun, h.time⟩
  | hybridSwitch => exact ⟨h.settings, h.current, h.shutdown, h.power, h.time⟩
  | hybridTime => exact ⟨h.settings, h.current, h.shutdown, h.power, nofun⟩

theorem IsContained.failing (h : readings.IsContained) (hdeclared : source.declares fault = true) :
    (readings.failing source fault).IsContained := by
  intro other made hmade
  rw [fault?_failing] at hmade
  by_cases hother : other = source
  · rw [if_pos hother] at hmade
    obtain rfl := Option.some.inj hmade
    rw [hother]
    exact hdeclared
  · rw [if_neg hother] at hmade
    exact h other made hmade

theorem IsSound.comparable (h : readings.IsSound) (source : Source) :
    (readings.comparable source).IsSound := by
  cases source with
  | settings =>
    refine ⟨?_, h.current, h.shutdown, h.power, h.time⟩
    intro settings hsettings
    obtain rfl := Except.ok.inj hsettings
    exact WarningSettings.isSound_default
  | _ => exact h

theorem IsContained.comparable (h : readings.IsContained) (source : Source) :
    (readings.comparable source).IsContained := by
  cases source with
  | settings =>
    intro other made hmade
    cases other with
    | settings => cases hmade
    | current => exact h .current made hmade
    | shutdown => exact h .shutdown made hmade
    | power => exact h .power made hmade
    | hybridSwitch => exact h .hybridSwitch made hmade
    | hybridTime => exact h .hybridTime made hmade
  | _ => exact h

/-- Settings that fail are read as the defaults. -/
theorem settingsFrom_failing (hdeclared : source.declares fault = true) :
    Section.settingsFrom (readings.failing source fault).thermal.settings =
      Section.settingsFrom (readings.comparable source).thermal.settings := by
  cases source with
  | settings =>
    cases fault with
    | settings problem => rfl
    | _ => cases hdeclared
  | _ => rfl

end Readings

/-! ## The overheating warning -/

/-- A threshold that does without a shutdown temperature is there whatever that is. -/
theorem resolveThreshold_of_null {configured tolerance : Value} {limit : ThermalThreshold}
    (h : resolveThreshold configured .null tolerance = .ok (.ok limit)) (shutdown : Value) :
    resolveThreshold configured shutdown tolerance = .ok (.ok limit) := by
  unfold resolveThreshold at h ⊢
  by_cases hderived : configured = .null ∨ configured.same deriveMark
  · rw [if_pos hderived] at h
    cases h
  · rw [if_neg hderived] at h ⊢
    exact h

namespace Section

variable {readings : Readings} {settings : WarningSettings} {state : WarningState}
  {outage : Outage} {made other : ThermalDecision}

/-- Without a temperature nothing is done about overheating. -/
theorem action_of_failing_current
    (h : decideThermal settings (readings.failing .current (.unavailable outage)).thermal state =
      .ok made) : made.action = none := by
  obtain ⟨⟨current, threshold⟩, hgathered, hdecision⟩ := bind_eq_ok.1 h
  obtain ⟨hcurrent, -, -⟩ := gathered_eq_ok.1 hgathered
  obtain rfl : .null = current := Except.ok.inj hcurrent
  have hnone : made = ⟨none, threshold.toOption⟩ := Except.ok.inj (hdecision.symm.trans
    (ThermalEvaluator.decision_of_missing (.inl rfl) state))
  rw [hnone]

/-- What is done about overheating without a shutdown temperature is done with any. -/
theorem action_of_failing_shutdown
    (h : decideThermal settings (readings.failing .shutdown (.unavailable outage)).thermal state =
      .ok made)
    (hother : decideThermal settings readings.thermal state = .ok other) {action : WarningAction}
    (haction : made.action = some action) : other.action = some action := by
  obtain ⟨⟨current, threshold⟩, hgathered, hdecision⟩ := bind_eq_ok.1 h
  obtain ⟨⟨current', threshold'⟩, hgathered', hdecision'⟩ := bind_eq_ok.1 hother
  obtain ⟨hcurrent, hthreshold, -⟩ := gathered_eq_ok.1 hgathered
  obtain ⟨hcurrent', hthreshold', -⟩ := gathered_eq_ok.1 hgathered'
  obtain rfl : current = current' := Except.ok.inj (hcurrent.symm.trans hcurrent')
  obtain ⟨shutdown, hshutdown, hresolved⟩ := bind_eq_ok.1 hthreshold
  obtain ⟨shutdown', -, hresolved'⟩ := bind_eq_ok.1 hthreshold'
  obtain rfl : shutdown = .null := by
    obtain ⟨reads, -, hvalue⟩ := bind_eq_ok.1 hshutdown
    cases reads with
    | true => exact (Except.ok.inj hvalue).symm
    | false => exact (Except.ok.inj hvalue).symm
  cases threshold with
  | error problem =>
    have hnone : made = ⟨none, none⟩ := Except.ok.inj (hdecision.symm.trans
      (ThermalEvaluator.decision_of_missing (.inr rfl) state))
    rw [hnone] at haction
    cases haction
  | ok limit =>
    have hsame : threshold' = .ok limit :=
      Except.ok.inj (hresolved'.symm.trans (resolveThreshold_of_null hresolved shutdown'))
    rw [hsame] at hdecision'
    obtain rfl : made = other := Except.ok.inj (hdecision.symm.trans hdecision')
    exact haction

end Section

/-! ## The low battery warning -/

/-- The hybrid estimate while it is unavailable. -/
def HybridEstimate.unknown : HybridEstimate := ⟨.flag true, Binary64.nan⟩

/-- An estimate that is NaN is below no threshold. -/
theorem timeBelow_nan {threshold : Value} {below : Bool}
    (h : timeBelow Binary64.nan threshold = .ok below) : below = false := by
  obtain ⟨off, -, h⟩ := bind_eq_ok.1 h
  cases off with
  | true => exact (Except.ok.inj h).symm
  | false => exact (Except.ok.inj h).symm

/-- An estimate that is NaN agrees to a dismissal only where the threshold is switched off, and so
does every estimate then. -/
theorem timeRecovered_of_nan {threshold : Value}
    (h : timeRecovered Binary64.nan threshold = .ok true) (time : Value) :
    timeRecovered time threshold = .ok true := by
  obtain ⟨off, hoff, h⟩ := bind_eq_ok.1 h
  cases off with
  | true => exact bind_eq_ok.2 ⟨true, hoff, rfl⟩
  | false => cases h

namespace BatteryThresholds

variable {thresholds : BatteryThresholds} {previous : PreviousPower} {power : PowerState}
  {hybrid : HybridEstimate} {state : WarningState} {made other : BatteryDecision}

/-- A warning that is to be raised for an unknown hybrid estimate is to be raised for any. -/
theorem shouldRaise_of_unknown
    (h : thresholds.shouldRaise previous power .unknown = .ok true) {raises : Bool}
    (hother : thresholds.shouldRaise previous power hybrid = .ok raises) : raises = true := by
  rw [shouldRaise_eq_ok] at h hother
  by_cases hsuppressed : power.plugged.truth ∨ power.powerSaver.truth ∨ ¬power.status.isTrustworthy
  · rw [if_pos hsuppressed] at h
    cases h
  · rw [if_neg hsuppressed] at h hother
    obtain ⟨standard, unknown, hstandard, hunknown, hraises⟩ := h
    obtain ⟨standard', verdict, hstandard', -, rfl⟩ := hother
    obtain rfl : standard = standard' := Except.ok.inj (hstandard.symm.trans hstandard')
    -- The unknown estimate does not call for a warning, so the standard signal does.
    have hsilent : unknown.truth = false := by
      obtain ⟨below, hbelow, rfl⟩ := map_eq_ok.1 hunknown
      exact timeBelow_nan hbelow
    rw [hsilent, Bool.or_false] at hraises
    rw [← hraises, Bool.true_or]

/-- A warning that is to be dismissed for an unknown hybrid estimate is to be dismissed for any. -/
theorem shouldDismiss_of_unknown
    (h : thresholds.shouldDismiss previous power .unknown = .ok true) :
    thresholds.shouldDismiss previous power hybrid = .ok true := by
  unfold shouldDismiss at h ⊢
  by_cases hsupplied : power.plugged.truth ∨ power.powerSaver.truth
  · rw [if_pos hsupplied]
  · rw [if_neg hsupplied] at h ⊢
    obtain ⟨leaves, hleaves, h⟩ := bind_eq_ok.1 h
    refine bind_eq_ok.2 ⟨leaves, hleaves, ?_⟩
    cases leaves with
    | false => cases h
    | true =>
      change (if hybrid.enabled.truth = true then _ else _) = _
      split
      · exact timeRecovered_of_nan h hybrid.timeRemaining
      · rfl

/-- A change that is made for an unknown hybrid estimate is made for any. -/
theorem action_of_unknown (h : thresholds.evaluate previous power .unknown state = .ok made)
    (hother : thresholds.evaluate previous power hybrid state = .ok other) {action : WarningAction}
    (haction : made.action = some action) : other.action = some action := by
  obtain ⟨-, hmade⟩ := evaluate_cases h
  obtain ⟨-, hmade'⟩ := evaluate_cases hother
  cases state with
  | hidden =>
    obtain ⟨raises, hraises, hmade⟩ := hmade
    obtain ⟨raises', hraises', hmade'⟩ := hmade'
    obtain ⟨rfl, rfl⟩ := WarningAction.eq_of_rule hmade haction
    obtain rfl := shouldRaise_of_unknown hraises hraises'
    exact hmade'
  | shown =>
    obtain ⟨dismisses, hdismisses, hmade⟩ := hmade
    obtain ⟨dismisses', hdismisses', hmade'⟩ := hmade'
    obtain ⟨rfl, rfl⟩ := WarningAction.eq_of_rule hmade haction
    obtain rfl : true = dismisses' :=
      Except.ok.inj ((shouldDismiss_of_unknown hdismisses).symm.trans hdismisses')
    exact hmade'

end BatteryThresholds

namespace Section

variable {readings : Readings} {settings : WarningSettings} {source : Source} {fault : Fault}

/-- A hybrid source that fails leaves the estimate unknown, or is not needed for it. -/
theorem estimate_failing (hsource : source = .hybridSwitch ∨ source = .hybridTime)
    (hdeclared : source.declares fault = true) (hcontained : readings.IsContained) :
    (readings.failing source fault).power.hybrid.estimate = .ok .unknown ∨
      (readings.failing source fault).power.hybrid.estimate = readings.power.hybrid.estimate := by
  cases fault with
  | unavailable outage =>
    rcases hsource with rfl | rfl
    · exact .inl rfl
    · cases hswitch : readings.power.hybrid.enabled with
      | ok enabled =>
        cases enabled with
        | true =>
          left
          simp [Readings.failing, HybridReadings.estimate, hswitch, HybridEstimate.unknown]
        | false =>
          right
          simp [Readings.failing, HybridReadings.estimate, hswitch]
      | error other =>
        right
        have hother := hcontained .hybridSwitch other (by rw [Readings.fault?, hswitch]; rfl)
        cases other with
        | unavailable outage => simp [Readings.failing, HybridReadings.estimate, hswitch]
        | _ => cases hother
  | _ => rcases hsource with rfl | rfl <;> cases hdeclared

/-- What is done about the battery while a hybrid source fails is done with any estimate. -/
theorem batteryAction_failing_hybrid (hsource : source = .hybridSwitch ∨ source = .hybridTime)
    (hdeclared : source.declares fault = true) (hcontained : readings.IsContained)
    {state : PollState} {made other : Option (PowerState × BatteryDecision)}
    (h : decideBattery settings (readings.failing source fault).power state = .ok made)
    (hother : decideBattery settings readings.power state = .ok other) {action : WarningAction}
    (haction : batteryAction (.ok made) = some action) :
    batteryAction (.ok other) = some action := by
  rw [← h] at haction
  obtain ⟨power, decision, hmade, haction⟩ := batteryAction_eq_some.1 haction
  obtain ⟨hpower, hdecision, -⟩ := decideBattery_eq_some.1 hmade
  have hread : powerFrom readings.power.power = .ok (some power) := by
    rcases hsource with rfl | rfl
    · exact hpower
    · exact hpower
  obtain ⟨decision', hdecision', rfl⟩ : ∃ decision',
      batteryDecision settings readings.power.hybrid power state = .ok decision' ∧
        some (power, decision') = other := by
    rw [decideBattery, hread] at hother
    obtain ⟨decision', hdecision', hother⟩ := bind_eq_ok.1 hother
    split at hother
    case isTrue => exact ⟨decision', hdecision', Except.ok.inj hother⟩
    case isFalse => cases hother
  refine batteryAction_eq_some.2 ⟨power, decision', rfl, ?_⟩
  obtain ⟨hybrid, hestimate, hevaluate⟩ := bind_eq_ok.1 hdecision
  obtain ⟨hybrid', hestimate', hevaluate'⟩ := bind_eq_ok.1 hdecision'
  rcases estimate_failing hsource hdeclared hcontained with hunknown | hsame
  · obtain rfl : .unknown = hybrid := Except.ok.inj (hunknown.symm.trans hestimate)
    exact BatteryThresholds.action_of_unknown hevaluate hevaluate' haction
  · rw [hsame] at hestimate
    obtain rfl : hybrid = hybrid' := Except.ok.inj (hestimate.symm.trans hestimate')
    obtain rfl : decision = decision' := Except.ok.inj (hevaluate.symm.trans hevaluate')
    exact haction

/-- A warning that does not rest on the failed source is decided on as it is otherwise. -/
theorem decideThermal_failing (h : source.channel? ≠ some .thermal) (state : WarningState) :
    decideThermal settings (readings.failing source fault).thermal state =
      decideThermal settings (readings.comparable source).thermal state := by
  cases source with
  | current => exact absurd rfl h
  | shutdown => exact absurd rfl h
  | _ => rfl

theorem decideBattery_failing (h : source.channel? ≠ some .battery) (state : PollState) :
    decideBattery settings (readings.failing source fault).power state =
      decideBattery settings (readings.comparable source).power state := by
  cases source with
  | power => exact absurd rfl h
  | hybridSwitch => exact absurd rfl h
  | hybridTime => exact absurd rfl h
  | _ => rfl

/-- Without an answer of the power source nothing is decided about the battery. -/
theorem decideBattery_failing_power (hdeclared : Source.power.declares fault = true)
    (state : PollState) :
    decideBattery settings (readings.failing .power fault).power state = .ok none := by
  cases fault with
  | unavailable outage => rfl
  | timeout => rfl
  | _ => cases hdeclared

/-- On its own warning a failed temperature source makes no change that the compared poll does not
make, and none without a temperature. -/
theorem thermalDecision_failing (hsource : source.channel? = some .thermal)
    (hdeclared : source.declares fault = true) {state : WarningState} {made other : ThermalDecision}
    (h : decideThermal settings (readings.failing source fault).thermal state = .ok made)
    (hother : decideThermal settings (readings.comparable source).thermal state = .ok other) :
    (∀ action, made.action = some action → other.action = some action) ∧
      (source = .current ∨ source = .power → made.action = none) := by
  cases source with
  | current =>
    cases fault with
    | unavailable outage =>
      have hnone := action_of_failing_current h
      rw [hnone]
      exact ⟨nofun, fun _ => rfl⟩
    | _ => cases hdeclared
  | shutdown =>
    cases fault with
    | unavailable outage => exact ⟨fun _ => action_of_failing_shutdown h hother, by simp⟩
    | _ => cases hdeclared
  | _ => cases hsource

/-- On its own warning a failed power or hybrid source makes no change that the compared poll does
not make, and none without a power state. -/
theorem batteryAction_failing (hsource : source.channel? = some .battery)
    (hdeclared : source.declares fault = true) (hcontained : readings.IsContained)
    {state : PollState} {made other : Option (PowerState × BatteryDecision)}
    (h : decideBattery settings (readings.failing source fault).power state = .ok made)
    (hother : decideBattery settings (readings.comparable source).power state = .ok other) :
    (∀ action, batteryAction (.ok made) = some action → batteryAction (.ok other) = some action) ∧
      (source = .current ∨ source = .power → batteryAction (.ok made) = none) := by
  cases source with
  | power =>
    rw [decideBattery_failing_power hdeclared] at h
    obtain rfl := Except.ok.inj h
    exact ⟨nofun, fun _ => rfl⟩
  | hybridSwitch =>
    exact ⟨fun _ => batteryAction_failing_hybrid (.inl rfl) hdeclared hcontained h hother, by simp⟩
  | hybridTime =>
    exact ⟨fun _ => batteryAction_failing_hybrid (.inr rfl) hdeclared hcontained h hother, by simp⟩
  | _ => cases hsource

/-- What is carried of the battery does not depend on the overheating warning. -/
theorem afterBattery_previous (state : PollState) (action : Option WarningAction)
    (outcome : Except Fault (Option (PowerState × BatteryDecision))) :
    (afterBattery (state.change .thermal action) outcome).previous =
      (afterBattery state outcome).previous := by
  unfold afterBattery
  split <;> rfl

/-- In a sound state a poll of sound sources of which one fails as it declares is completed. It
agrees with the compared poll about each warning that does not rest on the failed source, and
changes the other one only as the compared poll does; without a temperature or a power state it
leaves that one alone. -/
theorem poll_failing {e : Engine} (he : e.IsSound) (hsound : readings.IsSound)
    (hcontained : readings.IsContained) (hdeclared : source.declares fault = true) :
    ∃ report other, (poll (readings.failing source fault) e).outcome = .ok report ∧
      (poll (readings.comparable source) e).outcome = .ok other ∧
      (∀ channel, source.channel? ≠ some channel → report.AgreesWith other channel ∧
        pollShown (readings.failing source fault) e channel =
          pollShown (readings.comparable source) e channel) ∧
      ∀ channel, source.channel? = some channel →
        (∀ action, pollShown (readings.failing source fault) e channel = some action →
          pollShown (readings.comparable source) e channel = some action) ∧
        (source = .current ∨ source = .power →
          pollShown (readings.failing source fault) e channel = none) := by
  obtain ⟨settings, thermal, battery, hread, -, hthermal, hfirst, hbattery⟩ :=
    decides_of_isSound (hsound.failing source fault) (hcontained.failing hdeclared) he
  obtain ⟨settings', thermal', battery', hread', -, hthermal', hfirst', hbattery'⟩ :=
    decides_of_isSound (hsound.comparable source) (hcontained.comparable source) he
  obtain rfl : settings = settings' := by
    rw [Readings.settingsFrom_failing hdeclared] at hread
    exact Except.ok.inj (hread.symm.trans hread')
  obtain ⟨houtcome, hstate, hhot, hlow⟩ := poll_eq_ok hfirst hbattery
  obtain ⟨houtcome', hstate', hhot', hlow'⟩ := poll_eq_ok hfirst' hbattery'
  refine ⟨_, _, houtcome, houtcome', fun channel hchannel => ?_, fun channel hchannel => ?_⟩
  · cases channel with
    | thermal =>
      have hsame : thermal = thermal' := by
        rw [decideThermal_failing hchannel] at hthermal
        exact Except.ok.inj (hthermal.symm.trans hthermal')
      refine ⟨⟨hsame, ?_⟩, by rw [hhot, hhot', hsame]⟩
      rw [hstate, hstate', afterBattery_thermalWarning, afterBattery_thermalWarning, hsame]
    | battery =>
      have hsame : battery = battery' := by
        rw [decideBattery_failing hchannel] at hbattery
        exact Except.ok.inj (hbattery.symm.trans hbattery')
      refine ⟨⟨by rw [hsame], ?_, ?_⟩, by rw [hlow, hlow', hsame]⟩
      · rw [hstate, hstate', afterBattery_previous, afterBattery_previous, hsame]
      · rw [hstate, hstate', afterBattery_batteryWarning, afterBattery_batteryWarning, hsame]
        rfl
  · cases channel with
    | thermal =>
      rw [hhot, hhot']
      exact thermalDecision_failing hchannel hdeclared hthermal hthermal'
    | battery =>
      rw [hlow, hlow']
      exact batteryAction_failing hchannel hdeclared hcontained hbattery hbattery'

end Section

namespace Tick

/-- A tick with default settings, a temperature of 50 degrees and a battery in bucket -1. -/
def low : Tick where
  readings :=
    { thermal := ⟨.zero, .ok {}, .ok 50, .ok .null⟩
      power := ⟨.zero, .ok (some
          { bucket := .number (.integer (-1)) }),
        ⟨.ok false, .ok (Binary64.infinity false)⟩⟩ }

theorem low_isSound : low.readings.IsSound where
  settings settings h := by
    obtain rfl := Except.ok.inj h
    exact WarningSettings.isSound_default
  current v h := by
    obtain rfl := Except.ok.inj h
    exact ⟨.inr ⟨50, rfl⟩, false, by decide⟩
  shutdown v h := by
    obtain rfl := Except.ok.inj h
    exact Value.isDegrees_null
  power power h := by
    obtain rfl := Option.some.inj (Except.ok.inj h)
    exact ⟨⟨⟨.integer (-1), rfl⟩, Value.isWritable_integer (by decide +kernel), rfl⟩,
      Value.isWritable_null, rfl, .inr ⟨_, rfl, _, rfl⟩⟩
  time v h := by
    obtain rfl := Except.ok.inj h
    exact ⟨_, rfl, _, rfl⟩

theorem low_isContained : low.readings.IsContained := by
  intro source fault h
  cases source <;> cases h

end Tick

namespace Engine

variable (clock : Binary64) (callbacks : List Callback) {ticks : List Tick} {t : Tick}
  {source : Source} {fault : Fault}

/-- In every run of a new engine whose sources answer soundly, a poll in which a source fails as it
declares is completed and counted, and its report is handed to the callbacks, up to the first whose
fault nobody contains. About each warning that does not rest on this source it decides, displays and
carries what the compared poll does. On the other one it displays nothing that the compared poll
does not display, and nothing at all without a temperature or a power state. -/
theorem fresh_run_insulated (hsound : ∀ u ∈ ticks, u.readings.IsSound)
    (ht : t.readings.IsSound) (hcontained : t.readings.IsContained)
    (hdeclared : source.declares fault = true) :
    let e := ((fresh clock callbacks).run ticks).engine
    let failing := Section.pollOnce t.behaviour (t.readings.failing source fault) e
    let compared := Section.pollOnce t.behaviour (t.readings.comparable source) e
    ∃ report other,
      ((Section.poll (t.readings.failing source fault) e).outcome = .ok report ∧
        failing.outcome =
          (t.behaviour.roundOutcome report e.callbacks).map (fun _ => report.state) ∧
        failing.engine.state = report.state ∧
        failing.engine.pollsCompleted = e.pollsCompleted + 1 ∧
        callbackRuns failing.effects =
          (t.behaviour.called report e.callbacks).map (·, report)) ∧
      ((Section.poll (t.readings.comparable source) e).outcome = .ok other ∧
        compared.engine.state = other.state ∧
        callbackRuns compared.effects = (t.behaviour.called other e.callbacks).map (·, other)) ∧
      (∀ channel, source.channel? ≠ some channel → report.AgreesWith other channel ∧
        actionsOn channel (displayChanges failing.effects) =
          actionsOn channel (displayChanges compared.effects)) ∧
      ∀ channel, source.channel? = some channel →
        (∀ action ∈ actionsOn channel (displayChanges failing.effects),
          action ∈ actionsOn channel (displayChanges compared.effects)) ∧
        (source = .current ∨ source = .power →
          actionsOn channel (displayChanges failing.effects) = []) := by
  intro e failing compared
  have he : e.IsSound := fresh_run_isSound clock callbacks hsound
  obtain ⟨report, other, hreport, hother, hagree, hown⟩ :=
    Section.poll_failing he ht hcontained hdeclared
  obtain ⟨houtcome, hstate, hcompleted, hruns⟩ := Section.pollOnce_of_ok t.behaviour hreport
  obtain ⟨-, hstate', -, hruns'⟩ := Section.pollOnce_of_ok t.behaviour hother
  have hactions (readings : Readings) (channel : Channel) :
      actionsOn channel (displayChanges (Section.pollOnce t.behaviour readings e).effects) =
        (Section.pollShown readings e channel).toList := by
    rw [(Section.pollOnce_changes t.behaviour readings e).2, Section.poll_actionsOn]
  refine ⟨report, other, ⟨hreport, houtcome, hstate, hcompleted, hruns⟩, ⟨hother, hstate', hruns'⟩,
    fun channel hchannel => ?_, fun channel hchannel => ?_⟩
  · obtain ⟨hagrees, hsame⟩ := hagree channel hchannel
    exact ⟨hagrees, by rw [hactions, hactions, hsame]⟩
  · obtain ⟨hmade, hnone⟩ := hown channel hchannel
    rw [hactions, hactions]
    refine ⟨fun action haction => ?_, fun hsource => by rw [hnone hsource]; rfl⟩
    rw [Option.mem_toList] at haction ⊢
    exact hmade action haction

/-- A low battery is warned of while the temperature is not available, and the poll is completed and
told to a callback. -/
theorem fresh_run_insulated_low :
    let lamp : Callback := .named "lamp"
    let progress := Section.pollOnce Tick.low.behaviour
      (Tick.low.readings.failing .current (.unavailable (.noZone .skin)))
      ((fresh .zero [lamp]).run []).engine
    .raise ∈ actionsOn .battery (displayChanges progress.effects) ∧
      ∃ report, progress.outcome = .ok report.state ∧
        callbackRuns progress.effects = [(lamp, report)] := by
  intro lamp progress
  obtain ⟨report, _, ⟨-, houtcome, -, -, hruns⟩, -, hagree, -⟩ :=
    @fresh_run_insulated .zero [lamp] [] Tick.low .current (.unavailable (.noZone .skin))
      (by simp) Tick.low_isSound Tick.low_isContained rfl
  have hcontained : ∀ callback ∈ ((fresh .zero [lamp]).run []).engine.callbacks,
      (Tick.low.behaviour callback report).escape = none := fun _ _ => rfl
  refine ⟨?_, report, ?_, ?_⟩
  · rw [(hagree .battery (by decide)).2]
    decide +kernel
  · rw [CallbackBehaviour.roundOutcome_eq_ok.2 hcontained] at houtcome
    exact houtcome
  · rw [CallbackBehaviour.called_of_contained hcontained] at hruns
    exact hruns

/-- It is not so that a poll of sound sources is completed whichever of them fails, and however: a
temperature source that crashes ends it. -/
theorem not_insulated_crash :
    ¬∀ (clock : Binary64) (callbacks : List Callback) (ticks : List Tick) (t : Tick)
        (source : Source) (fault : Fault),
      (∀ u ∈ ticks, u.readings.IsSound) → t.readings.IsSound → t.readings.IsContained →
        ∃ state, (Section.pollOnce t.behaviour (t.readings.failing source fault)
          ((fresh clock callbacks).run ticks).engine).outcome = .ok state := by
  intro h
  obtain ⟨state, hcompleted⟩ :=
    h .zero [] [] Tick.low .current (.crash "boom") (by simp) Tick.low_isSound Tick.low_isContained
  have hfailed : (Section.pollOnce Tick.low.behaviour
      (Tick.low.readings.failing .current (.crash "boom"))
      ((fresh .zero []).run []).engine).outcome = .error (.crash "boom") := by
    decide +kernel
  rw [hfailed] at hcompleted
  cases hcompleted

end Engine

end DeviceWarnings
