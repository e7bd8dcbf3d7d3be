import DeviceWarnings.Proofs.Order
import DeviceWarnings.Proofs.Run
import Mathlib.Data.List.DropRight

/-!
# No low battery is missed

The bucket and the plug are signals of an edge: they call for a warning in one poll only, the one
in which the device gets low. Nevertheless the warning is shown as long as the device stays low,
however long that is and however many power readings fail in between, unless a reading of this
very stretch suppressed warnings. For the edge is taken from the last power reading on which
was decided, which is either low itself, and then the warning is there already, or is followed by
an edge. A low reading never dismisses the warning, since it has not come up out of warning.
-/

namespace DeviceWarnings

/-- Whether a power reading left the device unplugged and in warning. -/
def PreviousPower.isLow (threshold : Number) (previous : PreviousPower) : Bool :=
  !previous.plugged.truth && Comparison.atMost.holds previous.bucket threshold = .ok true

namespace PowerState

/-- Whether the device is unplugged and in warning. -/
def isLow (threshold : Number) (power : PowerState) : Bool := power.left.isLow threshold

/-- Whether an unplugged device keeps warnings from being raised. -/
def isMuffled (power : PowerState) : Bool :=
  power.powerSaver.truth || !power.status.isTrustworthy

end PowerState

theorem PreviousPower.isLow_iff {threshold : Number} {previous : PreviousPower} :
    previous.isLow threshold = true ↔ previous.plugged.truth = false ∧
      Comparison.atMost.holds previous.bucket threshold = .ok true := by
  simp [isLow]

namespace BatteryThresholds

variable {thresholds : BatteryThresholds} {threshold : Number} {previous : PreviousPower}
  {power : PowerState} {hybrid : HybridEstimate} {state : WarningState}
  {decision : BatteryDecision}

/-- A reading in warning does not come up out of it. -/
theorem leavesWarning_of_low {old new limit : Value} {leaves : Bool}
    (hlow : Comparison.atMost.holds new limit = .ok true)
    (h : leavesWarning old new limit = .ok leaves) : leaves = false := by
  obtain ⟨inWarning, -, hleaves⟩ := bind_eq_ok.1 h
  cases inWarning with
  | false => exact (Except.ok.inj hleaves).symm
  | true =>
    cases leaves with
    | false => rfl
    | true =>
      have hnever := Comparison.holds_atMost_of_greater _ _ hleaves
      rw [hlow] at hnever
      cases hnever

/-- A low reading does not dismiss the warning, unless power is saved. -/
theorem shouldDismiss_of_low (hbucket : thresholds.warningBucket = threshold)
    (hlow : power.isLow threshold = true) (hsaver : power.powerSaver.truth = false)
    {dismisses : Bool} (h : thresholds.shouldDismiss previous power hybrid = .ok dismisses) :
    dismisses = false := by
  obtain ⟨hplug, hin⟩ := PreviousPower.isLow_iff.1 hlow
  change power.plugged.truth = false at hplug
  rw [shouldDismiss, if_neg (by simp [hplug, hsaver])] at h
  obtain ⟨leaves, hleaves, hnext⟩ := bind_eq_ok.1 h
  rw [hbucket] at hleaves
  obtain rfl := leavesWarning_of_low hin hleaves
  exact (Except.ok.inj hnext).symm

/-- A device that was not low before and is low now gives the signal for a warning, by its bucket
or by its plug. -/
theorem standardSignal_of_edge (hbucket : thresholds.warningBucket = threshold)
    (hnan : threshold.isNaN = false) (hold : previous.bucket ≠ Binary64.nan)
    (hbefore : previous.isLow threshold = false) (hlow : power.isLow threshold = true)
    {signal : Bool} (h : thresholds.standardSignal previous power = .ok signal) :
    signal = true := by
  obtain ⟨-, hin⟩ := PreviousPower.isLow_iff.1 hlow
  change Comparison.atMost.holds power.bucket threshold = .ok true at hin
  rw [standardSignal, hbucket] at h
  obtain ⟨inWarning, hinWarning, h⟩ := bind_eq_ok.1 h
  obtain rfl : true = inWarning := Except.ok.inj (hin.symm.trans hinWarning)
  obtain ⟨enters, henters, h⟩ := bind_eq_ok.1 h
  cases enters with
  | true => exact (Except.ok.inj h).symm
  | false =>
    obtain ⟨above, habove, hfell⟩ := bind_eq_ok.1 henters
    cases above with
    | true =>
      rw [if_pos rfl, hin] at hfell
      cases hfell
    | false =>
      -- The bucket was in warning before, so it is the plug that makes the edge.
      have hwas := Comparison.holds_atMost_of_not_greater hold hnan habove
      have hplug : previous.plugged.truth = true := by
        by_contra hplug
        have hprevious : previous.isLow threshold = true :=
          PreviousPower.isLow_iff.2 ⟨by simpa using hplug, hwas⟩
        rw [hprevious] at hbefore
        cases hbefore
      rw [hplug] at h
      exact (Except.ok.inj h).symm

/-- At an edge the warning is raised, unless the reading is muffled. -/
theorem shouldRaise_of_edge (hbucket : thresholds.warningBucket = threshold)
    (hnan : threshold.isNaN = false) (hold : previous.bucket ≠ Binary64.nan)
    (hbefore : previous.isLow threshold = false) (hlow : power.isLow threshold = true)
    (hheard : power.isMuffled = false) {raises : Bool}
    (h : thresholds.shouldRaise previous power hybrid = .ok raises) : raises = true := by
  obtain ⟨hplug, -⟩ := PreviousPower.isLow_iff.1 hlow
  change power.plugged.truth = false at hplug
  obtain ⟨hsaver, htrust⟩ : power.powerSaver.truth = false ∧ power.status.isTrustworthy = true := by
    simpa [PowerState.isMuffled] using hheard
  rw [shouldRaise_eq_ok, if_neg (by simp [hplug, hsaver, htrust])] at h
  obtain ⟨standard, verdict, hstandard, -, rfl⟩ := h
  rw [standardSignal_of_edge hbucket hnan hold hbefore hlow hstandard, Bool.true_or]

/-- After a decision on a low reading that is not muffled the warning is shown, if it was shown
before or the device was not low before. -/
theorem evaluate_of_low (hbucket : thresholds.warningBucket = threshold)
    (hnan : threshold.isNaN = false) (hold : previous.bucket ≠ Binary64.nan)
    (hbefore : state = .shown ∨ previous.isLow threshold = false)
    (hlow : power.isLow threshold = true) (hheard : power.isMuffled = false)
    (h : thresholds.evaluate previous power hybrid state = .ok decision) :
    state.afterAction decision.action = .shown := by
  obtain ⟨-, hmade⟩ := evaluate_cases h
  cases state with
  | hidden =>
    obtain ⟨raises, hraises, haction⟩ := hmade
    have hbefore : previous.isLow threshold = false := by simpa using hbefore
    obtain rfl := shouldRaise_of_edge hbucket hnan hold hbefore hlow hheard hraises
    rw [haction]
    rfl
  | shown =>
    obtain ⟨dismisses, hdismisses, haction⟩ := hmade
    have hsaver : power.powerSaver.truth = false := by
      simp only [PowerState.isMuffled, Bool.or_eq_false_iff] at hheard
      exact hheard.1
    obtain rfl := shouldDismiss_of_low hbucket hlow hsaver hdismisses
    rw [haction]
    rfl

/-- After a decision on a reading that is plugged in or saves power the warning is hidden. -/
theorem evaluate_of_supplied (hpower : power.plugged.truth = true ∨ power.powerSaver.truth = true)
    (h : thresholds.evaluate previous power hybrid state = .ok decision) :
    state.afterAction decision.action = .hidden := by
  obtain ⟨-, hmade⟩ := evaluate_cases h
  cases state with
  | hidden =>
    obtain ⟨raises, hraises, haction⟩ := hmade
    rw [shouldRaise_eq_ok, if_pos (by tauto)] at hraises
    rw [haction, hraises]
    rfl
  | shown =>
    obtain ⟨dismisses, hdismisses, haction⟩ := hmade
    rw [shouldDismiss, if_pos hpower] at hdismisses
    obtain rfl := Except.ok.inj hdismisses
    rw [haction]
    rfl

end BatteryThresholds

/-- What holds between the power states decided on and the carried state: the last of them is what
is carried, it was not plugged in and saved no power if the warning is shown, and if it was low
then the warning is shown or was muffled in this stretch of low readings. -/
structure PollState.Guards (threshold : Number) (powers : List PowerState) (s : PollState) :
    Prop where
  previous : s.previous = powers.getLast?.elim {} PowerState.left
  bucket_ne_nan : s.previous.bucket ≠ Binary64.nan
  supplied : ∀ power ∈ powers.getLast?,
    power.plugged.truth = true ∨ power.powerSaver.truth = true → s.batteryWarning = .hidden
  low : s.previous.isLow threshold = true → s.batteryWarning = .shown ∨
    ∃ power ∈ powers.rtakeWhile (PowerState.isLow threshold), power.isMuffled = true

namespace PollState

variable {threshold : Number} {powers : List PowerState} {s : PollState}

/-- The bucket that a new engine starts from is above every threshold below 1. -/
theorem guards_initial (hthreshold : threshold < 1) : Guards threshold [] {} where
  previous := rfl
  bucket_ne_nan := by decide
  supplied := by simp
  low hlow := by
    obtain ⟨-, hin⟩ := PreviousPower.isLow_iff.1 hlow
    have hle : (1 : Number) ≤ threshold := by
      change Comparison.atMost.holds (Value.number 1) threshold = .ok true at hin
      rw [Comparison.holds_number] at hin
      exact of_decide_eq_true (Except.ok.inj hin)
    exact absurd hle (Number.not_le_of_lt hthreshold)

/-- A change of the overheating warning does not matter. -/
theorem Guards.change_thermal (h : Guards threshold powers s) (action : Option WarningAction) :
    Guards threshold powers (s.change .thermal action) :=
  ⟨h.previous, h.bucket_ne_nan, h.supplied, h.low⟩

/-- A decision on a power state keeps what holds, with this power state as the last one. -/
theorem Guards.afterPower (h : Guards threshold powers s) (hnan : threshold.isNaN = false)
    {settings : WarningSettings} (hbucket : settings.warningBucketThreshold = threshold)
    {hybrid : HybridReadings} {power : PowerState} (hpower : power.bucket ≠ Binary64.nan)
    {decision : BatteryDecision}
    (hdecision : Section.batteryDecision settings hybrid power s = .ok decision) :
    Guards threshold (powers ++ [power]) (Section.afterPower s power decision) := by
  obtain ⟨estimate, -, hevaluate⟩ := bind_eq_ok.1 hdecision
  refine ⟨by rw [List.getLast?_concat]; rfl, hpower, ?_, ?_⟩
  · intro last hlast hsupplied
    obtain rfl : power = last := by simpa using hlast
    exact BatteryThresholds.evaluate_of_supplied hsupplied hevaluate
  · intro hlow
    change power.isLow threshold = true at hlow
    rw [List.rtakeWhile_concat_pos _ _ _ hlow]
    by_cases hmuffled : power.isMuffled = true
    · exact .inr ⟨power, by simp, hmuffled⟩
    · have hheard : power.isMuffled = false := by simpa using hmuffled
      have hshown (hbefore : s.batteryWarning = .shown ∨ s.previous.isLow threshold = false) :
          (Section.afterPower s power decision).batteryWarning = .shown :=
        BatteryThresholds.evaluate_of_low hbucket hnan h.bucket_ne_nan hbefore hlow hheard
          hevaluate
      by_cases hbefore : s.previous.isLow threshold = true
      · rcases h.low hbefore with hwas | ⟨earlier, hearlier, hmuffled⟩
        · exact .inl (hshown (.inl hwas))
        · exact .inr ⟨earlier, List.mem_append_left _ hearlier, hmuffled⟩
      · exact .inl (hshown (.inr (by simpa using hbefore)))

/-- A tick keeps what holds, whether its poll decides on a power state or not. -/
theorem Guards.tick {run : Run} (h : run.engine.state.Guards threshold run.powers)
    (hnan : threshold.isNaN = false) {t : Tick}
    (hsettings : ∀ settings, Section.settingsFrom t.readings.thermal.settings = .ok settings →
      settings.warningBucketThreshold = threshold)
    (hbucket : ∀ power, t.readings.power.power = .ok (some power) → power.bucket ≠ Binary64.nan) :
    (run.tick t).engine.state.Guards threshold (run.tick t).powers := by
  simp only [Run.tick, (Section.pollOnce_changes _ _ _).1]
  rw [(Section.poll_spec t.readings run.engine).1]
  cases hdecided : t.readings.decidedOn run.engine with
  | none =>
    rw [Section.afterBattery_of_none hdecided]
    simpa using h.change_thermal _
  | some power =>
    obtain ⟨decision, hbattery⟩ := Section.decidedOn_eq_some.1 hdecided
    obtain ⟨settings, first, hfirst, hpower, hdecision, -⟩ :=
      Section.batteryOutcome_eq_some.1 hbattery
    rw [hbattery]
    exact (h.change_thermal _).afterPower hnan
      (hsettings settings (Section.settings_of_pollFirst hfirst))
      (hbucket power (Section.powerFrom_eq_some.1 hpower)) hdecision

end PollState

namespace Engine

variable (clock : Binary64) (callbacks : List Callback) {threshold : Number} {ticks : List Tick}

/-- Every run of a new engine guards against a low battery. -/
theorem fresh_run_guards (hthreshold : threshold < 1)
    (hsettings : ∀ t ∈ ticks, ∀ settings,
      Section.settingsFrom t.readings.thermal.settings = .ok settings →
        settings.warningBucketThreshold = threshold)
    (hbuckets : ∀ t ∈ ticks, ∀ power,
      t.readings.power.power = .ok (some power) → power.bucket ≠ Binary64.nan) :
    ((fresh clock callbacks).run ticks).engine.state.Guards threshold
      ((fresh clock callbacks).run ticks).powers := by
  apply run_induction (motive := fun _ run =>
    run.engine.state.Guards threshold run.powers)
  · exact PollState.guards_initial hthreshold
  · intro _ run t ht hguards
    exact hguards.tick (Number.isNaN_of_lt hthreshold).1 (hsettings t ht) (hbuckets t ht)

/-- With a threshold below 1, and buckets that are not NaN, after every poll in which a new engine
has decided on a power state: the low battery warning is hidden if the device was plugged in or
saved power; and it is shown if the device was unplugged and in warning, unless it saved power or
its status was unknown in some reading of the stretch of such readings that has lasted until now. -/
theorem fresh_run_low_battery (hthreshold : threshold < 1)
    (hsettings : ∀ t ∈ ticks, ∀ settings,
      Section.settingsFrom t.readings.thermal.settings = .ok settings →
        settings.warningBucketThreshold = threshold)
    (hbuckets : ∀ t ∈ ticks, ∀ power,
      t.readings.power.power = .ok (some power) → power.bucket ≠ Binary64.nan)
    {power : PowerState} (hlast : power ∈ ((fresh clock callbacks).run ticks).powers.getLast?) :
    (power.plugged.truth = true ∨ power.powerSaver.truth = true →
        ((fresh clock callbacks).run ticks).engine.state.batteryWarning = .hidden) ∧
      (power.isLow threshold = true →
        (∀ earlier ∈ ((fresh clock callbacks).run ticks).powers.rtakeWhile
            (PowerState.isLow threshold), earlier.isMuffled = false) →
        ((fresh clock callbacks).run ticks).engine.state.batteryWarning = .shown) := by
  have hguards := fresh_run_guards clock callbacks hthreshold hsettings hbuckets
  refine ⟨hguards.supplied power hlast, fun hlow hheard => ?_⟩
  have hprevious : ((fresh clock callbacks).run ticks).engine.state.previous = power.left := by
    rw [hguards.previous, hlast]
    rfl
  rcases hguards.low (by rw [hprevious]; exact hlow) with hshown | ⟨earlier, hearlier, hmuffled⟩
  · exact hshown
  · rw [hheard earlier hearlier] at hmuffled
    cases hmuffled

/-- With default settings the warning of an unplugged device is there after the second reading in
bucket -1, which is no edge. -/
theorem fresh_run_low_battery_second :
    let low : PowerState := { bucket := .number (.integer (-1)) }
    ((fresh .zero []).run [.ofPower low, .ofPower low]).engine.state.batteryWarning = .shown := by
  intro low
  have hticks {t : Tick} (ht : t ∈ [Tick.ofPower low, Tick.ofPower low]) : t = .ofPower low := by
    simpa using ht
  refine (@fresh_run_low_battery .zero [] (.integer (-1)) [.ofPower low, .ofPower low]
    (by decide) ?_ ?_ low (by decide +kernel)).2 (by decide +kernel) ?_
  · intro t ht settings hsettings
    obtain rfl := hticks ht
    obtain rfl := Except.ok.inj hsettings
    rfl
  · intro t ht power hpower
    obtain rfl := hticks ht
    obtain rfl := Option.some.inj (Except.ok.inj hpower)
    decide
  · intro earlier hearlier
    have hstretch : ((fresh .zero []).run [.ofPower low, .ofPower low]).powers.rtakeWhile
        (PowerState.isLow (.integer (-1))) = [low, low] := by decide +kernel
    rw [hstretch] at hearlier
    obtain rfl : earlier = low := by simpa using hearlier
    decide

end Engine

end DeviceWarnings
