import DeviceWarnings.Proofs.Dismissal
import DeviceWarnings.Proofs.Reports

/-!
# What is left of a recovery

A bucket recovers at one reading only, the one with which it comes up out of warning; the hybrid
estimate is recovered at every reading above its threshold. A dismissal needs both at once. So a low
battery warning remembers more than the signals of the present reading: it is shown exactly if some
poll has raised it and no poll since has released it. One poll keeps this, since a hidden warning
is only raised and a shown one only released. At a reading from which every signal has recovered
nothing is raised, and only the edge of the bucket can still release.
-/

namespace DeviceWarnings

/-- Where a list with one more item is split, either this item is the one in the middle, or the
list was split there before. -/
theorem concat_eq_append_cons_iff {α : Type} {xs before after : List α} {last x : α} :
    xs ++ [last] = before ++ x :: after ↔
      (before = xs ∧ x = last ∧ after = []) ∨
        ∃ rest, after = rest ++ [last] ∧ xs = before ++ x :: rest := by
  constructor
  · intro h
    rcases List.eq_nil_or_concat after with rfl | ⟨rest, y, rfl⟩
    · obtain ⟨hbefore, hlast⟩ := List.append_inj' h rfl
      exact .inl ⟨hbefore.symm, (List.singleton_inj.1 hlast).symm, rfl⟩
    · have hsplit : xs ++ [last] = (before ++ x :: rest) ++ [y] := by simpa using h
      obtain ⟨hxs, hlast⟩ := List.append_inj' hsplit rfl
      obtain rfl := List.singleton_inj.1 hlast
      exact .inr ⟨rest, List.concat_eq_append, hxs⟩
  · rintro (⟨rfl, rfl, rfl⟩ | ⟨rest, rfl, rfl⟩)
    · rfl
    · simp

/-! ## One reading -/

/-- Whether no signal of an unplugged device calls for a warning that nothing suppresses: its bucket
is out of warning, its standard estimate is not below the threshold, and its hybrid estimate, if
enabled, is above. -/
structure BatteryThresholds.IsRecovered (thresholds : BatteryThresholds) (power : PowerState)
    (hybrid : HybridEstimate) : Prop where
  plugged : power.plugged.truth = false
  powerSaver : power.powerSaver.truth = false
  status : power.status.isTrustworthy = true
  bucket : Comparison.greater.holds power.bucket thresholds.warningBucket = .ok true
  standard : timeBelow power.timeRemaining thresholds.standardTime = .ok false
  hybrid : hybrid.enabled.truth = true →
    timeRecovered hybrid.timeRemaining thresholds.hybridTime = .ok true

/-- Whether a reading releases a shown warning: the device is plugged in or saves power, or its
bucket comes up out of warning while the hybrid estimate, if enabled, is above its threshold. -/
def BatteryThresholds.Releases (thresholds : BatteryThresholds) (previous : PreviousPower)
    (power : PowerState) (hybrid : HybridEstimate) : Prop :=
  power.plugged.truth = true ∨ power.powerSaver.truth = true ∨
    leavesWarning previous.bucket power.bucket thresholds.warningBucket = .ok true ∧
      (hybrid.enabled.truth = true →
        timeRecovered hybrid.timeRemaining thresholds.hybridTime = .ok true)

namespace BatteryThresholds

variable {thresholds : BatteryThresholds} {previous : PreviousPower} {power : PowerState}
  {hybrid : HybridEstimate}

/-- A shown warning is to be dismissed exactly if the reading releases it. -/
theorem shouldDismiss_iff :
    thresholds.shouldDismiss previous power hybrid = .ok true ↔
      thresholds.Releases previous power hybrid := by
  rw [shouldDismiss, Releases]
  by_cases hpower : power.plugged.truth = true ∨ power.powerSaver.truth = true
  · rw [if_pos hpower, ← or_assoc]
    exact iff_of_true rfl (.inl hpower)
  · rw [if_neg hpower, ← or_assoc, or_iff_right hpower, bind_eq_ok]
    constructor
    · rintro ⟨leaves, hleaves, h⟩
      cases leaves with
      | false => cases h
      | true =>
        refine ⟨hleaves, fun henabled => ?_⟩
        rw [if_pos rfl, if_pos henabled] at h
        exact h
    · rintro ⟨hleaves, hhybrid⟩
      refine ⟨true, hleaves, ?_⟩
      rw [if_pos rfl]
      split
      · exact hhybrid ‹_›
      · rfl

/-- A reading from which every signal has recovered does not raise the warning. -/
theorem IsRecovered.not_raises (h : thresholds.IsRecovered power hybrid) :
    thresholds.shouldRaise previous power hybrid ≠ .ok true := by
  intro hraises
  rw [shouldRaise_eq_ok, if_neg (by simp [h.plugged, h.powerSaver, h.status])] at hraises
  obtain ⟨standard, verdict, hstandard, hverdict, htrue⟩ := hraises
  have hcalm := timeBelow_of_standardSignal h.bucket hstandard
  obtain rfl : false = standard := Except.ok.inj (h.standard.symm.trans hcalm)
  obtain ⟨made, hmade, hfalse⟩ := hybridSignal_of_recovered h.hybrid
  obtain rfl : made = verdict := Except.ok.inj (hmade.symm.trans hverdict)
  rw [hfalse] at htrue
  cases htrue

/-- A reading from which every signal has recovered releases the warning exactly if the carried
bucket was in warning. -/
theorem IsRecovered.releases_iff (h : thresholds.IsRecovered power hybrid) :
    thresholds.Releases previous power hybrid ↔
      Comparison.atMost.holds previous.bucket thresholds.warningBucket = .ok true := by
  have hleaves : leavesWarning previous.bucket power.bucket thresholds.warningBucket = .ok true ↔
      Comparison.atMost.holds previous.bucket thresholds.warningBucket = .ok true := by
    rw [leavesWarning, bind_eq_ok]
    constructor
    · rintro ⟨inWarning, hold, hnew⟩
      cases inWarning with
      | false => cases hnew
      | true => exact hold
    · intro hold
      exact ⟨true, hold, h.bucket⟩
  simp only [Releases, h.plugged, h.powerSaver, Bool.false_eq_true, false_or, hleaves]
  exact and_iff_left h.hybrid

end BatteryThresholds

/-- Bucket 1 and 20000 seconds left according to the hybrid estimate are a recovery under the
default thresholds. -/
theorem isRecovered_of_plenty :
    ({} : BatteryThresholds).IsRecovered {} ⟨.flag true, Binary64.ofInt 20000⟩ := by
  constructor <;> decide +kernel

/-! ## One poll -/

namespace Tick

variable {thresholds : BatteryThresholds} {t : Tick} {e : Engine}

/-- Whether the low battery rules of a tick go by given thresholds. -/
def GoesBy (thresholds : BatteryThresholds) (t : Tick) : Prop :=
  ∀ settings, Section.settingsFrom t.readings.thermal.settings = .ok settings →
    BatteryThresholds.ofSettings settings = thresholds

/-- Whether the poll of a tick raises the low battery warning and is completed. -/
def Raises (t : Tick) (e : Engine) : Prop :=
  (.battery, .raise) ∈ displayChanges (Section.pollOnce t.behaviour t.readings e).effects ∧
    ∃ report, (Section.poll t.readings e).outcome = .ok report

/-- Whether the poll of a tick decides on a reading that releases the low battery warning. -/
def Releases (thresholds : BatteryThresholds) (t : Tick) (e : Engine) : Prop :=
  ∃ power hybrid, t.readings.decidedOn e = some power ∧
    t.readings.power.hybrid.estimate = .ok hybrid ∧
      thresholds.Releases e.state.previous power hybrid

theorem raises_iff : t.Raises e ↔ Section.pollAction t.readings e .battery = some .raise := by
  rw [Raises, (Section.pollOnce_changes _ _ _).2, Section.mem_displayChanges_poll]
  constructor
  · rintro ⟨hshown, report, hreport⟩
    exact (Section.pollShown_of_ok hreport .battery).symm.trans hshown
  · intro haction
    refine ⟨Section.pollShown_of_pollAction haction, ?_⟩
    cases hpoll : (Section.poll t.readings e).outcome with
    | ok report => exact ⟨report, rfl⟩
    | error fault =>
      obtain ⟨other, hother⟩ := Section.batteryOutcome_of_error hpoll
      rw [Section.pollAction, hother] at haction
      cases haction

/-- A tick with default settings that reads a bucket and a hybrid estimate in seconds, but no
temperature. -/
def ofBucket (bucket seconds : Int) : Tick where
  readings :=
    { thermal := ⟨.zero, .ok {}, .ok .null, .ok .null⟩
      power := ⟨.zero, .ok (some { bucket := .number (.integer bucket) }),
        ⟨.ok true, .ok (Binary64.ofInt seconds)⟩⟩ }

theorem goesBy_of_mem_ofBucket (readings : List (Int × Int)) :
    ∀ t ∈ readings.map fun (bucket, seconds) => ofBucket bucket seconds, t.GoesBy {} := by
  intro t ht settings hsettings
  obtain ⟨reading, -, rfl⟩ := List.mem_map.1 ht
  obtain rfl := Except.ok.inj hsettings
  rfl

/-- What a decision on a power state rests on. -/
theorem evaluate_of_batteryOutcome (ht : t.GoesBy thresholds) {power : PowerState}
    {decision : BatteryDecision}
    (h : Section.batteryOutcome t.readings e = .ok (some (power, decision))) :
    ∃ hybrid, t.readings.power.hybrid.estimate = .ok hybrid ∧
      thresholds.evaluate e.state.previous power hybrid e.state.batteryWarning = .ok decision := by
  obtain ⟨settings, thermal, hfirst, -, hdecision, -⟩ := Section.batteryOutcome_eq_some.1 h
  obtain ⟨hybrid, hestimate, hevaluate⟩ := bind_eq_ok.1 hdecision
  rw [ht settings (Section.settings_of_pollFirst hfirst)] at hevaluate
  exact ⟨hybrid, hestimate, hevaluate⟩

/-- A tick that decides on a power state decides by its estimate. -/
theorem evaluate_of_decidedOn (ht : t.GoesBy thresholds) {power : PowerState}
    {hybrid : HybridEstimate} (hdecided : t.readings.decidedOn e = some power)
    (hestimate : t.readings.power.hybrid.estimate = .ok hybrid) :
    ∃ decision, Section.batteryOutcome t.readings e = .ok (some (power, decision)) ∧
      thresholds.evaluate e.state.previous power hybrid e.state.batteryWarning = .ok decision := by
  obtain ⟨decision, houtcome⟩ := Section.decidedOn_eq_some.1 hdecided
  obtain ⟨read, hread, hevaluate⟩ := evaluate_of_batteryOutcome ht houtcome
  obtain rfl : hybrid = read := Except.ok.inj (hestimate.symm.trans hread)
  exact ⟨decision, houtcome, hevaluate⟩

/-- A shown warning is dismissed exactly by a tick that releases it. -/
theorem dismisses_iff (ht : t.GoesBy thresholds) (hshown : e.state.batteryWarning = .shown) :
    Section.pollAction t.readings e .battery = some .dismiss ↔ t.Releases thresholds e := by
  change Section.batteryAction (Section.batteryOutcome t.readings e) = _ ↔ _
  rw [Section.batteryAction_eq_some]
  constructor
  · rintro ⟨power, decision, houtcome, haction⟩
    obtain ⟨hybrid, hestimate, hevaluate⟩ := evaluate_of_batteryOutcome ht houtcome
    rw [hshown] at hevaluate
    obtain ⟨-, dismisses, hdismisses, hmade⟩ := BatteryThresholds.evaluate_cases hevaluate
    obtain ⟨rfl, -⟩ := WarningAction.eq_of_rule hmade haction
    exact ⟨power, hybrid, Section.decidedOn_eq_some.2 ⟨decision, houtcome⟩, hestimate,
      BatteryThresholds.shouldDismiss_iff.1 hdismisses⟩
  · rintro ⟨power, hybrid, hdecided, hestimate, hreleases⟩
    obtain ⟨decision, houtcome, hevaluate⟩ := evaluate_of_decidedOn ht hdecided hestimate
    refine ⟨power, decision, houtcome, ?_⟩
    rw [hshown] at hevaluate
    obtain ⟨-, dismisses, hdismisses, hmade⟩ := BatteryThresholds.evaluate_cases hevaluate
    obtain rfl : true = dismisses := Except.ok.inj
      ((BatteryThresholds.shouldDismiss_iff.2 hreleases).symm.trans hdismisses)
    exact hmade

/-- After a tick the warning is shown exactly if the tick has raised it, or if it was shown before
and the tick has not released it. -/
theorem shown_after_iff (ht : t.GoesBy thresholds) :
    (Section.pollOnce t.behaviour t.readings e).engine.state.batteryWarning = .shown ↔
      t.Raises e ∨ e.state.batteryWarning = .shown ∧ ¬t.Releases thresholds e := by
  have hafter : (Section.pollOnce t.behaviour t.readings e).engine.state.batteryWarning =
      e.state.batteryWarning.afterAction (Section.pollAction t.readings e .battery) := by
    rw [(Section.pollOnce_changes _ _ _).1]
    exact Section.poll_warning t.readings e .battery
  have hbefore (action : WarningAction)
      (h : Section.pollAction t.readings e .battery = some action) :
      e.state.batteryWarning = .before action :=
    Section.state_of_pollShown (Section.pollShown_of_pollAction h)
  rw [hafter, raises_iff]
  cases hstate : e.state.batteryWarning with
  | hidden =>
    cases haction : Section.pollAction t.readings e .battery with
    | none => simp [WarningState.afterAction]
    | some action => cases action <;> simp [WarningState.afterAction, WarningState.after]
  | shown =>
    rw [← dismisses_iff ht hstate]
    cases haction : Section.pollAction t.readings e .battery with
    | none => simp [WarningState.afterAction]
    | some action => cases action <;> simp [WarningState.afterAction, WarningState.after]

/-- A tick that decides on a reading from which every signal has recovered does not raise the
warning. -/
theorem not_raises_of_isRecovered (ht : t.GoesBy thresholds) {power : PowerState}
    {hybrid : HybridEstimate} (hdecided : t.readings.decidedOn e = some power)
    (hestimate : t.readings.power.hybrid.estimate = .ok hybrid)
    (hrecovered : thresholds.IsRecovered power hybrid) : ¬t.Raises e := by
  intro hraises
  have haction := raises_iff.1 hraises
  have hhidden : e.state.batteryWarning = .hidden :=
    Section.state_of_pollShown (Section.pollShown_of_pollAction haction)
  obtain ⟨decision, houtcome, hevaluate⟩ := evaluate_of_decidedOn ht hdecided hestimate
  have hmade : decision.action = some .raise := by
    change Section.batteryAction (Section.batteryOutcome t.readings e) = _ at haction
    rw [houtcome] at haction
    exact haction
  rw [hhidden] at hevaluate
  have hraise := BatteryThresholds.evaluate_raises_iff.1 ⟨decision, hevaluate, hmade⟩
  exact hrecovered.not_raises hraise.1

end Tick

/-! ## Runs -/

namespace Engine

variable {e : Engine} {thresholds : BatteryThresholds} {ticks : List Tick} {t : Tick}

/-- Whether some tick of a run has raised the low battery warning, with a completed poll, and none
after it has released it. -/
def Unreleased (e : Engine) (thresholds : BatteryThresholds) (ticks : List Tick) : Prop :=
  ∃ before t after, ticks = before ++ t :: after ∧ t.Raises (e.run before).engine ∧
    ∀ middle u rest, after = middle ++ u :: rest →
      ¬u.Releases thresholds (e.run (before ++ t :: middle)).engine

theorem not_unreleased_nil : ¬e.Unreleased thresholds [] := by
  rintro ⟨before, t, after, hticks, -⟩
  simp at hticks

/-- After one more tick the warning is unreleased if this tick raises it, or if it was unreleased
and this tick does not release it. -/
theorem unreleased_concat :
    e.Unreleased thresholds (ticks ++ [t]) ↔
      t.Raises (e.run ticks).engine ∨
        e.Unreleased thresholds ticks ∧ ¬t.Releases thresholds (e.run ticks).engine := by
  constructor
  · rintro ⟨before, raised, after, hticks, hraises, hnone⟩
    rcases concat_eq_append_cons_iff.1 hticks with ⟨rfl, rfl, -⟩ | ⟨between, rfl, rfl⟩
    · exact .inl hraises
    · refine .inr ⟨⟨before, raised, between, rfl, hraises, ?_⟩, hnone between t [] rfl⟩
      rintro middle u rest rfl
      exact hnone middle u (rest ++ [t]) (by simp)
  · rintro (hraises | ⟨⟨before, raised, between, rfl, hraises, hnone⟩, hkept⟩)
    · exact ⟨ticks, t, [], rfl, hraises, fun middle u rest hnil => by simp at hnil⟩
    · refine ⟨before, raised, between ++ [t], by simp, hraises, ?_⟩
      intro middle u rest hbetween
      rcases concat_eq_append_cons_iff.1 hbetween with ⟨rfl, rfl, -⟩ | ⟨rest, -, rfl⟩
      · exact hkept
      · exact hnone middle u rest rfl

variable (clock : Binary64) (callbacks : List Callback)

/-- In a run of a new engine the warning is shown exactly while it is unreleased. -/
theorem fresh_run_shown_iff_unreleased (hticks : ∀ u ∈ ticks, u.GoesBy thresholds) :
    ((fresh clock callbacks).run ticks).engine.state.batteryWarning = .shown ↔
      (fresh clock callbacks).Unreleased thresholds ticks := by
  induction ticks using List.reverseRecOn with
  | nil => exact iff_of_false (fun h => nomatch h) not_unreleased_nil
  | append_singleton before t ih =>
    rw [unreleased_concat, ← ih fun u hu => hticks u (List.mem_append_left _ hu), run_concat]
    exact Tick.shown_after_iff (hticks t (by simp))

/-- With fixed thresholds, after every poll that decides on a reading from which every signal has
recovered, the low battery warning is hidden exactly if the bucket has come up out of warning with
this very reading, or if every completed poll that had raised the warning was followed by one that
has released it. -/
theorem fresh_run_recovered (hticks : ∀ u ∈ ticks ++ [t], u.GoesBy thresholds)
    {power : PowerState} {hybrid : HybridEstimate}
    (hdecided : t.readings.decidedOn ((fresh clock callbacks).run ticks).engine = some power)
    (hestimate : t.readings.power.hybrid.estimate = .ok hybrid)
    (hrecovered : thresholds.IsRecovered power hybrid) :
    ((fresh clock callbacks).run (ticks ++ [t])).engine.state.batteryWarning = .hidden ↔
      Comparison.atMost.holds ((fresh clock callbacks).run ticks).engine.state.previous.bucket
          thresholds.warningBucket = .ok true ∨
        ¬(fresh clock callbacks).Unreleased thresholds ticks := by
  have ht : t.GoesBy thresholds := hticks t (by simp)
  have hraises : ¬t.Raises ((fresh clock callbacks).run ticks).engine :=
    Tick.not_raises_of_isRecovered ht hdecided hestimate hrecovered
  have hreleases : t.Releases thresholds ((fresh clock callbacks).run ticks).engine ↔
      Comparison.atMost.holds ((fresh clock callbacks).run ticks).engine.state.previous.bucket
        thresholds.warningBucket = .ok true := by
    rw [← hrecovered.releases_iff]
    constructor
    · rintro ⟨read, estimate, hread, hanswer, h⟩
      obtain rfl : power = read := Option.some.inj (hdecided.symm.trans hread)
      obtain rfl : hybrid = estimate := Except.ok.inj (hestimate.symm.trans hanswer)
      exact h
    · intro h
      exact ⟨power, hybrid, hdecided, hestimate, h⟩
  have hshown := fresh_run_shown_iff_unreleased clock callbacks hticks
  rw [unreleased_concat, or_iff_right hraises, hreleases] at hshown
  have hhidden (state : WarningState) : state = .hidden ↔ ¬state = .shown := by
    cases state <;> simp
  rw [hhidden, hshown, not_and_or, not_not, or_comm]

/-- A warning that outlasted the first recovery of the bucket, because the hybrid estimate was still
low, is gone when the bucket has fallen and recovered again. -/
theorem fresh_run_recovered_again :
    let ticks : List Tick := [.ofBucket (-1) 100, .ofBucket 1 100, .ofBucket (-1) 100]
    ((fresh .zero []).run (ticks ++ [.ofBucket 1 20000])).engine.state.batteryWarning =
      .hidden := by
  intro ticks
  refine (@fresh_run_recovered {} ticks (.ofBucket 1 20000) .zero [] ?_ {}
    ⟨.flag true, Binary64.ofInt 20000⟩ ?_ ?_ ?_).2 (.inl ?_)
  · exact Tick.goesBy_of_mem_ofBucket [(-1, 100), (1, 100), (-1, 100), (1, 20000)]
  · decide +kernel
  · decide +kernel
  · exact isRecovered_of_plenty
  · decide +kernel

/-- It is not so that the warning is hidden after every poll with a reading from which every signal
has recovered: here the bucket recovers first, and the hybrid estimate one poll later. -/
theorem not_hidden_of_isRecovered :
    ¬∀ (clock : Binary64) (callbacks : List Callback) (ticks : List Tick) (t : Tick)
      (threshold standardTime hybridTime : Number) (power : PowerState) (hybrid : HybridEstimate),
      let thresholds : BatteryThresholds := ⟨threshold, standardTime, hybridTime⟩
      threshold < 1 → 0 ≤ standardTime → 0 ≤ hybridTime →
      (∀ u ∈ ticks ++ [t], u.GoesBy thresholds) →
      t.readings.decidedOn ((fresh clock callbacks).run ticks).engine = some power →
      t.readings.power.hybrid.estimate = .ok hybrid → thresholds.IsRecovered power hybrid →
        ((fresh clock callbacks).run (ticks ++ [t])).engine.state.batteryWarning = .hidden := by
  intro h
  have hhidden := h .zero [] [.ofBucket (-1) 100, .ofBucket 1 100] (.ofBucket 1 20000)
    (.integer (-1)) (Binary64.ofInt 10800) (Binary64.ofInt 10800) {}
    ⟨.flag true, Binary64.ofInt 20000⟩ (by decide +kernel) (by decide +kernel) (by decide +kernel)
    ?_ (by decide +kernel) (by decide +kernel) isRecovered_of_plenty
  · revert hhidden
    decide +kernel
  · exact Tick.goesBy_of_mem_ofBucket [(-1, 100), (1, 100), (1, 20000)]

end Engine

end DeviceWarnings
