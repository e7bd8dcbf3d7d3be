import DeviceWarnings.Proofs.LowBattery
import DeviceWarnings.Proofs.Soundness

/-!
# Battery reports end to end

With default thresholds, power states that were read from battery reports, and no hybrid estimate,
the low battery warning has no memory: after every poll it is shown exactly if the last report says
that the device is unplugged at 15 percent or less. The rules work with edges between two readings,
but a state in which the warning is shown exactly if the carried reading is low is kept by every
edge, and a new engine starts in such a state. No reading is lost on the way either, since reports
with a percentage are always decided on.
-/

namespace DeviceWarnings

/-- The power state that a poll reads, if its first half ends and the power source answers. -/
def Readings.powerRead (readings : Readings) (e : Engine) : Option PowerState :=
  match (Section.pollFirst readings.thermal e).outcome,
      Section.powerFrom readings.power.power with
  | .ok _, .ok power => power
  | _, _ => none

/-- The power states that the polls of a run read. -/
def Engine.powersRead (e : Engine) : List Tick → List PowerState
  | [] => []
  | t :: rest =>
    (t.readings.powerRead e).toList ++
      powersRead (Section.pollOnce t.behaviour t.readings e).engine rest

namespace Engine

theorem powersRead_concat (e : Engine) (ticks : List Tick) (t : Tick) :
    e.powersRead (ticks ++ [t]) =
      e.powersRead ticks ++ (t.readings.powerRead (e.run ticks).engine).toList := by
  induction ticks generalizing e with
  | nil => exact List.append_nil _
  | cons u rest ih =>
    have hrest : (e.run (u :: rest)).engine =
        ((Section.pollOnce u.behaviour u.readings e).engine.run rest).engine :=
      foldl_tick_engine (({ engine := e } : Run).tick u) rest
    rw [List.cons_append, powersRead, powersRead, ih, hrest, List.append_assoc]

end Engine

/-! ## Reports -/

/-- The deepest of the default levels that a percentage has reached. -/
theorem deepestLevel?_default (k : Int) :
    deepestLevel? defaultWarningLevels (.number (.integer k)) =
      .ok (if k ≤ 5 then some 1 else if k ≤ 15 then some 0 else none) := by
  have hreached (m : Int) : Comparison.atMost.holds (.number (.integer k)) (.number (.integer m)) =
      .ok (decide (k ≤ m)) :=
    (Comparison.holds_number _ _ _).trans (congrArg Except.ok (Comparison.ofNumbers_integer _ k m))
  have hall : defaultWarningLevels.mapM (Comparison.atMost.holds (.number (.integer k))) =
      .ok [decide (k ≤ 15), decide (k ≤ 5)] := by
    change ([.number (.integer 15), .number (.integer 5)] : List Value).mapM _ = _
    rw [List.mapM_cons, List.mapM_cons, List.mapM_nil, hreached, hreached]
    rfl
  rw [deepestLevel?, hall]
  by_cases hfive : k ≤ 5
  · have hfifteen : k ≤ 15 := by omega
    rw [if_pos hfive, decide_eq_true hfive, decide_eq_true hfifteen]
    rfl
  · rw [if_neg hfive, decide_eq_false hfive]
    by_cases hfifteen : k ≤ 15
    · rw [if_pos hfifteen, decide_eq_true hfifteen]
      rfl
    · rw [if_neg hfifteen, decide_eq_false hfifteen]
      rfl

/-- The bucket of a percentage below the default levels. -/
theorem bucketOf_default (k : Int) :
    ∃ bucket : Int, bucketOf (.number (.integer k)) defaultWarningLevels 20 = .ok bucket ∧
      (bucket ≤ -1 ↔ k ≤ 15) ∧ -2 ≤ bucket ∧ bucket ≤ 1 := by
  have hclose : Comparison.atLeast.holds (.number (.integer k)) 20 = .ok (decide (20 ≤ k)) :=
    (Comparison.holds_number _ _ _).trans (congrArg Except.ok (Comparison.ofNumbers_integer _ k 20))
  have hfirst : Comparison.greater.holds (.number (.integer k)) 15 = .ok (decide (15 < k)) :=
    (Comparison.holds_number _ _ _).trans (congrArg Except.ok (Comparison.ofNumbers_integer _ k 15))
  have hdeepest : deepestLevel? [15, 5] (.number (.integer k)) =
      .ok (if k ≤ 5 then some 1 else if k ≤ 15 then some 0 else none) := deepestLevel?_default k
  rw [defaultWarningLevels, bucketOf, if_neg (by decide), pure_bind]
  dsimp only
  rw [hclose, hfirst, hdeepest]
  by_cases htwenty : 20 ≤ k
  · rw [decide_eq_true htwenty]
    exact ⟨1, rfl, by omega, by omega, by omega⟩
  · rw [decide_eq_false htwenty]
    by_cases habove : 15 < k
    · rw [decide_eq_true habove]
      exact ⟨0, rfl, by omega, by omega, by omega⟩
    · rw [decide_eq_false habove]
      by_cases hfive : k ≤ 5
      · rw [if_pos hfive]
        exact ⟨-2, rfl, by omega, by omega, by omega⟩
      · rw [if_neg hfive, if_pos (by omega)]
        exact ⟨-1, rfl, by omega, by omega, by omega⟩

/-- Whether a power reading has one of the buckets below the default levels, and tells the plug. -/
structure PreviousPower.IsReported (previous : PreviousPower) : Prop where
  bucket : ∃ bucket : Int, previous.bucket = .number (.integer bucket) ∧ -2 ≤ bucket ∧ bucket ≤ 1
  plugged : ∃ plugged, previous.plugged = .flag plugged

/-- Whether a power state is of the kind that a report without power saver describes. -/
structure PowerState.IsReported (power : PowerState) : Prop where
  left : power.left.IsReported
  level_isWritable : power.level.isWritable = true
  powerSaver : power.powerSaver = .flag false
  timeRemaining : power.timeRemaining = Binary64.infinity false

/-- A percentage that is read is the whole part of a number that fits into binary64. -/
theorem percentageOf_eq_ok {reported : Option Value} {percentage : Int}
    (h : percentageOf reported = .ok percentage) :
    ∃ n : Number, reported = some n ∧ n.isNaN = false ∧ n.HasWholePart percentage ∧
      percentage.natAbs < 1 <<< 1025 := by
  unfold percentageOf at h
  split at h
  case h_1 n =>
    split at h
    case h_2 x made hfits htruncate =>
      obtain rfl := Except.ok.inj h
      exact ⟨n, rfl, Number.isNaN_of_truncate? htruncate,
        Number.hasWholePart_of_truncate? htruncate, Number.natAbs_lt_of_truncate? hfits htruncate⟩
    all_goals cases h
  case h_2 => cases h

/-- A report that does not name the plug, or says that it is pulled, counts as unplugged. -/
theorem isPlugged_eq_false {reported : Option Value} :
    isPlugged reported = false ↔ reported = none ∨ reported = some (.text "UNPLUGGED") := by
  unfold isPlugged
  split
  case h_1 => simp
  case h_2 t => simp
  case h_3 v htext =>
    have hother : v ≠ .text "UNPLUGGED" := fun h => htext _ h
    simp [hother]

/-- What a report describes is unplugged and in warning exactly if the report says so and its
percentage, without the fraction, is at most 15. -/
theorem PowerState.ofReport_eq_ok {entries : Mapping} {power : PowerState}
    (h : PowerState.ofReport (.mapping entries) = .ok power) :
    power.IsReported ∧ (power.isLow (.integer (-1)) = true ↔
      (entries.get? "plugged" = none ∨ entries.get? "plugged" = some (.text "UNPLUGGED")) ∧
        ∃ n k, entries.get? "percentage" = some (.number n) ∧ n.HasWholePart k ∧ k ≤ 15) := by
  obtain ⟨status, -, h⟩ := bind_eq_ok.1 h
  obtain ⟨health, -, h⟩ := bind_eq_ok.1 h
  obtain ⟨percentage, hpercentage, h⟩ := bind_eq_ok.1 h
  obtain ⟨first, hlevel, h⟩ := bind_eq_ok.1 h
  obtain rfl : 15 = first := Except.ok.inj hlevel
  obtain ⟨close, hclose, h⟩ := bind_eq_ok.1 h
  obtain rfl : 20 = close := Except.ok.inj hclose
  obtain ⟨found, hfound, h⟩ := bind_eq_ok.1 h
  obtain rfl := Except.ok.inj h
  obtain ⟨bucket, hbucket, hlow, hmin, hmax⟩ := bucketOf_default percentage
  obtain rfl : bucket = found := Except.ok.inj (hbucket.symm.trans hfound)
  obtain ⟨n, hreported, hnumber, hwhole, hsmall⟩ := percentageOf_eq_ok hpercentage
  refine ⟨⟨⟨⟨bucket, rfl, hmin, hmax⟩, ⟨_, rfl⟩⟩, Value.isWritable_integer hsmall, rfl, rfl⟩, ?_⟩
  have hwarns : (Comparison.atMost.holds (.number (.integer bucket)) (.number (.integer (-1))) =
      .ok true) ↔ percentage ≤ 15 := by
    rw [Comparison.holds_number, Comparison.ofNumbers_integer, Except.ok.injEq, decide_eq_true_eq]
    exact hlow
  rw [isLow, PreviousPower.isLow_iff, ← isPlugged_eq_false]
  refine and_congr Iff.rfl (hwarns.trans ⟨fun hle => ⟨n, _, hreported, hwhole, hle⟩, ?_⟩)
  rintro ⟨m, k, hm, hk, hle⟩
  obtain rfl : n = m := Value.number.inj (Option.some.inj (hreported.symm.trans hm))
  exact Int.le_trans (hwhole.mono hk (Number.le_refl hnumber)) hle

/-! ## Decisions on reports -/

theorem PreviousPower.IsReported.isSound {previous : PreviousPower} (h : previous.IsReported) :
    previous.IsSound := by
  obtain ⟨⟨bucket, hbucket, hmin, hmax⟩, plugged, hplugged⟩ := h
  have hsmall : 2 < 1 <<< 1025 := by decide +kernel
  refine ⟨⟨_, hbucket⟩, ?_, ?_⟩
  · rw [hbucket]
    exact Value.isWritable_integer (by omega)
  · rw [hplugged]
    rfl

theorem PowerState.IsReported.isSound {power : PowerState} (h : power.IsReported) :
    power.IsSound where
  left := h.left.isSound
  level_isWritable := h.level_isWritable
  powerSaver_isWritable := by rw [h.powerSaver]; rfl
  timeRemaining := .inr (h.timeRemaining ▸ ⟨_, rfl, _, rfl⟩)

namespace BatteryThresholds

variable {thresholds : BatteryThresholds} {threshold : Number} {previous : PreviousPower}
  {power : PowerState} {hybrid : HybridEstimate} {state : WarningState}
  {decision : BatteryDecision}

/-- A bucket above the threshold makes no edge, so that the standard estimate alone decides. -/
theorem timeBelow_of_standardSignal
    (habove : Comparison.greater.holds power.bucket thresholds.warningBucket = .ok true)
    {signal : Bool} (h : thresholds.standardSignal previous power = .ok signal) :
    timeBelow power.timeRemaining thresholds.standardTime = .ok signal := by
  have hout := Comparison.holds_atMost_of_greater _ _ habove
  obtain ⟨inWarning, hinWarning, h⟩ := bind_eq_ok.1 h
  obtain rfl : false = inWarning := Except.ok.inj (hout.symm.trans hinWarning)
  obtain ⟨enters, henters, h⟩ := bind_eq_ok.1 h
  obtain rfl : enters = false := by
    obtain ⟨above, -, hfell⟩ := bind_eq_ok.1 henters
    cases above with
    | true => exact Except.ok.inj (hfell.symm.trans hout)
    | false => exact (Except.ok.inj hfell).symm
  change (if (previous.plugged.truth && false) = true then _ else _) = _ at h
  rw [Bool.and_false] at h
  exact h

/-- After a decision on a reading above the threshold, for which neither estimate calls, the warning
is hidden, if it was shown for a reading in warning at most. -/
theorem evaluate_of_above (hbucket : thresholds.warningBucket = threshold)
    (habove : Comparison.greater.holds power.bucket threshold = .ok true)
    (hcalm : timeBelow power.timeRemaining thresholds.standardTime = .ok false)
    (hoff : hybrid.enabled = .flag false)
    (hbefore : state = .shown → Comparison.atMost.holds previous.bucket threshold = .ok true)
    (h : thresholds.evaluate previous power hybrid state = .ok decision) :
    state.afterAction decision.action = .hidden := by
  rw [← hbucket] at habove hbefore
  obtain ⟨-, hmade⟩ := evaluate_cases h
  cases state with
  | hidden =>
    obtain ⟨raises, hraises, haction⟩ := hmade
    have hnot : raises = false := by
      rw [shouldRaise_eq_ok] at hraises
      split at hraises
      · exact hraises
      · obtain ⟨standard, verdict, hstandard, hverdict, rfl⟩ := hraises
        have hsilent := timeBelow_of_standardSignal habove hstandard
        obtain rfl : false = standard := Except.ok.inj (hcalm.symm.trans hsilent)
        rw [hybridSignal, hoff] at hverdict
        obtain rfl := Except.ok.inj hverdict
        rfl
    rw [haction, hnot]
    rfl
  | shown =>
    obtain ⟨dismisses, hdismisses, haction⟩ := hmade
    have hleaves : leavesWarning previous.bucket power.bucket thresholds.warningBucket =
        .ok true := bind_eq_ok.2 ⟨true, hbefore rfl, habove⟩
    have hdismiss : dismisses = true := by
      rw [shouldDismiss, hleaves, hoff] at hdismisses
      split at hdismisses
      · exact (Except.ok.inj hdismisses).symm
      · exact (Except.ok.inj hdismisses).symm
    rw [haction, hdismiss]
    rfl

/-- If the warning is shown exactly for a low reading, it is so after the decision on the next. -/
theorem evaluate_of_reported (hprevious : previous.IsReported) (hpower : power.IsReported)
    (hknown : power.status ≠ .unknown)
    (hstate : state = .shown ↔ previous.isLow (.integer (-1)) = true) :
    ∃ decision, ({} : BatteryThresholds).evaluate previous power {} state = .ok decision ∧
      (state.afterAction decision.action = .shown ↔ power.isLow (.integer (-1)) = true) := by
  have hestimate : ({} : HybridEstimate).IsSound := ⟨rfl, _, rfl, _, rfl⟩
  obtain ⟨decision, hdecision⟩ := succeeds_evaluate WarningSettings.isSound_default
    hprevious.isSound hpower.isSound hestimate state
  refine ⟨decision, hdecision, ?_⟩
  obtain ⟨old, hold, -⟩ := hprevious.bucket
  obtain ⟨new, hnew, -⟩ := hpower.left.bucket
  obtain ⟨plugged, hplugged⟩ := hpower.left.plugged
  change power.bucket = _ at hnew
  change power.plugged = _ at hplugged
  by_cases hlow : power.isLow (.integer (-1)) = true
  · refine iff_of_true ?_ hlow
    refine evaluate_of_low rfl rfl (by rw [hold]; simp) ?_ hlow ?_ hdecision
    · by_cases hbefore : previous.isLow (.integer (-1)) = true
      · exact .inl (hstate.2 hbefore)
      · exact .inr (by simpa using hbefore)
    · simp [PowerState.isMuffled, BatteryStatus.isTrustworthy, hpower.powerSaver, hknown,
        Value.truth]
  · refine iff_of_false ?_ hlow
    have hhidden : state.afterAction decision.action = .hidden := by
      cases plugged with
      | true => exact evaluate_of_supplied (.inl (by rw [hplugged]; rfl)) hdecision
      | false =>
        have habove : -1 < new := by
          by_contra hle
          refine hlow (PreviousPower.isLow_iff.2 ⟨by rw [PowerState.left, hplugged]; rfl, ?_⟩)
          rw [PowerState.left, hnew, Comparison.holds_number, Comparison.ofNumbers_integer]
          exact congrArg Except.ok (decide_eq_true (by omega))
        refine evaluate_of_above rfl ?_ ?_ rfl (fun hshown => ?_) hdecision
        · rw [hnew, Comparison.holds_number, Comparison.ofNumbers_integer]
          exact congrArg Except.ok (decide_eq_true habove)
        · rw [hpower.timeRemaining]
          decide +kernel
        · exact (PreviousPower.isLow_iff.1 (hstate.1 hshown)).2
    rw [hhidden]
    decide

end BatteryThresholds

/-! ## Runs on reports -/

/-- Whether a tick is under default thresholds, without a hybrid estimate, and its power state, if
it answers one, is that of a report with a recognised status. -/
structure Tick.IsReported (t : Tick) : Prop where
  thresholds : ∀ settings, Section.settingsFrom t.readings.thermal.settings = .ok settings →
    BatteryThresholds.ofSettings settings = {}
  hybrid : t.readings.power.hybrid.enabled = .ok false
  power : ∀ power, t.readings.power.power = .ok (some power) →
    power.status ≠ .unknown ∧
      ∃ entries, PowerState.ofReport (.mapping entries) = .ok power

namespace Tick.IsReported

theorem ofPower {power : PowerState} {entries : Mapping}
    (hknown : power.status ≠ .unknown)
    (hreport : PowerState.ofReport (.mapping entries) = .ok power) :
    (Tick.ofPower power).IsReported where
  thresholds settings h := by
    obtain rfl := Except.ok.inj h
    rfl
  hybrid := rfl
  power read h := by
    obtain rfl := Option.some.inj (Except.ok.inj h)
    exact ⟨hknown, entries, hreport⟩

theorem ofTemperature (temperature : Value) : (Tick.ofTemperature {} temperature).IsReported where
  thresholds settings h := by
    obtain rfl := Except.ok.inj h
    rfl
  hybrid := rfl
  power read h := nomatch h

end Tick.IsReported

/-- What holds between the power states read and the carried state: the last of them is carried, and
the warning is shown exactly if it is low. -/
structure PollState.Mirrors (powers : List PowerState) (s : PollState) : Prop where
  previous : s.previous = powers.getLast?.elim {} PowerState.left
  reported : s.previous.IsReported
  shown_iff : s.batteryWarning = .shown ↔ s.previous.isLow (.integer (-1)) = true

/-- A poll reads a power state exactly if its first half ends and the power source answers it. -/
theorem Readings.powerRead_eq_some {readings : Readings} {e : Engine} {power : PowerState} :
    readings.powerRead e = some power ↔
      (∃ settings thermal,
        (Section.pollFirst readings.thermal e).outcome = .ok (settings, thermal)) ∧
        Section.powerFrom readings.power.power = .ok (some power) := by
  rw [powerRead]
  cases (Section.pollFirst readings.thermal e).outcome with
  | error fault => simp
  | ok first =>
    cases Section.powerFrom readings.power.power with
    | error fault => simp
    | ok answer => simp [Prod.ext_iff]

namespace PollState

/-- A new engine starts in bucket 1, and shows nothing. -/
theorem mirrors_initial : Mirrors [] {} where
  previous := rfl
  reported := ⟨⟨1, rfl, by omega, by omega⟩, false, rfl⟩
  shown_iff := by decide +kernel

/-- A tick on a report keeps what holds, with the power state that it reads as the last one. -/
theorem Mirrors.tick {powers : List PowerState} {e : Engine} (h : e.state.Mirrors powers) {t : Tick}
    (ht : t.IsReported) :
    (Section.pollOnce t.behaviour t.readings e).engine.state.Mirrors
      (powers ++ (t.readings.powerRead e).toList) := by
  rw [(Section.pollOnce_changes _ _ _).1, (Section.poll_spec t.readings e).1]
  cases hread : t.readings.powerRead e with
  | none =>
    have hsame : Section.afterBattery
        (e.state.change .thermal (Section.thermalAction t.readings.thermal e))
        (Section.batteryOutcome t.readings e) =
          e.state.change .thermal (Section.thermalAction t.readings.thermal e) := by
      unfold Section.afterBattery
      split
      case h_1 power decision houtcome =>
        obtain ⟨settings, thermal, hfirst, hpower, -⟩ := Section.batteryOutcome_eq_some.1 houtcome
        have hsome := Readings.powerRead_eq_some.2 ⟨⟨settings, thermal, hfirst⟩, hpower⟩
        rw [hread] at hsome
        cases hsome
      case h_2 => rfl
    rw [hsame, Option.toList_none, List.append_nil]
    exact ⟨h.previous, h.reported, h.shown_iff⟩
  | some power =>
    obtain ⟨⟨settings, thermal, hfirst⟩, hpower⟩ := Readings.powerRead_eq_some.1 hread
    obtain ⟨hknown, entries, hreport⟩ := ht.power power (Section.powerFrom_eq_some.1 hpower)
    have hreported := (PowerState.ofReport_eq_ok hreport).1
    obtain ⟨decision, hdecision, hshown⟩ :=
      BatteryThresholds.evaluate_of_reported h.reported hreported hknown h.shown_iff
    have hmade : Section.batteryDecision settings t.readings.power.hybrid power e.state =
        .ok decision := by
      rw [Section.batteryDecision, HybridReadings.estimate, ht.hybrid,
        ht.thresholds settings (Section.settings_of_pollFirst hfirst)]
      exact hdecision
    rw [Section.batteryOutcome_eq_some.2
      ⟨settings, thermal, hfirst, hpower, hmade, fun _ => hreported.level_isWritable⟩]
    refine ⟨?_, hreported.left, hshown⟩
    rw [Option.toList_some, List.getLast?_concat]
    rfl

end PollState

namespace Engine

variable (clock : Binary64) (callbacks : List Callback) {ticks : List Tick}

theorem fresh_run_mirrors (hticks : ∀ t ∈ ticks, t.IsReported) :
    ((fresh clock callbacks).run ticks).engine.state.Mirrors
      ((fresh clock callbacks).powersRead ticks) := by
  induction ticks using List.reverseRecOn with
  | nil => exact PollState.mirrors_initial
  | append_singleton before t ih =>
    have hbefore := ih fun u hu => hticks u (List.mem_append_left _ hu)
    rw [run_concat, powersRead_concat]
    exact hbefore.tick (hticks t (by simp))

/-- With default thresholds, reports of a recognised status and no hybrid estimate, after every poll
the low battery warning is shown exactly if the last report that was read tells that the device is
unplugged and its percentage, without the fraction, is at most 15. -/
theorem fresh_run_reported (hticks : ∀ t ∈ ticks, t.IsReported) {power : PowerState}
    (hlast : power ∈ ((fresh clock callbacks).powersRead ticks).getLast?) {entries : Mapping}
    (hreport : PowerState.ofReport (.mapping entries) = .ok power) :
    ((fresh clock callbacks).run ticks).engine.state.batteryWarning = .shown ↔
      (entries.get? "plugged" = none ∨ entries.get? "plugged" = some (.text "UNPLUGGED")) ∧
        ∃ n k, entries.get? "percentage" = some (.number n) ∧ n.HasWholePart k ∧ k ≤ 15 := by
  have hmirrors := fresh_run_mirrors clock callbacks hticks
  have hprevious : ((fresh clock callbacks).run ticks).engine.state.previous = power.left := by
    rw [hmirrors.previous, hlast]
    rfl
  rw [hmirrors.shown_iff, hprevious]
  exact (PowerState.ofReport_eq_ok hreport).2

/-- At 15.75 percent an unplugged device is warned, a poll without a report changes nothing about
it, and the same percentage on a device that is plugged in again is no reason to warn. -/
theorem fresh_run_reported_fifteen :
    let entries (plugged : Text) : Mapping :=
      [("status", .text "DISCHARGING"), ("percentage", ((Binary64.ofInt 63).divNat 4 : Binary64)),
        ("plugged", .text plugged)]
    let low : PowerState := { bucket := .number (.integer (-1)), level := 15 }
    let plugged : PowerState := { low with plugged := .flag true }
    (PowerState.ofReport (.mapping (entries "UNPLUGGED")) = .ok low ∧
      PowerState.ofReport (.mapping (entries "PLUGGED_USB")) = .ok plugged) ∧
    ((fresh .zero []).run
      [.ofPower low, .ofTemperature {} .null]).engine.state.batteryWarning = .shown ∧
    ((fresh .zero []).run
      [.ofPower low, .ofTemperature {} .null, .ofPower plugged]).engine.state.batteryWarning ≠
        .shown := by
  intro entries low plugged
  have hlow : PowerState.ofReport (.mapping (entries "UNPLUGGED")) = .ok low := by decide +kernel
  have hplugged : PowerState.ofReport (.mapping (entries "PLUGGED_USB")) = .ok plugged := by
    decide +kernel
  have hticks : ∀ t ∈ [Tick.ofPower low, .ofTemperature {} .null, .ofPower plugged],
      t.IsReported := by
    intro t ht
    rw [List.mem_cons, List.mem_cons, List.mem_singleton] at ht
    rcases ht with rfl | rfl | rfl
    · exact .ofPower (by decide) hlow
    · exact .ofTemperature .null
    · exact .ofPower (by decide) hplugged
  refine ⟨⟨hlow, hplugged⟩, ?_, ?_⟩
  · have hbefore : ∀ t ∈ [Tick.ofPower low, .ofTemperature {} .null], t.IsReported := fun t ht =>
      hticks t (List.mem_append_left [Tick.ofPower plugged] ht)
    refine (fresh_run_reported .zero [] hbefore ?_ hlow).2 ⟨.inr rfl, _, 15, rfl, ?_, by decide⟩
    · decide +kernel
    · exact Number.hasWholePart_of_truncate? (by decide +kernel)
  · rw [Ne, fresh_run_reported .zero [] hticks (by decide +kernel) hplugged]
    rintro ⟨hunplugged, -⟩
    revert hunplugged
    decide +kernel

end Engine

end DeviceWarnings
