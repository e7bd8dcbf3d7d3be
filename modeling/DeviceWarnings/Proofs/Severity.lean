import DeviceWarnings.Proofs.Recovery

/-!
# Worse readings warn no less

A reading is no better than another one if its bucket and its estimates are no higher, and it may
have a hybrid estimate where the other has none. Each signal for a warning is given by every reading
that is no better than one that gives it, and each sign of recovery by every reading that is no
worse. The rules for raising and for dismissing a warning put them together without turning any of
them around, so they are monotone in all of them at once. A signal also has to be told: what is
asked of a worse reading may be asked in vain unless its values can be compared, which is why the
order of two answers says that the second is there, too.

A missing estimate gives no signal of either kind. So does an endless estimate where a warning is to
be raised, and minus infinity where one is to be dismissed, whatever the threshold is.
-/

namespace DeviceWarnings

/-- Whether a second answer is there if the first one is, and is yes if that is yes. -/
def Entails (first second : Except Fault Bool) : Prop :=
  ∀ b, first = .ok b → ∃ c, second = .ok c ∧ (b = true → c = true)

namespace Entails

variable {first second : Except Fault Bool}

theorem refl (answer : Except Fault Bool) : Entails answer answer := fun b h => ⟨b, h, id⟩

theorem of_ok_false {b : Bool} (h : second = .ok b) : Entails (.ok false) second := by
  intro c hc
  obtain rfl := Except.ok.inj hc
  exact ⟨b, h, nofun⟩

/-- Answers to the same question may be asked for different reasons. -/
theorem bind {α : Type} (x : Except Fault α) {next more : α → Except Fault Bool}
    (h : ∀ a, Entails (next a) (more a)) : Entails (x >>= next) (x >>= more) := by
  cases x with
  | error fault => exact refl _
  | ok a => exact h a

theorem eq_ok_true (h : Entails first second) (hfirst : first = .ok true) : second = .ok true := by
  obtain ⟨c, hc, htrue⟩ := h true hfirst
  rw [hc, htrue rfl]

end Entails

/-! ## Values -/

namespace Comparison

variable {m n k : Number}

theorem ofNumbers_atMost_of_le (h : m ≤ n) (hn : atMost.ofNumbers n k = true) :
    atMost.ofNumbers m k = true := by
  have hnk : n ≤ k := of_decide_eq_true hn
  exact decide_eq_true (Number.le_trans h hnk)

theorem ofNumbers_less_of_le (h : m ≤ n) (hn : less.ofNumbers n k = true) :
    less.ofNumbers m k = true := by
  have hnk : n < k := of_decide_eq_true hn
  exact decide_eq_true (Number.lt_of_le_of_lt h hnk)

theorem ofNumbers_greater_of_le (h : m ≤ n) (hm : greater.ofNumbers m k = true) :
    greater.ofNumbers n k = true := by
  have hkm : k < m := of_decide_eq_true hm
  exact decide_eq_true (Number.lt_of_lt_of_le hkm h)

/-- If one number compares to all numbers as another one does, it does so to all values. -/
theorem entails_holds {comparison : Comparison}
    (h : ∀ k, comparison.ofNumbers m k = true → comparison.ofNumbers n k = true)
    (threshold : Value) :
    Entails (comparison.holds m threshold) (comparison.holds n threshold) := by
  intro b hb
  rcases holds_ok_cases hb with ⟨s, t, hs, -⟩ | ⟨xs, ys, hxs, -⟩ | ⟨m', k, hm, hk⟩
  · cases hs
  · cases hxs
  · obtain rfl : m = m' := Option.some.inj hm
    rw [holds_of_amount _ hm hk] at hb
    obtain rfl := Except.ok.inj hb
    exact ⟨comparison.ofNumbers n k, holds_of_amount _ rfl hk, h k⟩

end Comparison

namespace Value

/-- Whether a value is the same as another one, or both are numbers and it is no higher. -/
def IsNoHigher (v w : Value) : Prop := v = w ∨ ∃ m n : Number, v = m ∧ w = n ∧ m ≤ n

/-- Whether an estimate is the same as another one, or both are there and it is no higher. -/
def IsNoLater (v w : Value) : Prop :=
  v = w ∨ ∃ x y : Binary64, v = x ∧ w = y ∧ (x : Number) ≤ y

/-- Whether a value is an estimate, which may be missing. -/
def IsEstimate (v : Value) : Prop := v = .null ∨ ∃ x : Binary64, v = x

variable {v w : Value}

theorem IsNoLater.isEstimate (h : v.IsNoLater w) (hw : w.IsEstimate) : v.IsEstimate := by
  rcases h with rfl | ⟨x, y, rfl, -, -⟩
  · exact hw
  · exact .inr ⟨x, rfl⟩

theorem IsNoHigher.entails_atMost (h : v.IsNoHigher w) (threshold : Value) :
    Entails (Comparison.atMost.holds w threshold) (Comparison.atMost.holds v threshold) := by
  rcases h with rfl | ⟨m, n, rfl, rfl, hle⟩
  · exact .refl _
  · exact Comparison.entails_holds (fun _ => Comparison.ofNumbers_atMost_of_le hle) threshold

theorem IsNoHigher.entails_greater (h : v.IsNoHigher w) (threshold : Value) :
    Entails (Comparison.greater.holds v threshold) (Comparison.greater.holds w threshold) := by
  rcases h with rfl | ⟨m, n, rfl, rfl, hle⟩
  · exact .refl _
  · exact Comparison.entails_holds (fun _ => Comparison.ofNumbers_greater_of_le hle) threshold

end Value

/-! ## Signals -/

section Signals

variable {v w threshold : Value}

/-- What falls into warning does so wherever it falls lower. -/
theorem entails_entersWarning (old : Value) (h : v.IsNoHigher w) (threshold : Value) :
    Entails (entersWarning old w threshold) (entersWarning old v threshold) := by
  refine .bind _ fun above => ?_
  cases above with
  | true => exact h.entails_atMost threshold
  | false => exact .refl _

/-- What comes up out of warning does so wherever it comes up higher. -/
theorem leavesWarning_of_isNoHigher {old : Value} (h : v.IsNoHigher w)
    (hleaves : leavesWarning old v threshold = .ok true) :
    leavesWarning old w threshold = .ok true := by
  obtain ⟨inWarning, hin, hgreater⟩ := bind_eq_ok.1 hleaves
  cases inWarning with
  | false => cases hgreater
  | true => exact bind_eq_ok.2 ⟨true, hin, (h.entails_greater threshold).eq_ok_true hgreater⟩

/-- Two numbers are known as estimates. -/
theorem isKnown_of_le {x y : Binary64} (h : (x : Number) ≤ y) :
    (x : Value).isKnown = .ok true ∧ (y : Value).isKnown = .ok true := by
  obtain ⟨hx, hy⟩ := Number.isNaN_of_le h
  change x.isNaN = false at hx
  change y.isNaN = false at hy
  rw [Value.isKnown_binary, Value.isKnown_binary, hx, hy]
  exact ⟨rfl, rfl⟩

theorem entails_timeBelow (h : v.IsNoLater w) (threshold : Value) :
    Entails (timeBelow w threshold) (timeBelow v threshold) := by
  rcases h with rfl | ⟨x, y, rfl, rfl, hle⟩
  · exact .refl _
  · refine .bind _ fun off => ?_
    cases off with
    | true => exact .refl _
    | false =>
      obtain ⟨hx, hy⟩ := isKnown_of_le hle
      simp only [Bool.false_eq_true, if_false, hx, hy]
      exact Comparison.entails_holds (fun _ => Comparison.ofNumbers_less_of_le hle) threshold

theorem entails_timeRecovered (h : v.IsNoLater w) (threshold : Value) :
    Entails (timeRecovered v threshold) (timeRecovered w threshold) := by
  rcases h with rfl | ⟨x, y, rfl, rfl, hle⟩
  · exact .refl _
  · refine .bind _ fun off => ?_
    cases off with
    | true => exact .refl _
    | false =>
      obtain ⟨hx, hy⟩ := isKnown_of_le hle
      simp only [Bool.false_eq_true, if_false, hx, hy]
      exact Comparison.entails_holds (fun _ => Comparison.ofNumbers_greater_of_le hle) threshold

/-- No number is above an endless estimate, and none below minus infinity. -/
theorem holds_infinity {n : Number} {comparison : Comparison} {off : Bool}
    (h : comparison.holds threshold n = .ok off) :
    Comparison.less.holds (Binary64.infinity false) threshold = .ok false ∧
      Comparison.greater.holds (Binary64.infinity true) threshold = .ok false := by
  rcases Comparison.holds_ok_cases h with ⟨s, t, -, ht⟩ | ⟨xs, ys, -, hys⟩ | ⟨k, n', hk, -⟩
  · cases ht
  · cases hys
  · rw [Comparison.holds_of_amount _ rfl hk, Comparison.holds_of_amount _ rfl hk]
    have habove : ¬(Binary64.infinity false : Number) < k := by
      rintro hlt
      obtain ⟨p, q, hp, -, hpq⟩ := Number.lt_iff.1 hlt
      obtain rfl : Position.top = p := Option.some.inj hp
      cases q <;> cases hpq
    have hbelow : ¬k < (Binary64.infinity true : Number) := by
      rintro hlt
      obtain ⟨p, q, -, hq, hpq⟩ := Number.lt_iff.1 hlt
      obtain rfl : Position.bottom = q := Option.some.inj hq
      exact absurd (Position.bottom_le p) (not_le_of_gt hpq)
    exact ⟨congrArg Except.ok (decide_eq_false habove), congrArg Except.ok (decide_eq_false hbelow)⟩

/-- An estimate that is missing is below no threshold, and neither is an endless one. -/
theorem timeBelow_of_missing (h : v.isKnown = .ok false) (threshold : Value) :
    timeBelow v threshold = timeBelow (Binary64.infinity false) threshold := by
  rw [timeBelow, timeBelow, h]
  cases hoff : Comparison.less.holds threshold 0 with
  | error fault => rfl
  | ok off =>
    cases off with
    | true => rfl
    | false => exact (holds_infinity hoff).1.symm

/-- An estimate that is missing is above no threshold, and neither is minus infinity. -/
theorem timeRecovered_of_missing (h : v.isKnown = .ok false) (threshold : Value) :
    timeRecovered v threshold = timeRecovered (Binary64.infinity true) threshold := by
  rw [timeRecovered, timeRecovered, h]
  cases hoff : Comparison.less.holds threshold 0 with
  | error fault => rfl
  | ok off =>
    cases off with
    | true => rfl
    | false => exact (holds_infinity hoff).2.symm

end Signals

/-! ## Readings -/

/-- Whether a power state is no better than another one: its bucket and its estimate are no higher,
and all else that the rules look at is the same. -/
structure PowerState.IsNoBetter (worse better : PowerState) : Prop where
  plugged : worse.plugged = better.plugged
  powerSaver : worse.powerSaver = better.powerSaver
  status : worse.status = better.status
  bucket : worse.bucket.IsNoHigher better.bucket
  timeRemaining : worse.timeRemaining.IsNoLater better.timeRemaining

/-- Whether a hybrid estimate is no better than another one: it is no higher, and is enabled if the
other one is. -/
structure HybridEstimate.IsNoBetter (worse better : HybridEstimate) : Prop where
  enabled : worse.enabled = better.enabled ∨
    worse.enabled = .flag true ∧ better.enabled = .flag false
  timeRemaining : worse.timeRemaining.IsNoLater better.timeRemaining

namespace BatteryThresholds

variable {thresholds : BatteryThresholds} {previous : PreviousPower} {worse better : PowerState}
  {worseHybrid betterHybrid : HybridEstimate}

theorem entails_standardSignal (previous : PreviousPower) (h : worse.IsNoBetter better) :
    Entails (thresholds.standardSignal previous better)
      (thresholds.standardSignal previous worse) := by
  intro b hb
  obtain ⟨inWarning, hin, hb⟩ := bind_eq_ok.1 hb
  obtain ⟨enters, henters, hb⟩ := bind_eq_ok.1 hb
  obtain ⟨inWorse, hinWorse, hinner⟩ := h.bucket.entails_atMost _ inWarning hin
  obtain ⟨entersWorse, hentersWorse, hedge⟩ :=
    entails_entersWarning previous.bucket h.bucket _ enters henters
  rw [standardSignal, hinWorse, hentersWorse]
  cases entersWorse with
  | true => exact ⟨true, rfl, fun _ => rfl⟩
  | false =>
    obtain rfl : enters = false := by simpa using hedge
    change (if (previous.plugged.truth && inWarning) = true then _ else _) = _ at hb
    change ∃ c, (if (previous.plugged.truth && inWorse) = true then _ else _) = _ ∧ _
    by_cases hplug : (previous.plugged.truth && inWorse) = true
    · rw [if_pos hplug]
      exact ⟨true, rfl, fun _ => rfl⟩
    · have hno : ¬(previous.plugged.truth && inWarning) = true := by
        rw [Bool.and_eq_true] at hplug ⊢
        exact fun hboth => hplug ⟨hboth.1, hinner hboth.2⟩
      rw [if_neg hno] at hb
      rw [if_neg hplug]
      exact entails_timeBelow h.timeRemaining _ b hb

/-- A hybrid estimate that is no better gives the signal if the other one does; if it alone is
enabled it has to be an estimate that can be compared. -/
theorem entails_hybridSignal (hthreshold : thresholds.hybridTime.IsNumber)
    (hestimate : betterHybrid.timeRemaining.IsEstimate) (h : worseHybrid.IsNoBetter betterHybrid) :
    Entails ((thresholds.hybridSignal betterHybrid).map Value.truth)
      ((thresholds.hybridSignal worseHybrid).map Value.truth) := by
  have htruth (hybrid : HybridEstimate) : (thresholds.hybridSignal hybrid).map Value.truth =
      if hybrid.enabled.truth then timeBelow hybrid.timeRemaining thresholds.hybridTime
      else .ok false := by
    rw [hybridSignal]
    split
    case isTrue => cases timeBelow hybrid.timeRemaining thresholds.hybridTime <;> rfl
    case isFalse hoff => exact congrArg Except.ok (by simpa using hoff)
  rw [htruth, htruth]
  rcases h.enabled with hsame | ⟨hon, hoff⟩
  · rw [hsame]
    split
    · exact entails_timeBelow h.timeRemaining _
    · exact .refl _
  · have hcompared : worseHybrid.timeRemaining = .null ∨ worseHybrid.timeRemaining.IsFigure := by
      refine (h.timeRemaining.isEstimate hestimate).imp_right ?_
      rintro ⟨x, hx⟩
      exact ⟨x, hx, x, rfl⟩
    obtain ⟨below, hbelow⟩ := succeeds_timeBelow hcompared hthreshold
    rw [hon, hoff]
    exact .of_ok_false hbelow

/-- A warning that is to be raised is to be raised for every reading that is no better. -/
theorem shouldRaise_of_isNoBetter (hthreshold : thresholds.hybridTime.IsNumber)
    (hestimate : betterHybrid.timeRemaining.IsEstimate) (hpower : worse.IsNoBetter better)
    (hhybrid : worseHybrid.IsNoBetter betterHybrid)
    (h : thresholds.shouldRaise previous better betterHybrid = .ok true) :
    thresholds.shouldRaise previous worse worseHybrid = .ok true := by
  rw [shouldRaise_eq_ok] at h ⊢
  rw [hpower.plugged, hpower.powerSaver, hpower.status]
  split at h
  case isTrue => cases h
  case isFalse hheard =>
    rw [if_neg hheard]
    obtain ⟨standard, verdict, hstandard, hverdict, hraises⟩ := h
    obtain ⟨standard', hstandard', hfirst⟩ :=
      entails_standardSignal previous hpower standard hstandard
    obtain ⟨signal, hsignal, hsecond⟩ := entails_hybridSignal hthreshold hestimate hhybrid
      verdict.truth (map_eq_ok.2 ⟨verdict, hverdict, rfl⟩)
    obtain ⟨verdict', hverdict', rfl⟩ := map_eq_ok.1 hsignal
    refine ⟨standard', verdict', hstandard', hverdict', ?_⟩
    rcases Bool.or_eq_true_iff.1 hraises.symm with hcalls | hcalls
    · rw [hfirst hcalls, Bool.true_or]
    · rw [hsecond hcalls, Bool.or_true]

/-- A warning that is to be dismissed is to be dismissed for every reading that is no worse. -/
theorem shouldDismiss_of_isNoBetter (hpower : worse.IsNoBetter better)
    (hhybrid : worseHybrid.IsNoBetter betterHybrid)
    (h : thresholds.shouldDismiss previous worse worseHybrid = .ok true) :
    thresholds.shouldDismiss previous better betterHybrid = .ok true := by
  rw [shouldDismiss_iff, Releases] at h ⊢
  rw [← hpower.plugged, ← hpower.powerSaver]
  refine h.imp_right (Or.imp_right (And.imp (leavesWarning_of_isNoHigher hpower.bucket) ?_))
  intro hrecovered henabled
  have hsame : worseHybrid.enabled = betterHybrid.enabled := by
    rcases hhybrid.enabled with hsame | ⟨-, hoff⟩
    · exact hsame
    · rw [hoff] at henabled
      cases henabled
  exact (entails_timeRecovered hhybrid.timeRemaining _).eq_ok_true
    (hrecovered (hsame ▸ henabled))

/-! ## Missing estimates -/

theorem raiseVerdict_of_standard_missing {v : Value} (h : v.isKnown = .ok false)
    (power : PowerState) (hybrid : HybridEstimate) :
    thresholds.raiseVerdict previous { power with timeRemaining := v } hybrid =
      thresholds.raiseVerdict previous
        { power with timeRemaining := Binary64.infinity false } hybrid := by
  simp only [raiseVerdict, standardSignal, timeBelow_of_missing h]

theorem raiseVerdict_of_hybrid_missing {v : Value} (h : v.isKnown = .ok false)
    (power : PowerState) (enabled : Value) :
    thresholds.raiseVerdict previous power ⟨enabled, v⟩ =
      thresholds.raiseVerdict previous power ⟨enabled, Binary64.infinity false⟩ := by
  simp only [raiseVerdict, hybridSignal, timeBelow_of_missing h]

theorem shouldDismiss_of_hybrid_missing {v : Value} (h : v.isKnown = .ok false)
    (power : PowerState) (enabled : Value) :
    thresholds.shouldDismiss previous power ⟨enabled, v⟩ =
      thresholds.shouldDismiss previous power ⟨enabled, Binary64.infinity true⟩ := by
  simp only [shouldDismiss, timeRecovered_of_missing h]

/-- The rules are monotone: what raises a warning does so for every worse reading, and what
dismisses one does so for every better reading. A missing estimate counts as an endless one where a
warning is to be raised, and as minus infinity where one is to be dismissed. -/
theorem rules_monotone (thresholds : BatteryThresholds) (previous : PreviousPower) :
    (thresholds.hybridTime.IsNumber →
      ∀ (worse better : PowerState) (worseHybrid betterHybrid : HybridEstimate),
        worse.IsNoBetter better → worseHybrid.IsNoBetter betterHybrid →
        betterHybrid.timeRemaining.IsEstimate →
          (thresholds.shouldRaise previous better betterHybrid = .ok true →
            thresholds.shouldRaise previous worse worseHybrid = .ok true) ∧
          (thresholds.shouldDismiss previous worse worseHybrid = .ok true →
            thresholds.shouldDismiss previous better betterHybrid = .ok true)) ∧
    ∀ missing ∈ [Value.null, Binary64.nan],
      ∀ (power : PowerState) (hybrid : HybridEstimate) (enabled : Value),
        thresholds.raiseVerdict previous { power with timeRemaining := missing } hybrid =
          thresholds.raiseVerdict previous
            { power with timeRemaining := Binary64.infinity false } hybrid ∧
        thresholds.raiseVerdict previous power ⟨enabled, missing⟩ =
          thresholds.raiseVerdict previous power ⟨enabled, Binary64.infinity false⟩ ∧
        thresholds.shouldDismiss previous power ⟨enabled, missing⟩ =
          thresholds.shouldDismiss previous power ⟨enabled, Binary64.infinity true⟩ := by
  constructor
  · intro hthreshold worse better worseHybrid betterHybrid hpower hhybrid hestimate
    exact ⟨shouldRaise_of_isNoBetter hthreshold hestimate hpower hhybrid,
      shouldDismiss_of_isNoBetter hpower hhybrid⟩
  · intro missing hmissing power hybrid enabled
    have hunknown : missing.isKnown = .ok false := by
      rcases List.mem_pair.1 hmissing with rfl | rfl <;> rfl
    exact ⟨raiseVerdict_of_standard_missing hunknown power hybrid,
      raiseVerdict_of_hybrid_missing hunknown power enabled,
      shouldDismiss_of_hybrid_missing hunknown power enabled⟩

/-- A device falls into warning with a hybrid estimate that is off, and so it does with a lower
bucket and a low estimate that is on. It recovers with a high estimate that is on, and so it does
with a higher bucket and the estimate off. -/
theorem rules_monotone_of_fall_and_recovery :
    let thresholds : BatteryThresholds := {}
    let power (bucket : Int) : PowerState := { bucket := .number bucket }
    let hybrid (on : Bool) (seconds : Int) : HybridEstimate := ⟨.flag on, Binary64.ofInt seconds⟩
    thresholds.shouldRaise { bucket := 0 } (power (-3)) (hybrid true 100) = .ok true ∧
      thresholds.shouldDismiss { bucket := .number (.integer (-1)) } (power 1)
        (hybrid false 30000) = .ok true := by
  intro thresholds power hybrid
  have hmonotone := fun previous => (rules_monotone thresholds previous).1 ⟨_, rfl⟩
  have hpower {low high : Int} (h : (low : Number) ≤ (high : Number)) :
      (power low).IsNoBetter (power high) := ⟨rfl, rfl, rfl, .inr ⟨_, _, rfl, rfl, h⟩, .inl rfl⟩
  have hhybrid {low high : Int}
      (h : (Binary64.ofInt low : Number) ≤ (Binary64.ofInt high : Number)) :
      (hybrid true low).IsNoBetter (hybrid false high) :=
    ⟨.inr ⟨rfl, rfl⟩, .inr ⟨_, _, rfl, rfl, h⟩⟩
  constructor
  · refine (hmonotone { bucket := 0 } (power (-3)) (power (-1)) (hybrid true 100)
      (hybrid false 20000) (hpower (by decide)) (hhybrid ?_) (.inr ⟨_, rfl⟩)).1 ?_
    · decide +kernel
    · decide +kernel
  · refine (hmonotone { bucket := .number (.integer (-1)) } (power 0) (power 1) (hybrid true 20000)
      (hybrid false 30000) (hpower (by decide)) (hhybrid ?_) (.inr ⟨_, rfl⟩)).2 ?_
    · decide +kernel
    · decide +kernel

end BatteryThresholds

end DeviceWarnings
