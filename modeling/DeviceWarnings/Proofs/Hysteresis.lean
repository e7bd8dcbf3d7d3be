import DeviceWarnings.Proofs.Temperatures

/-!
# Hysteresis of the overheating warning

Under settings that do not change, the overheating warning has a closed form: it is shown exactly if
warnings are enabled, some temperature has reached the limit, and none since has fallen below the
limit less the margin; under the manual policy, falling below does not matter. Temperatures between
the two keep the warning as it is, and polls without a temperature or a threshold count for nothing.

A temperature that clears the warning does not raise it: the limit less a margin is at most the
limit, or NaN, below which no temperature lies.
-/

namespace DeviceWarnings

/-- A margin that counts, at least zero; NaN stays NaN. -/
def Binary64.orZero (margin : Binary64) : Binary64 :=
  if (margin : Number) < zero then zero else margin

/-- The number that a temperature is, unless it is missing. -/
def Value.present? : Value → Option Number
  | .number n => if n.isNaN then none else some n
  | _ => none

/-- The temperature that a poll can act on: there is a threshold for it, and it is not missing. -/
def ThermalReadings.effective (readings : ThermalReadings) : Option Number :=
  readings.resolution?.bind fun r => r.current.present?

/-- The temperature that the poll of a tick can act on. -/
def temperatureAt (ticks : List Tick) (i : Nat) : Option Number :=
  ticks[i]?.bind fun t => t.readings.thermal.effective

/-! ## Limits -/

/-- What is below a limit less a margin does not reach the limit. -/
theorem Binary64.not_le_of_lt_sub_orZero {limit margin : Binary64} {n : Number}
    (h : n < (limit - margin.orZero : Binary64)) : ¬(limit : Number) ≤ n := by
  refine not_le_of_lt_sub (fun hmargin => ?_) h
  by_cases hneg : (margin : Number) < zero
  · rw [orZero, if_pos hneg]
    exact Number.le_refl rfl
  · rw [orZero, if_neg hneg] at hmargin ⊢
    exact (Number.lt_or_le (a := margin) (b := zero) hmargin rfl).resolve_left hneg

/-- A binary64 margin is at least zero or NaN where it counts. -/
theorem atLeastZero_binary (margin : Binary64) :
    atLeastZero margin = .ok (margin.orZero : Value) := by
  change (do return if ← Comparison.greater.holds (Binary64.zero : Value) margin then
    (Binary64.zero : Value) else margin) = _
  rw [Comparison.holds_number, Binary64.orZero]
  by_cases hneg : (margin : Number) < Binary64.zero
  · have hgreater : Comparison.greater.ofNumbers Binary64.zero margin = true := decide_eq_true hneg
    rw [if_pos hneg, hgreater]
    rfl
  · have hgreater : Comparison.greater.ofNumbers Binary64.zero margin = false :=
      decide_eq_false hneg
    rw [if_neg hneg, hgreater]
    rfl

variable {n : Number} {limit margin : Binary64}

/-- A temperature overheats from the limit on. -/
theorem overheats_number (h : (n : Value).isMissing = .ok false) (enabled : Bool) :
    overheats n (some limit) enabled =
      .ok (decide (enabled = true ∧ (limit : Number) ≤ n)) := by
  cases enabled with
  | false => rfl
  | true =>
    rw [overheats, h]
    change Comparison.atLeast.holds (n : Value) limit = _
    rw [Comparison.holds_number]
    simp [Comparison.ofNumbers]

/-- A temperature has cooled below the limit less the margin. -/
theorem hasCooled_number (h : (n : Value).isMissing = .ok false) (policy : ClearPolicy) :
    hasCooled n (some limit) policy margin =
      .ok (decide (policy = .onCooldown ∧ n < (limit - margin.orZero : Binary64))) := by
  cases policy with
  | manual => rfl
  | onCooldown =>
    rw [hasCooled, h, atLeastZero_binary]
    change Comparison.less.holds (n : Value) (limit - margin.orZero : Binary64) = _
    rw [Comparison.holds_number]
    simp [Comparison.ofNumbers]

namespace ThermalEvaluator

variable {evaluator : ThermalEvaluator}

/-- What is done about a temperature: a hidden warning is raised if warnings are enabled and the
limit is reached, a shown one is cleared if the policy allows it and the temperature has cooled. -/
theorem decision_number (h : (n : Value).isMissing = .ok false)
    (hmargin : evaluator.margin = margin) {threshold : ThermalThreshold}
    (hlimit : threshold.value = limit) (state : WarningState) :
    evaluator.decision n (some threshold) state = .ok ⟨
      match state with
      | .hidden => if evaluator.enabled = true ∧ (limit : Number) ≤ n then some .raise else none
      | .shown =>
        if evaluator.policy = .onCooldown ∧ n < (limit - margin.orZero : Binary64) then
          some .dismiss
        else none,
      some threshold⟩ := by
  subst hlimit
  cases state with
  | hidden =>
    rw [decision]
    change (overheats n (some (threshold.value : Value)) evaluator.enabled >>= _) = _
    rw [overheats_number h]
    simp only [bind, Except.bind, pure, Except.pure, decide_eq_true_eq]
  | shown =>
    rw [decision, hmargin]
    change (hasCooled n (some (threshold.value : Value)) evaluator.policy margin >>= _) = _
    rw [hasCooled_number h]
    simp only [bind, Except.bind, pure, Except.pure, decide_eq_true_eq]

end ThermalEvaluator

namespace Section

variable {settings : WarningSettings} {readings : ThermalReadings}

/-- The change of the overheating warning that a temperature calls for under some settings. -/
def hysteresisAction (settings : WarningSettings) (limit margin : Binary64)
    (temperature : Option Number) (state : WarningState) : Option WarningAction :=
  temperature.bind fun n =>
    match state with
    | .hidden =>
      if settings.showTemperatureWarning.truth = true ∧ (limit : Number) ≤ n then some .raise
      else none
    | .shown =>
      if settings.thermalClearPolicy = .onCooldown ∧ n < (limit - margin.orZero : Binary64) then
        some .dismiss
      else none

/-- A temperature is missing, or it is present as a number. -/
theorem isMissing_cases {v : Value} (hv : v.IsTemperature) {missing : Bool}
    (h : v.isMissing = .ok missing) :
    (v.isMissing = .ok true ∧ v.present? = none) ∨
      ∃ n : Number, v = n ∧ v.isMissing = .ok false ∧ v.present? = some n := by
  rcases hv with rfl | ⟨n, rfl⟩
  · exact .inl ⟨rfl, rfl⟩
  · cases n with
    | integer i =>
      refine .inr ⟨.integer i, rfl, ?_, rfl⟩
      change (if fitsWord i then Except.ok false else .error Fault.notTemperature) = _ at h ⊢
      by_cases hfits : fitsWord i = true
      · rw [if_pos hfits]
      · rw [if_neg hfits] at h
        cases h
    | binary x =>
      rw [Value.isMissing_binary]
      cases x with
      | nan => exact .inl ⟨rfl, rfl⟩
      | infinity negative => exact .inr ⟨_, rfl, rfl, rfl⟩
      | finite negative units hgrid => exact .inr ⟨_, rfl, rfl, rfl⟩

/-- With figures kept and a numeric source, what a poll does about overheating depends on nothing
but the temperature that it can act on and the state of the warning. -/
theorem thermalAction_eq_hysteresisAction
    (hsettings : ∀ s, settingsFrom readings.settings = .ok s → s = settings)
    (hmargin : settings.thermalClearMargin = margin)
    (hlimit : ∀ r, readings.resolution? = some r → r.threshold.value = limit)
    (hnumeric : readings.IsNumeric) {e : Engine} (h : e.temperatures.HasFigures) :
    thermalAction readings e =
      hysteresisAction settings limit margin readings.effective e.state.thermalWarning := by
  rw [thermalAction_eq_resolution hnumeric h, ThermalReadings.effective]
  cases hresolution : readings.resolution? with
  | none => rfl
  | some r =>
    obtain ⟨hread, hgathered⟩ := ThermalReadings.gathered_of_resolution hresolution
    obtain ⟨hcurrent, -, missing, hmissing⟩ := gathered_eq_ok.1 hgathered
    obtain rfl := hsettings r.settings hread
    change r.action _ = hysteresisAction r.settings limit margin r.current.present? _
    rw [Resolution.action]
    rcases isMissing_cases (isTemperature_of_temperatureFrom hnumeric hcurrent) hmissing with
      ⟨hnaught, hnone⟩ | ⟨n, hn, hthere, hpresent⟩
    · rw [hnone, ThermalEvaluator.decision_of_missing (.inl hnaught)]
      rfl
    · rw [hn] at hthere
      rw [hpresent, hn,
        ThermalEvaluator.decision_number hthere hmargin (hlimit r hresolution)]
      rfl

end Section

/-! ## Runs -/

/-- Whether some tick had a temperature that reached the limit and, unless the policy is manual, no
later tick had one below the limit less the margin. -/
def Overheated (settings : WarningSettings) (limit margin : Binary64) (ticks : List Tick) : Prop :=
  ∃ i, ∃ n ∈ temperatureAt ticks i, (limit : Number) ≤ n ∧
    (settings.thermalClearPolicy = .onCooldown →
      ∀ j > i, ∀ m ∈ temperatureAt ticks j, ¬m < (limit - margin.orZero : Binary64))

theorem lt_of_mem_temperatureAt {ticks : List Tick} {i : Nat} {n : Number}
    (h : n ∈ temperatureAt ticks i) : i < ticks.length := by
  by_contra hi
  rw [temperatureAt, List.getElem?_eq_none (by omega)] at h
  cases h

theorem temperatureAt_concat {ticks : List Tick} {t : Tick} {i : Nat} :
    temperatureAt (ticks ++ [t]) i =
      if i < ticks.length then temperatureAt ticks i
      else if i = ticks.length then t.readings.thermal.effective else none := by
  rw [temperatureAt, temperatureAt]
  by_cases hlt : i < ticks.length
  · rw [if_pos hlt, List.getElem?_append_left hlt]
  · rw [if_neg hlt]
    by_cases heq : i = ticks.length
    · rw [if_pos heq, heq, List.getElem?_concat_length]
      rfl
    · rw [if_neg heq, List.getElem?_eq_none (by simp; omega)]
      rfl

variable {settings : WarningSettings} {limit margin : Binary64} {ticks : List Tick} {t : Tick}

/-- Another tick overheats by its own temperature, or leaves things as they are unless its
temperature has cooled. -/
theorem overheated_concat :
    Overheated settings limit margin (ticks ++ [t]) ↔
      (∃ n ∈ t.readings.thermal.effective, (limit : Number) ≤ n) ∨
        (Overheated settings limit margin ticks ∧
          ¬(settings.thermalClearPolicy = .onCooldown ∧
            ∃ m ∈ t.readings.thermal.effective, m < (limit - margin.orZero : Binary64))) := by
  have hlast : temperatureAt (ticks ++ [t]) ticks.length = t.readings.thermal.effective := by
    rw [temperatureAt_concat, if_neg (by omega), if_pos rfl]
  have hbefore {i : Nat} (hi : i < ticks.length) :
      temperatureAt (ticks ++ [t]) i = temperatureAt ticks i := by
    rw [temperatureAt_concat, if_pos hi]
  have hrange {i : Nat} {n : Number} (hn : n ∈ temperatureAt (ticks ++ [t]) i) :
      i < ticks.length ∨ i = ticks.length := by
    have hi := lt_of_mem_temperatureAt hn
    rw [List.length_append, List.length_singleton] at hi
    omega
  constructor
  · rintro ⟨i, n, hn, hreaches, hlater⟩
    rcases hrange hn with hi | rfl
    · rw [hbefore hi] at hn
      refine .inr ⟨⟨i, n, hn, hreaches, fun hpolicy j hj m hm => ?_⟩, ?_⟩
      · apply hlater hpolicy j hj m
        rw [hbefore (lt_of_mem_temperatureAt hm)]
        exact hm
      · rintro ⟨hpolicy, m, hm, hcooled⟩
        refine hlater hpolicy ticks.length hi m ?_ hcooled
        rw [hlast]
        exact hm
    · rw [hlast] at hn
      exact .inl ⟨n, hn, hreaches⟩
  · rintro (⟨n, hn, hreaches⟩ | ⟨⟨i, n, hn, hreaches, hlater⟩, hwarm⟩)
    · refine ⟨ticks.length, n, by rw [hlast]; exact hn, hreaches, fun _ j hj m hm => ?_⟩
      rcases hrange hm with hlt | rfl <;> omega
    · have hi := lt_of_mem_temperatureAt hn
      refine ⟨i, n, by rw [hbefore hi]; exact hn, hreaches, fun hpolicy j hj m hm hcooled => ?_⟩
      rcases hrange hm with hlt | rfl
      · rw [hbefore hlt] at hm
        exact hlater hpolicy j hj m hm hcooled
      · rw [hlast] at hm
        exact hwarm ⟨hpolicy, m, hm, hcooled⟩

/-- One poll keeps the warning and the history of temperatures in step. -/
theorem shown_afterAction_iff {state : WarningState}
    (h : state = .shown ↔
      settings.showTemperatureWarning.truth = true ∧ Overheated settings limit margin ticks) :
    state.afterAction (Section.hysteresisAction settings limit margin
        t.readings.thermal.effective state) = .shown ↔
      settings.showTemperatureWarning.truth = true ∧
        Overheated settings limit margin (ticks ++ [t]) := by
  rw [overheated_concat]
  cases t.readings.thermal.effective with
  | none =>
    change state = .shown ↔ _
    rw [h]
    simp
  | some n =>
    simp only [Option.mem_some_iff, exists_eq_left']
    cases state with
    | hidden =>
      have hcold : ¬(settings.showTemperatureWarning.truth = true ∧
          Overheated settings limit margin ticks) := by
        rw [← h]
        simp
      by_cases hraise : settings.showTemperatureWarning.truth = true ∧ (limit : Number) ≤ n
      · have haction : Section.hysteresisAction settings limit margin (some n) .hidden =
            some .raise := if_pos hraise
        rw [haction]
        exact ⟨fun _ => ⟨hraise.1, .inl hraise.2⟩, fun _ => rfl⟩
      · have haction : Section.hysteresisAction settings limit margin (some n) .hidden = none :=
          if_neg hraise
        rw [haction]
        constructor
        · intro hshown
          cases hshown
        · rintro ⟨henabled, hreaches | ⟨hhot, -⟩⟩
          · exact absurd ⟨henabled, hreaches⟩ hraise
          · exact absurd ⟨henabled, hhot⟩ hcold
    | shown =>
      obtain ⟨henabled, hhot⟩ := h.1 rfl
      by_cases hclear : settings.thermalClearPolicy = .onCooldown ∧
          n < (limit - margin.orZero : Binary64)
      · have haction : Section.hysteresisAction settings limit margin (some n) .shown =
            some .dismiss := if_pos hclear
        rw [haction]
        constructor
        · intro hshown
          cases hshown
        · rintro ⟨-, hreaches | ⟨-, hwarm⟩⟩
          · exact absurd hreaches (Binary64.not_le_of_lt_sub_orZero hclear.2)
          · exact absurd hclear hwarm
      · have haction : Section.hysteresisAction settings limit margin (some n) .shown = none :=
          if_neg hclear
        rw [haction]
        exact ⟨fun _ => ⟨henabled, .inr ⟨hhot, hclear⟩⟩, fun _ => rfl⟩

/-- What holds between the ticks so far and the run: what is kept of temperatures are figures, and
the overheating warning is shown exactly if warnings are enabled and the ticks have overheated. -/
structure Run.Hysteresis (settings : WarningSettings) (limit margin : Binary64)
    (ticks : List Tick) (run : Run) : Prop where
  figures : run.engine.temperatures.HasFigures
  shown_iff : run.engine.state.thermalWarning = .shown ↔
    settings.showTemperatureWarning.truth = true ∧ Overheated settings limit margin ticks

namespace Run

theorem hysteresis_fresh (clock : Binary64) (callbacks : List Callback) :
    Hysteresis settings limit margin [] { engine := .fresh clock callbacks } where
  figures := ⟨[], rfl, by simp⟩
  shown_iff := by
    constructor
    · intro hshown
      cases hshown
    · rintro ⟨-, i, n, hn, -⟩
      cases hn

/-- A tick keeps what holds, whatever the battery side of its poll does. -/
theorem Hysteresis.tick {run : Run} (h : run.Hysteresis settings limit margin ticks)
    (hsettings : ∀ s, Section.settingsFrom t.readings.thermal.settings = .ok s → s = settings)
    (hmargin : settings.thermalClearMargin = margin)
    (hlimit : ∀ r, t.readings.thermal.resolution? = some r → r.threshold.value = limit)
    (hnumeric : t.readings.thermal.IsNumeric) :
    (run.tick t).Hysteresis settings limit margin (ticks ++ [t]) where
  figures := Section.maintains_pollOnce hnumeric run.engine h.figures
  shown_iff := by
    have haction := Section.thermalAction_eq_hysteresisAction hsettings hmargin hlimit hnumeric
      h.figures
    have hafter : (run.tick t).engine.state.thermalWarning =
        run.engine.state.thermalWarning.afterAction
          (Section.thermalAction t.readings.thermal run.engine) := by
      change (Section.pollOnce _ _ _).engine.state.thermalWarning = _
      rw [(Section.pollOnce_changes _ _ _).1]
      exact Section.poll_warning t.readings _ .thermal
    rw [hafter, haction]
    exact shown_afterAction_iff h.shown_iff

end Run

namespace Engine

/-- In a run of a new engine under settings that stay the same, with one limit for all polls that
resolve a threshold, and whatever else the sources do: after every poll the overheating warning is
shown exactly if warnings are enabled and some poll had a temperature that reached the limit, while
no later one, unless the policy is manual, had a temperature below the limit less the margin. -/
theorem fresh_run_hysteresis (clock : Binary64) (callbacks : List Callback)
    (hsettings : ∀ t ∈ ticks, ∀ s,
      Section.settingsFrom t.readings.thermal.settings = .ok s → s = settings)
    (hmargin : settings.thermalClearMargin = margin)
    (hlimit : ∀ t ∈ ticks, ∀ r, t.readings.thermal.resolution? = some r →
      r.threshold.value = limit)
    (hnumeric : ∀ t ∈ ticks, t.readings.thermal.IsNumeric) :
    ((fresh clock callbacks).run ticks).engine.state.thermalWarning = .shown ↔
      settings.showTemperatureWarning.truth = true ∧
        ∃ i, ∃ n ∈ temperatureAt ticks i, (limit : Number) ≤ n ∧
          (settings.thermalClearPolicy = .onCooldown →
            ∀ j > i, ∀ m ∈ temperatureAt ticks j, ¬m < (limit - margin.orZero : Binary64)) := by
  have hrun : ((fresh clock callbacks).run ticks).Hysteresis settings limit margin ticks := by
    refine run_induction (motive := fun before run => run.Hysteresis settings limit margin before)
      (Run.hysteresis_fresh clock callbacks) ?_
    intro before run t ht h
    exact h.tick (hsettings t ht) hmargin (hlimit t ht) (hnumeric t ht)
  exact hrun.shown_iff

/-- With a limit of 45 degrees and a margin of 2 the warning is shown at 46 degrees, and still at
44. -/
theorem fresh_run_hysteresis_dead_band :
    let settings : WarningSettings :=
      { warningTemperature := 45, thermalClearMargin := Binary64.ofInt 2 }
    let ticks : List Tick := [.ofTemperature settings 46, .ofTemperature settings 44]
    ((fresh .zero []).run ticks).engine.state.thermalWarning = .shown := by
  intro settings ticks
  have hticks {t : Tick} (ht : t ∈ ticks) :
      t = .ofTemperature settings 46 ∨ t = .ofTemperature settings 44 := by
    simpa [ticks] using ht
  have hthreshold {t : Tick} (ht : t ∈ ticks) :
      t.readings.thermal.resolution?.map (·.threshold.value) = some (Binary64.ofInt 45) := by
    rcases hticks ht with rfl | rfl <;> decide +kernel
  refine (@fresh_run_hysteresis settings (.ofInt 45) (.ofInt 2) ticks .zero [] ?_ rfl ?_ ?_).2
    ⟨rfl, 0, .integer 46, ?_, ?_, ?_⟩
  · intro t ht s hs
    rcases hticks ht with rfl | rfl
    · exact (Except.ok.inj hs).symm
    · exact (Except.ok.inj hs).symm
  · intro t ht r hr
    have hvalue := hthreshold ht
    rw [hr] at hvalue
    exact Option.some.inj hvalue
  · intro t ht v hv
    rcases hticks ht with rfl | rfl
    · exact .inr ⟨.integer 46, (Except.ok.inj hv).symm⟩
    · exact .inr ⟨.integer 44, (Except.ok.inj hv).symm⟩
  · decide +kernel
  · decide +kernel
  · intro _ j hj m hm
    have hlast : j < 2 := lt_of_mem_temperatureAt hm
    obtain rfl : j = 1 := by omega
    have hsecond : temperatureAt ticks 1 = some (.integer 44) := by decide +kernel
    obtain rfl : m = .integer 44 := by
      rw [hsecond] at hm
      exact (Option.some.inj hm).symm
    decide +kernel

end Engine

end DeviceWarnings
