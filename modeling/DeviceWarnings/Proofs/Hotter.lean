import DeviceWarnings.Proofs.Gaps
import DeviceWarnings.Proofs.Hysteresis

/-!
# Hotter devices and the overheating warning

Of two devices that are polled under the same settings, the hotter one has its overheating warning
shown whenever the cooler one has. The two warnings are in general in different states, and then are
decided on by different rules. What keeps them in order is that the limit below which a shown
warning is cleared does not lie above the limit from which on a hidden one is raised, whatever the
margin: a temperature that reaches the one does not fall below the other.
-/

namespace DeviceWarnings

/-! ## Clearing and raising -/

/-- A number that is not negative is not negative in binary64 either. -/
theorem Number.zero_le_of_toBinary? {k : Number} {y : Binary64} (h : k.toBinary? = some y)
    (hk : (Binary64.zero : Number) ≤ k) : (Binary64.zero : Number) ≤ y := by
  cases k with
  | binary x =>
    obtain rfl := Option.some.inj h
    exact hk
  | integer i =>
    obtain ⟨p, hp, hle⟩ := Binary64.le_of_zero_le hk
    obtain rfl : .point (i * Binary64.one) = p := Option.some.inj hp
    rw [Position.point_le_point] at hle
    have hone : (0 : Int) < Binary64.one := Int.natCast_pos.2 Binary64.one_pos
    have hnonneg : 0 ≤ i := Int.nonneg_of_mul_nonneg_left hle hone
    rw [toBinary?] at h
    split at h
    · obtain rfl := Option.some.inj h
      exact Binary64.zero_le_ofInt hnonneg
    · cases h

/-- A margin counts as a number that is not negative, or as NaN. -/
theorem atLeastZero_amount {margin counted : Value} (h : atLeastZero margin = .ok counted) :
    ∃ k, counted.amount? = some k ∧ (k.isNaN = false → (Binary64.zero : Number) ≤ k) := by
  obtain ⟨negative, hgreater, hcounted⟩ := bind_eq_ok.1 h
  obtain rfl := Except.ok.inj hcounted
  cases negative with
  | true => exact ⟨_, rfl, fun _ => Number.le_refl rfl⟩
  | false =>
    rcases Comparison.holds_ok_cases hgreater with
      ⟨_, _, htext, -⟩ | ⟨_, _, hlist, -⟩ | ⟨z, k, hz, hk⟩
    · cases htext
    · cases hlist
    · obtain rfl : (Binary64.zero : Number) = z := Option.some.inj hz
      rw [Comparison.holds_of_amount _ hz hk] at hgreater
      have hnot : ¬k < (Binary64.zero : Number) := of_decide_eq_false (Except.ok.inj hgreater)
      exact ⟨k, hk, fun hnumber => (Number.lt_or_le hnumber rfl).resolve_left hnot⟩

section Limits

variable {limit : Binary64} {margin : Value} {policy : ClearPolicy} {m n : Number}

/-- The limit for clearing lies an amount below the limit of the warning that is not negative, or is
NaN. -/
theorem minus_atLeastZero {difference : Value}
    (h : (atLeastZero margin >>= Value.minus limit) = .ok difference) :
    ∃ y : Binary64, difference = (limit - y : Binary64) ∧
      (y.isNaN = false → (Binary64.zero : Number) ≤ y) := by
  obtain ⟨counted, hcounted, hminus⟩ := bind_eq_ok.1 h
  obtain ⟨k, hk, hnonneg⟩ := atLeastZero_amount hcounted
  have hamount : counted.amount = .ok k := by rw [Value.amount, hk]; rfl
  obtain ⟨_, hlimit, hminus⟩ := bind_eq_ok.1 hminus
  obtain rfl := Except.ok.inj hlimit
  obtain ⟨k', hk', hminus⟩ := bind_eq_ok.1 hminus
  obtain rfl : k = k' := Except.ok.inj (hamount.symm.trans hk')
  have hsub : (Number.binary limit).sub? k = k.toBinary?.map fun y => .binary (limit - y) := by
    change (k.toBinary?.bind fun y => some (Number.binary (limit - y))) = _
    cases k.toBinary? <;> rfl
  rw [hsub] at hminus
  cases hy : k.toBinary? with
  | none =>
    rw [hy] at hminus
    cases hminus
  | some y =>
    rw [hy] at hminus
    refine ⟨y, (Except.ok.inj hminus).symm, fun hnumber => ?_⟩
    refine Number.zero_le_of_toBinary? hy (hnonneg ?_)
    cases k with
    | integer i => rfl
    | binary x =>
      obtain rfl := Option.some.inj hy
      exact hnumber

/-- A temperature allows a warning to be cleared exactly if the policy does and the temperature is
below the limit for clearing. -/
theorem hasCooled_eq_ok_true (hn : (n : Value).isMissing = .ok false) :
    hasCooled n (some limit) policy margin = .ok true ↔ policy = .onCooldown ∧
      ∃ difference, (atLeastZero margin >>= Value.minus limit) = .ok difference ∧
        Comparison.less.holds n difference = .ok true := by
  cases policy with
  | manual => simp [hasCooled]
  | onCooldown =>
    rw [hasCooled, hn]
    change (atLeastZero margin >>= fun counted => Value.minus limit counted >>= fun difference =>
      Comparison.less.holds n difference) = .ok true ↔ _
    rw [← bind_assoc, bind_eq_ok]
    simp

/-- A temperature that allows a warning to be cleared does not reach the limit. -/
theorem not_le_of_hasCooled (hn : (n : Value).isMissing = .ok false)
    (h : hasCooled n (some limit) policy margin = .ok true) : ¬(limit : Number) ≤ n := by
  obtain ⟨-, difference, hdifference, hless⟩ := (hasCooled_eq_ok_true hn).1 h
  obtain ⟨y, rfl, hy⟩ := minus_atLeastZero hdifference
  rw [Comparison.holds_number] at hless
  exact Binary64.not_le_of_lt_sub hy (of_decide_eq_true (Except.ok.inj hless))

/-- Where a temperature allows a warning to be cleared, every cooler one does. -/
theorem hasCooled_of_le (hm : (m : Value).isMissing = .ok false)
    (hn : (n : Value).isMissing = .ok false) (hle : m ≤ n)
    (h : hasCooled n (some limit) policy margin = .ok true) :
    hasCooled m (some limit) policy margin = .ok true := by
  obtain ⟨hpolicy, difference, hdifference, hless⟩ := (hasCooled_eq_ok_true hn).1 h
  refine (hasCooled_eq_ok_true hm).2 ⟨hpolicy, difference, hdifference, ?_⟩
  obtain ⟨y, rfl, -⟩ := minus_atLeastZero hdifference
  rw [Comparison.holds_number] at hless ⊢
  have hlt : n < (limit - y : Binary64) := of_decide_eq_true (Except.ok.inj hless)
  exact congrArg Except.ok (decide_eq_true (Number.lt_of_le_of_lt hle hlt))

end Limits

/-! ## Resolutions -/

namespace Resolution

variable {settings : WarningSettings} {limit : ThermalThreshold} {n : Number}

theorem action_hidden (hn : (n : Value).isMissing = .ok false) :
    action ⟨settings, n, limit⟩ .hidden =
      if settings.showTemperatureWarning.truth = true ∧ (limit.value : Number) ≤ n then some .raise
      else none := by
  change ((overheats n (some (limit.value : Value)) settings.showTemperatureWarning.truth >>= _ :
    Except Fault ThermalDecision).toOption.bind _) = _
  rw [overheats_number hn]
  by_cases hhot : settings.showTemperatureWarning.truth = true ∧ (limit.value : Number) ≤ n
  · rw [if_pos hhot, decide_eq_true hhot]
    rfl
  · rw [if_neg hhot, decide_eq_false hhot]
    rfl

theorem action_shown (current : Value) :
    action ⟨settings, current, limit⟩ .shown =
      if hasCooled current (some (limit.value : Value)) settings.thermalClearPolicy
        settings.thermalClearMargin = .ok true then some .dismiss else none := by
  change ((hasCooled current (some (limit.value : Value)) settings.thermalClearPolicy
    settings.thermalClearMargin >>= _ : Except Fault ThermalDecision).toOption.bind _) = _
  cases hasCooled current (some (limit.value : Value)) settings.thermalClearPolicy
    settings.thermalClearMargin with
  | error fault => rfl
  | ok cooled => cases cooled <;> rfl

/-- Where the cooler of two temperatures leaves a warning shown, the hotter one does. -/
theorem shown_of_le {m : Number} (hm : (m : Value).isMissing = .ok false)
    (hn : (n : Value).isMissing = .ok false) (hle : m ≤ n) {s s' : WarningState}
    (hs : s = .shown → s' = .shown)
    (h : s.afterAction (action ⟨settings, m, limit⟩ s) = .shown) :
    s'.afterAction (action ⟨settings, n, limit⟩ s') = .shown := by
  have hkept (hnot : hasCooled n (some (limit.value : Value)) settings.thermalClearPolicy
      settings.thermalClearMargin ≠ .ok true) :
      WarningState.shown.afterAction (action ⟨settings, n, limit⟩ .shown) = .shown := by
    rw [action_shown, if_neg hnot]
    rfl
  cases s with
  | hidden =>
    rw [action_hidden hm] at h
    by_cases hhot : settings.showTemperatureWarning.truth = true ∧ (limit.value : Number) ≤ m
    · -- The cooler one is raised at this poll, while the hotter one may have been so long before.
      have hreaches := Number.le_trans hhot.2 hle
      cases s' with
      | hidden =>
        rw [action_hidden hn, if_pos ⟨hhot.1, hreaches⟩]
        rfl
      | shown => exact hkept fun hcooled => not_le_of_hasCooled hn hcooled hreaches
    · rw [if_neg hhot] at h
      cases h
  | shown =>
    obtain rfl := hs rfl
    refine hkept fun hcooled => ?_
    rw [action_shown, if_pos (hasCooled_of_le hm hn hle hcooled)] at h
    cases h

end Resolution

/-! ## Pairs of polls -/

/-- A temperature that is a number but NaN is there. -/
theorem Value.IsDegrees.isMissing_eq_false {n : Number} (h : (n : Value).IsDegrees)
    (hnumber : n.isNaN = false) : (n : Value).isMissing = .ok false := by
  obtain ⟨missing, hmissing⟩ := h.2
  rcases Section.isMissing_cases h.1 hmissing with ⟨-, hnone⟩ | ⟨-, -, hthere, -⟩
  · simp [Value.present?, hnumber] at hnone
  · exact hthere

namespace ThermalReadings

/-- Whether the temperature source of a poll has no temperature: it fails, or answers null or
NaN. -/
def LacksTemperature (readings : ThermalReadings) : Prop :=
  ∀ v, readings.current = .ok v → v = .null ∨ v = Binary64.nan

/-- Whether two polls have the same settings and the same shutdown temperature, and neither has a
temperature, or the second has one that is at least as high as the first. -/
structure IsCoolerThan (a b : ThermalReadings) : Prop where
  settings : a.settings = b.settings
  shutdown : a.shutdown = b.shutdown
  current : a.LacksTemperature ∧ b.LacksTemperature ∨
    ∃ m n : Number, a.current = .ok m ∧ b.current = .ok n ∧
      (m : Value).IsDegrees ∧ (n : Value).IsDegrees ∧ m ≤ n

variable {a b readings : ThermalReadings}

theorem LacksTemperature.isNumeric (h : readings.LacksTemperature) : readings.IsNumeric := by
  intro v hv
  rcases h v hv with rfl | rfl
  · exact .inl rfl
  · exact .inr ⟨_, rfl⟩

theorem LacksTemperature.isGap (h : readings.LacksTemperature) : readings.IsGap := by
  refine .inl fun v hv => ?_
  unfold Section.temperatureFrom at hv
  split at hv
  · obtain rfl := Except.ok.inj hv
    rfl
  · rcases h v hv with rfl | rfl
    · rfl
    · rfl

theorem IsCoolerThan.isNumeric (h : a.IsCoolerThan b) : a.IsNumeric ∧ b.IsNumeric := by
  rcases h.current with ⟨ha, hb⟩ | ⟨m, n, hm, hn, -⟩
  · exact ⟨ha.isNumeric, hb.isNumeric⟩
  · exact ⟨fun v hv => .inr ⟨m, Except.ok.inj (hv.symm.trans hm)⟩,
      fun v hv => .inr ⟨n, Except.ok.inj (hv.symm.trans hn)⟩⟩

/-- A poll with a temperature and a threshold has them as its resolution. -/
theorem resolution?_eq_some {settings : WarningSettings} {v : Value} {limit : ThermalThreshold}
    (hsettings : Section.settingsFrom readings.settings = .ok settings)
    (hcurrent : readings.current = .ok v) (hmissing : v.isMissing = .ok false)
    (hthreshold : Section.thresholdFrom settings readings = .ok (.ok limit)) :
    readings.resolution? = some ⟨settings, v, limit⟩ := by
  have hread : Section.temperatureFrom readings.current = .ok v := by rw [hcurrent]; rfl
  have hgathered : Section.gathered settings readings = .ok (v, .ok limit) :=
    Section.gathered_eq_ok.2 ⟨hread, hthreshold, _, hmissing⟩
  rw [resolution?, hsettings]
  dsimp only
  rw [hgathered]

/-- Where the cooler of two polls leaves the warning shown, the hotter one does. -/
theorem IsCoolerThan.shown (h : a.IsCoolerThan b) {s s' : WarningState}
    (hs : s = .shown → s' = .shown) (hshown : (a.reaction s).1 = .shown) :
    (b.reaction s').1 = .shown := by
  have hgap (ha : a.IsGap) (hb : b.IsGap) : (b.reaction s').1 = .shown := by
    rw [ha.isInert] at hshown
    rw [hb.isInert]
    exact hs hshown
  rcases h.current with ⟨ha, hb⟩ | ⟨m, n, hm, hn, hmdegrees, hndegrees, hle⟩
  · exact hgap ha.isGap hb.isGap
  · have hsame (settings : WarningSettings) :
        Section.thresholdFrom settings a = Section.thresholdFrom settings b := by
      simp only [Section.thresholdFrom, Section.shutdownFrom, h.shutdown]
    by_cases hresolves : ∃ settings limit, Section.settingsFrom a.settings = .ok settings ∧
        Section.thresholdFrom settings a = .ok (.ok limit)
    · obtain ⟨settings, limit, hsettings, hlimit⟩ := hresolves
      obtain ⟨hmnumber, hnnumber⟩ := Number.isNaN_of_le hle
      have hmpresent := hmdegrees.isMissing_eq_false hmnumber
      have hnpresent := hndegrees.isMissing_eq_false hnnumber
      have ha := resolution?_eq_some hsettings hm hmpresent hlimit
      have hb := resolution?_eq_some (h.settings ▸ hsettings) hn hnpresent (hsame settings ▸ hlimit)
      simp only [reaction, ha, hb, Option.bind_some] at hshown ⊢
      exact Resolution.shown_of_le hmpresent hnpresent hle hs hshown
    · -- Without settings or a threshold neither poll changes anything, however hot it is.
      refine hgap (.inr fun settings hsettings limit hlimit => ?_)
        (.inr fun settings hsettings limit hlimit => ?_)
      · exact hresolves ⟨settings, limit, hsettings, hlimit⟩
      · exact hresolves ⟨settings, limit, h.settings ▸ hsettings, hsame settings ▸ hlimit⟩

end ThermalReadings

namespace Engine

/-- Of two runs of new engines, poll by poll under the same settings and with the same shutdown
temperatures, let the second be at least as hot as the first wherever they have a temperature. Then,
up to any number of polls, the overheating warning is shown in the second if it is shown in the
first, whatever the settings, and whatever the battery side, the clocks and the callbacks do. -/
theorem fresh_runs_shown_of_cooler (clock clock' : Binary64) (callbacks callbacks' : List Callback)
    {ticks ticks' : List Tick}
    (h : List.Forall₂ (fun t u => t.readings.thermal.IsCoolerThan u.readings.thermal) ticks ticks')
    (n : Nat)
    (hshown : ((fresh clock callbacks).run (ticks.take n)).engine.state.thermalWarning = .shown) :
    ((fresh clock' callbacks').run (ticks'.take n)).engine.state.thermalWarning = .shown := by
  have htake := List.forall₂_take n h
  obtain ⟨hleft, hright⟩ := mem_of_forall₂ htake
  have hnumeric : ∀ t ∈ ticks.take n, t.readings.thermal.IsNumeric := by
    intro t ht
    obtain ⟨u, -, hcooler⟩ := hleft t ht
    exact hcooler.isNumeric.1
  have hnumeric' : ∀ u ∈ ticks'.take n, u.readings.thermal.IsNumeric := by
    intro u hu
    obtain ⟨t, -, hcooler⟩ := hright u hu
    exact hcooler.isNumeric.2
  have hreactions : List.Forall₂
      (fun r r' : Reaction WarningState =>
        ∀ s s', (s = .shown → s' = .shown) → (r s).1 = .shown → (r' s').1 = .shown)
      ((ticks.take n).map fun t => t.readings.thermal.reaction)
      ((ticks'.take n).map fun t => t.readings.thermal.reaction) := by
    rw [List.forall₂_map_left_iff, List.forall₂_map_right_iff]
    exact htake.imp fun _ _ hcooler _ _ => hcooler.shown
  have hrelated := Reaction.run_related hreactions fun h : WarningState.hidden = .shown => h
  rw [fresh_run_thermal clock callbacks hnumeric,
    fresh_run_thermal clock' callbacks' hnumeric'] at hrelated
  exact hrelated hshown

/-- With a limit of 45 degrees and a margin of 2, a device that goes from 44 to 46 degrees and back
has its warning shown, and so has one that is at 46 degrees at once and goes to 44. -/
theorem fresh_runs_shown_of_cooler_dead_band :
    let tick (temperature : Int) : Tick := .ofTemperature
      { warningTemperature := 45, thermalClearMargin := Binary64.ofInt 2 }
      (.number (.integer temperature))
    ((fresh .zero []).run [tick 44, tick 46, tick 44]).engine.state.thermalWarning = .shown ∧
      ((fresh .zero []).run [tick 46, tick 46, tick 44]).engine.state.thermalWarning = .shown := by
  intro tick
  have hcooler {m n : Int} (hm : fitsWord m = true) (hn : fitsWord n = true) (hle : m ≤ n) :
      (tick m).readings.thermal.IsCoolerThan (tick n).readings.thermal := by
    have hdegrees {k : Int} (hk : fitsWord k = true) : (Value.number (.integer k)).IsDegrees :=
      ⟨.inr ⟨_, rfl⟩, false, if_pos hk⟩
    exact ⟨rfl, rfl, .inr ⟨_, _, rfl, rfl, hdegrees hm, hdegrees hn,
      Number.integer_le_integer.2 hle⟩⟩
  have hticks : List.Forall₂ (fun t u => t.readings.thermal.IsCoolerThan u.readings.thermal)
      [tick 44, tick 46, tick 44] [tick 46, tick 46, tick 44] := by
    refine .cons (hcooler ?_ ?_ ?_) (.cons (hcooler ?_ ?_ ?_) (.cons (hcooler ?_ ?_ ?_) .nil))
    all_goals decide
  have hshown :
      ((fresh .zero []).run [tick 44, tick 46, tick 44]).engine.state.thermalWarning = .shown := by
    decide +kernel
  have hhotter := fresh_runs_shown_of_cooler .zero .zero [] [] hticks 3
  simp only [List.take_succ_cons, List.take_zero] at hhotter
  exact ⟨hshown, hhotter hshown⟩

end Engine

end DeviceWarnings
