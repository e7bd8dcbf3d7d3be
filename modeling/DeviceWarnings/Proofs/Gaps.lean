import DeviceWarnings.Proofs.Reactions

/-!
# Gaps in what is read

A poll that finds no power state does nothing about the low battery warning, and a poll without a
temperature, or without a threshold for it, does nothing about the overheating warning. Since edges
are seen between what is carried and what is read, such polls can be left out of a run, any number
of them and wherever they stand: no edge across a gap is lost, and none is seen twice. A poll whose
settings cannot be used is a poll with default settings.

Leaving out a poll changes what is kept of temperatures, and leaving it out for the sake of one
warning may change the other. Neither matters to the warning that is looked at, as long as all
temperatures are numeric and, for the low battery warning, all margins are figures.
-/

namespace DeviceWarnings

/-- Whether a poll has no temperature, or no threshold for it. -/
def ThermalReadings.IsGap (readings : ThermalReadings) : Prop :=
  (∀ v, Section.temperatureFrom readings.current = .ok v → v.isMissing = .ok true) ∨
    ∀ settings, Section.settingsFrom readings.settings = .ok settings →
      ∀ limit, Section.thresholdFrom settings readings ≠ .ok (.ok limit)

/-- Whether a poll has no power state: its source says so, or is unavailable, or takes too long. -/
def PowerReadings.IsGap (readings : PowerReadings) : Prop :=
  Section.powerFrom readings.power = .ok none

theorem ThermalReadings.IsGap.isInert {readings : ThermalReadings} (h : readings.IsGap) :
    readings.reaction.IsInert := by
  intro state
  have hnone : (readings.resolution?.bind fun r => r.action state) = none := by
    cases hresolution : readings.resolution? with
    | none => rfl
    | some r =>
      obtain ⟨hsettings, hgathered⟩ := gathered_of_resolution hresolution
      obtain ⟨hcurrent, hthreshold, -⟩ := Section.gathered_eq_ok.1 hgathered
      rcases h with hmissing | hlimit
      · change r.action state = none
        rw [Resolution.action, ThermalEvaluator.decision_of_missing (.inl (hmissing _ hcurrent))]
        rfl
      · exact absurd hthreshold (hlimit r.settings hsettings r.threshold)
  rw [reaction, hnone]
  rfl

theorem PowerReadings.IsGap.isInert {readings : PowerReadings} (h : readings.IsGap)
    (settings : Except Fault WarningSettings) : (readings.reaction settings).IsInert := by
  intro state
  cases settings with
  | error fault => rfl
  | ok settings =>
    have hnone : Section.decideBattery settings readings state = .ok none := by
      rw [Section.decideBattery, h]
    have hdark : Section.batteryShown settings readings state = none := by
      rw [Section.batteryShown, h]
    rw [reaction, hnone, hdark]
    rfl

/-! ## Settings that cannot be used -/

/-- The tick with default settings. -/
def Tick.withDefaults (t : Tick) : Tick :=
  { t with
    readings := { t.readings with thermal := { t.readings.thermal with settings := .ok {} } } }

namespace Section

variable {α β : Type}

/-- Whether two sections lead to the same engine and end alike, with the same on display. -/
def SameDisplay (first second : Section α) : Prop :=
  ∀ e, (first e).engine = (second e).engine ∧ (first e).outcome = (second e).outcome ∧
    displayChanges (first e).effects = displayChanges (second e).effects

/-- Sections that go on alike go on to the same. -/
theorem SameDisplay.bind {first second : Section α} (h : first.SameDisplay second)
    (next : α → Section β) : (first >>= next).SameDisplay (second >>= next) := by
  intro e
  obtain ⟨hengine, houtcome, hdisplay⟩ := h e
  cases hfirst : (first e).outcome with
  | error fault =>
    rw [bind_apply_of_error hfirst, bind_apply_of_error (houtcome.symm.trans hfirst)]
    exact ⟨hengine, rfl, hdisplay⟩
  | ok a =>
    rw [bind_apply_of_ok hfirst, bind_apply_of_ok (houtcome.symm.trans hfirst), hengine]
    refine ⟨rfl, rfl, ?_⟩
    rw [displayChanges_append, displayChanges_append, hdisplay]

/-- Settings that cannot be used make a poll with default settings. -/
theorem pollOnce_withDefaults {t : Tick} {problem : SettingsProblem}
    (h : t.readings.thermal.settings = .error (.settings problem)) :
    (pollOnce t.behaviour t.readings).SameDisplay
      (pollOnce t.withDefaults.behaviour t.withDefaults.readings) := by
  have hread : (readSettings t.readings.thermal.settings).SameDisplay (readSettings (.ok {})) := by
    -- All that is different is that the problem is logged.
    rw [h]
    exact fun e => ⟨rfl, rfl, rfl⟩
  exact ((hread.bind _).bind _).bind _

end Section

namespace Run

variable {a b : Run}

/-- Runs that have come to the same engine, with the same on display, go on to the same. -/
theorem foldl_tick_congr (hengine : a.engine = b.engine)
    (hactions : ∀ channel, a.actions channel = b.actions channel) (ticks : List Tick) :
    (ticks.foldl tick a).engine = (ticks.foldl tick b).engine ∧
      ∀ channel, (ticks.foldl tick a).actions channel = (ticks.foldl tick b).actions channel := by
  induction ticks generalizing a b with
  | nil => exact ⟨hengine, hactions⟩
  | cons t rest ih =>
    apply ih
    · rw [tick, tick, hengine]
    · intro channel
      rw [tick_actions, tick_actions, hengine, hactions]

end Run

namespace Tick

/-- A tick in which nothing is available. -/
def blind : Tick where
  readings :=
    { thermal := ⟨.zero, .error (.settings (.reported "bad file")), .ok Binary64.nan, .ok .null⟩
      power := ⟨.zero, .error .timeout, ⟨.ok false, .ok .null⟩⟩ }

theorem blind_isRegular : blind.readings.thermal.IsRegular where
  isNumeric _ hv := .inr ⟨Binary64.nan, (Except.ok.inj hv).symm⟩
  margin := nofun

theorem blind_isGap : blind.readings.power.IsGap ∧ blind.readings.thermal.IsGap := by
  refine ⟨rfl, .inl fun v hv => ?_⟩
  obtain rfl : Binary64.nan = v := Except.ok.inj hv
  rfl

end Tick

namespace Engine

variable (e : Engine) {t : Tick} {problem : SettingsProblem}

/-- In a run, a poll whose settings cannot be used may as well have default settings. -/
theorem run_withDefaults (h : t.readings.thermal.settings = .error (.settings problem))
    (before after : List Tick) :
    (e.run (before ++ t.withDefaults :: after)).engine = (e.run (before ++ t :: after)).engine ∧
      ∀ channel, (e.run (before ++ t.withDefaults :: after)).actions channel =
        (e.run (before ++ t :: after)).actions channel := by
  obtain ⟨hengine, -, hdisplay⟩ := Section.pollOnce_withDefaults h (e.run before).engine
  simp only [run, List.foldl_append, List.foldl_cons]
  apply Run.foldl_tick_congr
  · exact hengine.symm
  · intro channel
    simp only [Run.tick, Run.actions, displayChanges_append]
    rw [← run, ← hdisplay]

variable (clock : Binary64) (callbacks : List Callback) (ticks : List Tick)

/-- Telemetry that is not available leaves no trace. In a run of a new engine with regular readings,
all polls without a power state can be left out, or some of them, and nothing changes about the low
battery warning; with numeric temperatures, the same goes for polls without a temperature or without
a threshold and the overheating warning. Settings that cannot be used may as well be the defaults,
for both warnings and whatever the readings are. -/
theorem fresh_run_without_gaps :
    ((∀ t ∈ ticks, t.readings.thermal.IsRegular) →
      ∀ keep : Tick → Bool, (∀ t ∈ ticks, keep t = false → t.readings.power.IsGap) →
        ((fresh clock callbacks).run (ticks.filter keep)).AgreesWith
          ((fresh clock callbacks).run ticks) .battery) ∧
    ((∀ t ∈ ticks, t.readings.thermal.IsNumeric) →
      ∀ keep : Tick → Bool, (∀ t ∈ ticks, keep t = false → t.readings.thermal.IsGap) →
        ((fresh clock callbacks).run (ticks.filter keep)).AgreesWith
          ((fresh clock callbacks).run ticks) .thermal) ∧
    ∀ before t after, ticks = before ++ t :: after →
      ∀ problem, t.readings.thermal.settings = .error (.settings problem) →
        ∀ channel, ((fresh clock callbacks).run (before ++ t.withDefaults :: after)).AgreesWith
          ((fresh clock callbacks).run ticks) channel := by
  refine ⟨fun hregular keep hgap => ?_, fun hnumeric keep hgap => ?_, ?_⟩
  · have hkept : ∀ t ∈ ticks.filter keep, t.readings.thermal.IsRegular := fun t ht =>
      hregular t (List.mem_filter.1 ht).1
    apply Run.agreesWith_battery
    rw [← fresh_run_battery clock callbacks (throughout_settingsReached clock callbacks hkept),
      ← fresh_run_battery clock callbacks (throughout_settingsReached clock callbacks hregular)]
    exact Reaction.run_filter (fun t ht hkeep => (hgap t ht hkeep).isInert _) _
  · have hkept : ∀ t ∈ ticks.filter keep, t.readings.thermal.IsNumeric := fun t ht =>
      hnumeric t (List.mem_filter.1 ht).1
    apply Run.agreesWith_thermal
    rw [← fresh_run_thermal clock callbacks hkept, ← fresh_run_thermal clock callbacks hnumeric]
    exact Reaction.run_filter (fun t ht hkeep => (hgap t ht hkeep).isInert) _
  · rintro before t after rfl problem hproblem channel
    obtain ⟨hengine, hactions⟩ := run_withDefaults (fresh clock callbacks) hproblem before after
    refine ⟨hactions channel, ?_⟩
    rw [hengine]
    cases channel with
    | thermal => rfl
    | battery => exact ⟨rfl, rfl⟩

/-- Both edges are seen across a blind tick: at 46 and then 44 degrees with a limit of 45, and from
bucket 1 to bucket -1. -/
theorem fresh_run_without_gaps_edges :
    let ticks : List Tick := [.ofBoth 46 1, .blind, .ofBoth 44 (-1)]
    ((fresh .zero []).run ticks).actions .battery = [.raise] ∧
      ((fresh .zero []).run ticks).actions .thermal = [.raise, .dismiss] ∧
      ((fresh .zero []).run [.ofBoth 46 1, Tick.blind.withDefaults, .ofBoth 44 (-1)]).actions
        .battery = [.raise] := by
  intro ticks
  have hticks {t : Tick} (ht : t ∈ ticks) :
      t = .ofBoth 46 1 ∨ t = .blind ∨ t = .ofBoth 44 (-1) := by
    simpa [ticks] using ht
  have hregular : ∀ t ∈ ticks, t.readings.thermal.IsRegular := by
    intro t ht
    rcases hticks ht with rfl | rfl | rfl
    · exact Tick.ofBoth_isRegular _ _
    · exact Tick.blind_isRegular
    · exact Tick.ofBoth_isRegular _ _
  let keep (t : Tick) : Bool := t.readings.power.power.isOk
  have hblind : ∀ t ∈ ticks, keep t = false → t = .blind := by
    intro t ht hkeep
    rcases hticks ht with rfl | rfl | rfl
    · cases hkeep
    · rfl
    · cases hkeep
  obtain ⟨hbattery, hthermal, hsettings⟩ := fresh_run_without_gaps .zero [] ticks
  have hlow := hbattery hregular keep fun t ht hkeep => hblind t ht hkeep ▸ Tick.blind_isGap.1
  have hhot := hthermal (fun t ht => (hregular t ht).isNumeric) keep fun t ht hkeep =>
    hblind t ht hkeep ▸ Tick.blind_isGap.2
  have hdefaults := hsettings [.ofBoth 46 1] .blind [.ofBoth 44 (-1)] rfl _ rfl .battery
  have hraise : ((fresh .zero []).run (ticks.filter keep)).actions .battery = [.raise] := by
    decide +kernel
  have hturns : ((fresh .zero []).run (ticks.filter keep)).actions .thermal =
      [.raise, .dismiss] := by
    decide +kernel
  have hshown := hlow.1.symm.trans hraise
  exact ⟨hshown, hhot.1.symm.trans hturns, hdefaults.1.trans hshown⟩

/-- With a margin that is too large for binary64, a poll without a power state matters to the low
battery warning: it shows the overheating warning, and whether this has cooled is more than the next
poll can say. -/
theorem not_without_gaps :
    ¬∀ (clock : Binary64) (callbacks : List Callback) (ticks : List Tick) (keep : Tick → Bool),
      (∀ t ∈ ticks, keep t = false ↔ t.readings.power.IsGap) →
        ((fresh clock callbacks).run (ticks.filter keep)).AgreesWith
          ((fresh clock callbacks).run ticks) .battery := by
  intro h
  let settings : WarningSettings :=
    { warningTemperature := 45, thermalClearMargin := .number (.integer (10 ^ 400)) }
  let hot (power : Except Fault (Option PowerState)) : Tick :=
    { readings :=
        { thermal := ⟨.zero, .ok settings, .ok 50, .ok .null⟩
          power := ⟨.zero, power, ⟨.ok false, .ok .null⟩⟩ } }
  let gap := hot (.error .timeout)
  let low := hot (.ok (some { bucket := .number (.integer (-1)) }))
  have hagrees := h .zero [] [gap, low] (fun t => t.readings.power.power.isOk) fun t ht => ?_
  · have hkept : ((fresh .zero []).run ([gap, low].filter fun t =>
        t.readings.power.power.isOk)).actions .battery = [.raise] := by decide +kernel
    have hall : ((fresh .zero []).run [gap, low]).actions .battery = [] := by decide +kernel
    rw [Run.AgreesWith, hkept, hall] at hagrees
    cases hagrees.1
  · have hcases : t = gap ∨ t = low := by simpa using ht
    rcases hcases with rfl | rfl
    · exact iff_of_true rfl rfl
    · exact iff_of_false nofun nofun

end Engine

end DeviceWarnings
