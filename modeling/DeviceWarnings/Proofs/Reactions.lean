import DeviceWarnings.Proofs.Soundness
import Mathlib.Data.List.Forall2

/-!
# Warnings as machines of their own

Each of the two warnings is carried as a part of the engine that it shares with no other one: the
overheating warning as its state, the low battery warning as its state and the last power reading.
What a poll does about a warning is a reaction: a function from what is carried of it to what is
carried next and to the change that goes on display. A run of polls is then a run of reactions, and
statements about whole runs, and about pairs of runs, come down to statements about reactions.

Which reaction a poll amounts to depends on its readings alone, as long as the kept temperatures are
figures. For the low battery warning the settings that the first half of the poll ends with are one
of its readings.
-/

namespace DeviceWarnings

section Correspondence

variable {α β γ : Type} {R : α → β → Prop} {as : List α} {bs : List β}

/-- Of two lists that correspond, each item of one has one of the other that it corresponds to. -/
theorem mem_of_forall₂ (h : List.Forall₂ R as bs) :
    (∀ a ∈ as, ∃ b ∈ bs, R a b) ∧ ∀ b ∈ bs, ∃ a ∈ as, R a b := by
  induction h with
  | nil => simp
  | cons hfirst _ ih =>
    refine ⟨fun a ha => ?_, fun b hb => ?_⟩
    · rcases List.mem_cons.1 ha with rfl | hrest
      · exact ⟨_, List.mem_cons_self, hfirst⟩
      · obtain ⟨b, hb, hab⟩ := ih.1 a hrest
        exact ⟨b, List.mem_cons_of_mem _ hb, hab⟩
    · rcases List.mem_cons.1 hb with rfl | hrest
      · exact ⟨_, List.mem_cons_self, hfirst⟩
      · obtain ⟨a, ha, hab⟩ := ih.2 b hrest
        exact ⟨a, List.mem_cons_of_mem _ ha, hab⟩

/-- Lists that correspond have the same image where corresponding items do. -/
theorem map_eq_map_of_forall₂ {f : α → γ} {g : β → γ} (hfg : ∀ a b, R a b → f a = g b)
    (h : List.Forall₂ R as bs) : as.map f = bs.map g := by
  induction h with
  | nil => rfl
  | cons hfirst _ ih => rw [List.map_cons, List.map_cons, hfg _ _ hfirst, ih]

end Correspondence

/-- How a warning takes a poll: from what is carried of it to what is carried next, and to the
change that is made. -/
abbrev Reaction (σ : Type) : Type := σ → σ × Option WarningAction

namespace Reaction

variable {σ α : Type}

/-- What is carried after some reactions in a row, and the changes that they make. -/
def run : List (Reaction σ) → σ → σ × List WarningAction
  | [], s => (s, [])
  | r :: rest, s => ((run rest (r s).1).1, (r s).2.toList ++ (run rest (r s).1).2)

theorem run_concat (rs : List (Reaction σ)) (r : Reaction σ) (s : σ) :
    run (rs ++ [r]) s = ((r (run rs s).1).1, (run rs s).2 ++ (r (run rs s).1).2.toList) := by
  induction rs generalizing s with
  | nil => simp [run]
  | cons first rest ih => simp [run, ih]

/-- Whether a reaction does nothing. -/
def IsInert (r : Reaction σ) : Prop := ∀ s, r s = (s, none)

/-- Reactions that do nothing can be left out, wherever they stand. -/
theorem run_filter {reaction : α → Reaction σ} {keep : α → Bool} {items : List α}
    (h : ∀ a ∈ items, keep a = false → (reaction a).IsInert) (s : σ) :
    run ((items.filter keep).map reaction) s = run (items.map reaction) s := by
  induction items generalizing s with
  | nil => rfl
  | cons a rest ih =>
    have hrest := ih fun b hb => h b (List.mem_cons_of_mem a hb)
    cases hkeep : keep a with
    | true => rw [List.filter_cons_of_pos hkeep, List.map_cons, List.map_cons, run, run, hrest]
    | false =>
      have hinert : reaction a s = (s, none) := h a List.mem_cons_self hkeep s
      rw [List.filter_cons_of_neg (by simp [hkeep]), List.map_cons, run, hinert, hrest]
      rfl

/-- A relation that is kept by pairs of reactions is kept by runs of them. -/
theorem run_related {R : σ → σ → Prop} {rs rs' : List (Reaction σ)}
    (h : List.Forall₂ (fun r r' => ∀ s s', R s s' → R (r s).1 (r' s').1) rs rs') {s s' : σ}
    (hs : R s s') : R (run rs s).1 (run rs' s').1 := by
  induction h generalizing s s' with
  | nil => exact hs
  | cons hfirst _ ih => exact ih (hfirst s s' hs)

end Reaction

/-! ## Runs of an engine -/

/-- Whether something is so at every tick of a run, with the engine that the tick finds. -/
def Engine.Throughout (e : Engine) (ticks : List Tick) (P : Tick → Engine → Prop) : Prop :=
  ∀ before t, before ++ [t] <+: ticks → P t (e.run before).engine

namespace Engine

variable {e : Engine} {ticks : List Tick}

/-- What is so of all engines with a property that every tick keeps is so throughout. -/
theorem throughout_of_maintains {inv : Engine → Prop} {P : Tick → Engine → Prop} (he : inv e)
    (hkeeps : ∀ t ∈ ticks, Section.Maintains inv (Section.pollOnce t.behaviour t.readings))
    (h : ∀ t ∈ ticks, ∀ e, inv e → P t e) : e.Throughout ticks P := by
  intro before t hbegins
  have hmem : ∀ u ∈ before ++ [t], u ∈ ticks := fun u hu => hbegins.subset hu
  have hbefore : inv (e.run before).engine := by
    apply run_induction (motive := fun _ run => inv run.engine)
    · exact he
    · intro _ run u hu hrun
      exact hkeeps u (hmem u (List.mem_append_left _ hu)) run.engine hrun
  exact h t (hmem t (by simp)) _ hbefore

theorem Throughout.of_prefix {P : Tick → Engine → Prop} (h : e.Throughout ticks P)
    {first : List Tick} (hbegins : first <+: ticks) : e.Throughout first P :=
  fun before t ht => h before t (ht.trans hbegins)

theorem Throughout.mono {P Q : Tick → Engine → Prop} (h : e.Throughout ticks P)
    (himp : ∀ t ∈ ticks, ∀ e, P t e → Q t e) : e.Throughout ticks Q := by
  intro before t hbegins
  exact himp t (hbegins.subset (by simp)) _ (h before t hbegins)

end Engine

/-- Whether a poll carries, of what is seen in a view, and displays, of one warning, what a reaction
says. -/
def Tick.Follows {σ : Type} (view : PollState → σ) (channel : Channel) (r : Reaction σ) (t : Tick)
    (e : Engine) : Prop :=
  r (view e.state) =
    (view (Section.poll t.readings e).engine.state, Section.pollShown t.readings e channel)

/-- A run whose polls follow reactions throughout is a run of these reactions. -/
theorem Engine.Throughout.run_eq {σ : Type} {view : PollState → σ} {channel : Channel}
    {reaction : Tick → Reaction σ} {e : Engine} {ticks : List Tick}
    (h : e.Throughout ticks fun t => t.Follows view channel (reaction t)) :
    Reaction.run (ticks.map reaction) (view e.state) =
      (view (e.run ticks).engine.state, (e.run ticks).actions channel) := by
  -- From the end, since the engine that the last tick finds is the one that all before have left.
  induction ticks using List.reverseRecOn with
  | nil => rfl
  | append_singleton before t ih =>
    have hbefore := ih (h.of_prefix (List.prefix_append before [t]))
    have hlast := h before t (List.prefix_refl _)
    rw [Engine.run_concat, List.map_append, List.map_singleton, Reaction.run_concat, hbefore,
      Run.tick_state, Run.tick_actions]
    change ((reaction t (view (e.run before).engine.state)).1,
      _ ++ (reaction t (view (e.run before).engine.state)).2.toList) = _
    rw [hlast]

/-! ## The overheating warning -/

namespace ThermalReadings

/-- The reaction of the overheating warning to what its sources answer. -/
def reaction (readings : ThermalReadings) : Reaction WarningState := fun state =>
  let action := readings.resolution?.bind fun r => r.action state
  (state.afterAction action, action)

/-- The settings that the first half of a poll ends with, or why it does not end. -/
def settingsReached (readings : ThermalReadings) : Except Fault WarningSettings := do
  let settings ← Section.settingsFrom readings.settings
  let _ ← Section.gathered settings readings
  return settings

/-- Whether the temperature source of a poll answers a temperature and the settings have a figure as
their margin, if they answer. -/
structure IsRegular (readings : ThermalReadings) : Prop where
  isNumeric : readings.IsNumeric
  margin : ∀ settings, readings.settings = .ok settings → settings.thermalClearMargin.IsFigure

theorem IsRegular.margin_of_settingsFrom {readings : ThermalReadings} (h : readings.IsRegular)
    {settings : WarningSettings}
    (hsettings : Section.settingsFrom readings.settings = .ok settings) :
    settings.thermalClearMargin.IsFigure := by
  rcases Section.settingsFrom_eq_ok.1 hsettings with hanswer | ⟨-, rfl⟩
  · exact h.margin settings hanswer
  · exact WarningSettings.isSound_default.margin

end ThermalReadings

namespace Section

variable {t : Tick} {e : Engine}

theorem follows_thermal (hnumeric : t.readings.thermal.IsNumeric)
    (he : e.temperatures.HasFigures) :
    t.Follows PollState.thermalWarning .thermal t.readings.thermal.reaction e := by
  have hstate : (poll t.readings e).engine.state.thermalWarning =
      e.state.thermalWarning.afterAction (thermalAction t.readings.thermal e) :=
    poll_warning t.readings e .thermal
  rw [Tick.Follows, hstate, pollShown, thermalAction_eq_resolution hnumeric he]
  rfl

end Section

/-! ## The low battery warning -/

/-- What is carried, but for the overheating warning. -/
def PollState.withoutThermal (s : PollState) : PollState := { s with thermalWarning := .hidden }

/-- The reaction of the low battery warning to what its sources answer, under the settings that the
first half of the poll ends with, if it ends. A warning whose level cannot be written is put on
display and not carried. -/
def PowerReadings.reaction (readings : PowerReadings) (settings : Except Fault WarningSettings) :
    Reaction PollState := fun state =>
  match settings with
  | .error _ => (state, none)
  | .ok settings =>
    (Section.afterBattery state (Section.decideBattery settings readings state),
      Section.batteryShown settings readings state)

namespace Section

variable {t : Tick} {e : Engine}

theorem follows_battery {settings : Except Fault WarningSettings}
    (h : (pollFirst t.readings.thermal e).outcome.map Prod.fst = settings) :
    t.Follows PollState.withoutThermal .battery (t.readings.power.reaction settings) e := by
  subst h
  have hafter (action : Option WarningAction)
      (outcome : Except Fault (Option (PowerState × BatteryDecision))) :
      (afterBattery (e.state.change .thermal action) outcome).withoutThermal =
        afterBattery e.state.withoutThermal outcome := by
    unfold afterBattery
    split <;> rfl
  have hstate := congrArg PollState.withoutThermal (poll_spec t.readings e).1
  rw [hafter] at hstate
  rw [Tick.Follows, hstate, pollShown, batteryOutcome]
  cases (pollFirst t.readings.thermal e).outcome with
  | error fault => rfl
  | ok first => rfl

/-- With figures kept and regular readings, the first half of a poll ends with the same settings
from every state. -/
theorem pollFirst_settings {readings : ThermalReadings} (hregular : readings.IsRegular)
    (he : e.temperatures.HasFigures) :
    (pollFirst readings e).outcome.map Prod.fst = readings.settingsReached := by
  rw [pollFirst_outcome, ThermalReadings.settingsReached]
  cases hsettings : settingsFrom readings.settings with
  | error fault => rfl
  | ok settings =>
    change ((pollThermal settings readings e).outcome.map (settings, ·)).map Prod.fst =
      gathered settings readings >>= fun _ => .ok settings
    rw [pollThermal_outcome, gatherThermal_outcome settings hregular.isNumeric he]
    cases hgathered : gathered settings readings with
    | error fault => rfl
    | ok pair =>
      obtain ⟨current, threshold⟩ := pair
      obtain ⟨hcurrent, -, hmissing⟩ := gathered_eq_ok.1 hgathered
      have hdegrees : current.IsDegrees :=
        ⟨isTemperature_of_temperatureFrom hregular.isNumeric hcurrent, hmissing⟩
      -- The state says which rule decides, but both come to a decision.
      have hmargin : (ThermalEvaluator.ofSettings settings).margin.IsFigure :=
        hregular.margin_of_settingsFrom hsettings
      obtain ⟨decision, hdecision⟩ := ThermalEvaluator.succeeds_decision hmargin hdegrees
        threshold.toOption e.state.thermalWarning
      change (((ThermalEvaluator.ofSettings settings).decision current threshold.toOption
        e.state.thermalWarning).map (settings, ·)).map Prod.fst = _
      rw [hdecision]
      rfl

end Section

/-- A tick with a limit of 45 degrees, a temperature and a bucket. -/
def Tick.ofBoth (temperature bucket : Int) : Tick where
  readings :=
    { thermal := ⟨.zero, .ok { warningTemperature := 45 }, .ok (.number (.integer temperature)),
        .ok .null⟩
      power := ⟨.zero, .ok (some { bucket := .number (.integer bucket) }),
        ⟨.ok false, .ok .null⟩⟩ }

theorem Tick.ofBoth_isRegular (temperature bucket : Int) :
    (ofBoth temperature bucket).readings.thermal.IsRegular where
  isNumeric _ hv := .inr ⟨.integer temperature, (Except.ok.inj hv).symm⟩
  margin settings hsettings := by
    obtain rfl := Except.ok.inj hsettings
    exact WarningSettings.isSound_default.margin

/-! ## Runs of a new engine -/

/-- Whether two states carry the same for a warning. -/
def PollState.AgreesWith (a b : PollState) : Channel → Prop
  | .thermal => a.thermalWarning = b.thermalWarning
  | .battery => a.previous = b.previous ∧ a.batteryWarning = b.batteryWarning

/-- Whether two runs have put the same changes of a warning on display, and carry the same for
it. -/
def Run.AgreesWith (a b : Run) (channel : Channel) : Prop :=
  a.actions channel = b.actions channel ∧ a.engine.state.AgreesWith b.engine.state channel

namespace Engine

variable (clock : Binary64) (callbacks : List Callback) {ticks : List Tick}

theorem hasFigures_fresh : (fresh clock callbacks).temperatures.HasFigures := ⟨[], rfl, by simp⟩

/-- A run with numeric temperatures is a run of the reactions of the overheating warning. -/
theorem fresh_run_thermal (hnumeric : ∀ t ∈ ticks, t.readings.thermal.IsNumeric) :
    Reaction.run (ticks.map fun t => t.readings.thermal.reaction) .hidden =
      (((fresh clock callbacks).run ticks).engine.state.thermalWarning,
        ((fresh clock callbacks).run ticks).actions .thermal) := by
  have hfollows := throughout_of_maintains (hasFigures_fresh clock callbacks)
    (fun t ht => Section.maintains_pollOnce (hnumeric t ht))
    fun t ht _ he => Section.follows_thermal (hnumeric t ht) he
  exact hfollows.run_eq

/-- A run is a run of the reactions of the low battery warning under the settings with which the
first halves of its polls end. -/
theorem fresh_run_battery {settings : Tick → Except Fault WarningSettings}
    (h : (fresh clock callbacks).Throughout ticks fun t e =>
      (Section.pollFirst t.readings.thermal e).outcome.map Prod.fst = settings t) :
    Reaction.run (ticks.map fun t => t.readings.power.reaction (settings t)) {} =
      (((fresh clock callbacks).run ticks).engine.state.withoutThermal,
        ((fresh clock callbacks).run ticks).actions .battery) :=
  (h.mono fun _ _ _ => Section.follows_battery).run_eq

/-- In a run with regular readings the first halves end with settings that the readings tell. -/
theorem throughout_settingsReached (hregular : ∀ t ∈ ticks, t.readings.thermal.IsRegular) :
    (fresh clock callbacks).Throughout ticks fun t e =>
      (Section.pollFirst t.readings.thermal e).outcome.map Prod.fst =
        t.readings.thermal.settingsReached :=
  throughout_of_maintains (hasFigures_fresh clock callbacks)
    (fun t ht => Section.maintains_pollOnce (hregular t ht).isNumeric)
    fun t ht _ he => Section.pollFirst_settings (hregular t ht) he

end Engine

namespace Run

variable {a b : Run}

theorem agreesWith_thermal (h : (a.engine.state.thermalWarning, a.actions .thermal) =
    (b.engine.state.thermalWarning, b.actions .thermal)) : a.AgreesWith b .thermal :=
  ⟨congrArg Prod.snd h, congrArg Prod.fst h⟩

theorem agreesWith_battery (h : (a.engine.state.withoutThermal, a.actions .battery) =
    (b.engine.state.withoutThermal, b.actions .battery)) : a.AgreesWith b .battery := by
  obtain ⟨hstate, hactions⟩ := Prod.mk.inj h
  exact ⟨hactions, (PollState.mk.inj hstate).1, (PollState.mk.inj hstate).2.1⟩

end Run

end DeviceWarnings
