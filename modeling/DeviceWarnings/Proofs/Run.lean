import DeviceWarnings.Proofs.Poll
import Mathlib.Data.List.Induction

/-!
# Runs of polls

A run takes an engine through any number of polls with their callbacks, one after the other. The
sources may answer anything at each poll, faults included, and a poll that a fault ends is
followed by the next one all the same. Besides the engine and all effects a run remembers the
power states on which the battery section has decided; a poll whose power reading failed, or that
ended before the decision, leaves none.

What one poll does to the carried state and to the display is said once, by `poll_spec`, and
properties of runs are derived from it by `run_induction`.
-/

namespace DeviceWarnings

/-- A tick of an engine: what the sources answer in one poll, and what its callbacks do. -/
structure Tick where
  readings : Readings
  behaviour : CallbackBehaviour := fun _ _ => {}

/-- A tick with default settings that reads nothing but the power supply. -/
def Tick.ofPower (power : PowerState) : Tick where
  readings :=
    { thermal := ⟨.zero, .ok {}, .ok .null, .ok .null⟩
      power := ⟨.zero, .ok (some power), ⟨.ok false, .ok .null⟩⟩ }

/-- A tick with given settings that reads nothing but a temperature. -/
def Tick.ofTemperature (settings : WarningSettings) (temperature : Value) : Tick where
  readings :=
    { thermal := ⟨.zero, .ok settings, .ok temperature, .ok .null⟩
      power := ⟨.zero, .ok none, ⟨.ok false, .ok .null⟩⟩ }

/-- The power state on which a poll decides, if its battery section is completed with one. -/
def Readings.decidedOn (readings : Readings) (e : Engine) : Option PowerState :=
  match (Section.poll readings e).outcome, Section.powerFrom readings.power.power with
  | .ok report, .ok power => if report.battery.isSome then power else none
  | _, _ => none

namespace Section

/-- A poll decides on a power state exactly if its battery section makes a decision on it. -/
theorem decidedOn_eq_some {readings : Readings} {e : Engine} {power : PowerState} :
    readings.decidedOn e = some power ↔
      ∃ decision, batteryOutcome readings e = .ok (some (power, decision)) := by
  have hreport := poll_outcome readings e
  rw [Readings.decidedOn]
  cases hbattery : batteryOutcome readings e with
  | error fault =>
    rw [hbattery] at hreport
    cases houtcome : (poll readings e).outcome with
    | error fault => simp
    | ok report =>
      rw [houtcome] at hreport
      cases hreport
  | ok made =>
    rw [hbattery] at hreport
    cases houtcome : (poll readings e).outcome with
    | error fault =>
      rw [houtcome] at hreport
      cases hreport
    | ok report =>
      rw [houtcome] at hreport
      have hmade : report.battery = made.map Prod.snd := Except.ok.inj hreport
      cases made with
      | none =>
        cases powerFrom readings.power.power <;> simp [hmade]
      | some pair =>
        obtain ⟨settings, thermal, -, hpower, -⟩ := batteryOutcome_eq_some.1 hbattery
        simp [hpower, hmade, Prod.ext_iff]

/-- Without a decision the battery section carries nothing. -/
theorem afterBattery_of_none {readings : Readings} {e : Engine} (h : readings.decidedOn e = none)
    (state : PollState) : afterBattery state (batteryOutcome readings e) = state := by
  unfold afterBattery
  split
  case h_1 power decision houtcome =>
    rw [decidedOn_eq_some.2 ⟨decision, houtcome⟩] at h
    cases h
  case h_2 => rfl

end Section

/-- A run so far: the engine, all effects in order, and the power states decided on. -/
structure Run where
  engine : Engine
  effects : List Effect := []
  powers : List PowerState := []

/-- A run after one more poll with its callbacks. -/
def Run.tick (run : Run) (t : Tick) : Run :=
  let progress := Section.pollOnce t.behaviour t.readings run.engine
  { engine := progress.engine
    effects := run.effects ++ progress.effects
    powers := run.powers ++ (t.readings.decidedOn run.engine).toList }

/-- The changes of one warning that a run has put on display, in order. -/
def Run.actions (run : Run) (channel : Channel) : List WarningAction :=
  actionsOn channel (displayChanges run.effects)

namespace Engine

/-- The run of an engine through some ticks. -/
def run (e : Engine) (ticks : List Tick) : Run := ticks.foldl Run.tick { engine := e }

/-- A new engine with some callbacks registered. -/
def fresh (clock : Binary64) (callbacks : List Callback) : Engine := { new clock with callbacks }

theorem run_concat (e : Engine) (ticks : List Tick) (t : Tick) :
    e.run (ticks ++ [t]) = (e.run ticks).tick t := by
  simp [run]

/-- The engine of a run depends on the engine alone from which it goes on. -/
theorem foldl_tick_engine (run : Run) (ticks : List Tick) :
    (ticks.foldl Run.tick run).engine = (run.engine.run ticks).engine := by
  induction ticks generalizing run with
  | nil => rfl
  | cons t rest ih =>
    have hfirst : (run.tick t).engine = (({ engine := run.engine } : Run).tick t).engine := rfl
    change (rest.foldl Run.tick (run.tick t)).engine =
      (rest.foldl Run.tick (({ engine := run.engine } : Run).tick t)).engine
    rw [ih, ih, hfirst]

/-- What is seen in a run, tick by tick, of the engine that each tick starts from. -/
def observe {α : Type} (view : Tick → Engine → List α) (e : Engine) : List Tick → List α
  | [] => []
  | t :: rest =>
    view t e ++ observe view (Section.pollOnce t.behaviour t.readings e).engine rest

theorem observe_concat {α : Type} (view : Tick → Engine → List α) (e : Engine)
    (ticks : List Tick) (t : Tick) :
    e.observe view (ticks ++ [t]) = e.observe view ticks ++ view t (e.run ticks).engine := by
  induction ticks generalizing e with
  | nil => exact List.append_nil _
  | cons u rest ih =>
    have hrest : (e.run (u :: rest)).engine =
        ((Section.pollOnce u.behaviour u.readings e).engine.run rest).engine :=
      foldl_tick_engine (({ engine := e } : Run).tick u) rest
    rw [List.cons_append, observe, observe, ih, hrest, List.append_assoc]

/-- What holds before a run and is kept by each of its ticks holds after it. -/
theorem run_induction {e : Engine} {motive : List Tick → Run → Prop} {ticks : List Tick}
    (hnil : motive [] { engine := e })
    (htick : ∀ before run, ∀ t ∈ ticks, motive before run → motive (before ++ [t]) (run.tick t)) :
    motive ticks (e.run ticks) := by
  induction ticks using List.reverseRecOn with
  | nil => exact hnil
  | append_singleton before t ih =>
    have hbefore : motive before (e.run before) :=
      ih fun earlier run u hu => htick earlier run u (List.mem_append_left _ hu)
    rw [run_concat]
    exact htick before (e.run before) t (by simp) hbefore

end Engine

namespace Section

/-- The callbacks of a poll change neither the carried state nor the display. -/
theorem pollOnce_changes (behaviour : CallbackBehaviour) (readings : Readings) (e : Engine) :
    (pollOnce behaviour readings e).engine.state = (poll readings e).engine.state ∧
      displayChanges (pollOnce behaviour readings e).effects =
        displayChanges (poll readings e).effects := by
  rw [pollOnce]
  cases h : (poll readings e).outcome with
  | error fault =>
    rw [bind_apply_of_error h]
    exact ⟨rfl, rfl⟩
  | ok report =>
    have hquiet : Quiet (do runCallbacks behaviour report; return report.state) :=
      (quiet_runCallbacks behaviour report).bind fun _ => quiet_pure _
    obtain ⟨hstate, hchanges⟩ := hquiet (poll readings e).engine
    rw [bind_apply_of_ok h]
    exact ⟨hstate, by rw [displayChanges_append, hchanges, List.append_nil]⟩

end Section

namespace Run

variable (run : Run) (t : Tick)

theorem tick_state :
    (run.tick t).engine.state = (Section.poll t.readings run.engine).engine.state :=
  (Section.pollOnce_changes t.behaviour t.readings run.engine).1

/-- A tick puts on display what its poll does. -/
theorem tick_actions (channel : Channel) :
    (run.tick t).actions channel =
      run.actions channel ++ (Section.pollShown t.readings run.engine channel).toList := by
  have hchanges := (Section.pollOnce_changes t.behaviour t.readings run.engine).2
  simp only [tick, actions, displayChanges_append, actionsOn_append, hchanges,
    Section.poll_actionsOn]

end Run

end DeviceWarnings
