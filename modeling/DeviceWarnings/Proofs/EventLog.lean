import DeviceWarnings.Proofs.Alternation
import DeviceWarnings.Proofs.Events
import DeviceWarnings.Proofs.Temperatures

/-!
# The event log of a run

The kept events are the last of all events that a run has recorded, and these are its changes on
display with their clocks, one event for each change and in the same order. As long as the charge
levels can be written it does not matter where faults end polls: a poll records what it displays
even then. What was driven out does not come back, so the log is cut from the changes of the whole
run at one place only, and each warning takes turns in it as it does on display.
-/

namespace DeviceWarnings

/-! ## Paths in part -/

namespace WarningState

variable {s last : WarningState}

/-- A path is made up of a path to where it is cut and a path from there. -/
theorem LeadsTo.of_append {first second : List WarningAction}
    (h : s.LeadsTo (first ++ second) last) :
    ∃ middle, s.LeadsTo first middle ∧ middle.LeadsTo second last := by
  induction first generalizing s with
  | nil => exact ⟨s, rfl, h⟩
  | cons action rest ih =>
    obtain ⟨hbefore, hrest⟩ := h
    obtain ⟨middle, hfirst, hsecond⟩ := ih hrest
    exact ⟨middle, ⟨hbefore, hfirst⟩, hsecond⟩

/-- No change on a path is followed by the same change again. -/
theorem LeadsTo.isChain {actions : List WarningAction} (h : s.LeadsTo actions last) :
    actions.IsChain (· ≠ ·) := by
  induction actions generalizing s with
  | nil => exact .nil
  | cons action rest ih =>
    cases rest with
    | nil => exact .singleton action
    | cons next more =>
      refine List.isChain_cons_cons.2 ⟨?_, ih h.2⟩
      rintro rfl
      have hfits : WarningState.after action = .before action := h.2.1
      cases action <;> cases hfits

/-- The last changes of a path take turns as well, and end where the path ends. -/
theorem LeadsTo.of_suffix {kept actions : List WarningAction} (h : s.LeadsTo actions last)
    (hsuffix : kept <:+ actions) :
    kept.IsChain (· ≠ ·) ∧ ∀ action ∈ kept.getLast?, last = .after action := by
  obtain ⟨earlier, rfl⟩ := hsuffix
  obtain ⟨middle, -, hkept⟩ := h.of_append
  refine ⟨hkept.isChain, fun action haction => ?_⟩
  rw [hkept.eq_afterAction, haction]
  rfl

end WarningState

/-! ## The log -/

/-- The log of a capacity after some more events is cut from all events so far. -/
theorem keepEvents_keepLast (history made : List WarningEvent) :
    keepEvents (keepLast (some eventCapacity) history) made =
      keepLast (some eventCapacity) (history ++ made) := by
  induction made generalizing history with
  | nil => rw [List.append_nil, keepEvents, List.foldl_nil]
  | cons event rest ih =>
    have hfirst : keepEvents (keepLast (some eventCapacity) history) [event] =
        keepLast (some eventCapacity) (history ++ [event]) := by
      rw [keepEvents, List.foldl_cons, List.foldl_nil, keepLast_append]
    rw [← List.singleton_append, keepEvents_append, hfirst, ih, List.append_assoc]

/-- The changes of one warning among the last changes on display are the last of its changes. -/
theorem actionsOn_suffix {kept changes : List (Channel × WarningAction)} (channel : Channel)
    (h : kept <:+ changes) : actionsOn channel kept <:+ actionsOn channel changes := by
  obtain ⟨earlier, rfl⟩ := h
  exact ⟨actionsOn channel earlier, (actionsOn_append channel earlier kept).symm⟩

/-- The changes that a run displays, in order, each with the clock of its half of the poll. -/
def Engine.calls (e : Engine) (ticks : List Tick) : List (Binary64 × Channel × WarningAction) :=
  e.observe (fun t e => timed t.readings.clock
    (displayChanges (Section.pollOnce t.behaviour t.readings e).effects)) ticks

namespace Engine

theorem calls_concat (e : Engine) (before : List Tick) (t : Tick) :
    e.calls (before ++ [t]) = e.calls before ++ timed t.readings.clock
      (displayChanges (Section.pollOnce t.behaviour t.readings (e.run before).engine).effects) :=
  observe_concat _ e before t

/-- The clocks aside, the calls of a run are its changes on display. -/
theorem calls_changes (e : Engine) (ticks : List Tick) :
    (e.calls ticks).map Prod.snd = displayChanges (e.run ticks).effects := by
  induction ticks using List.reverseRecOn with
  | nil => rfl
  | append_singleton before t ih =>
    have htimed (clock : Channel → Binary64) (changes : List (Channel × WarningAction)) :
        (timed clock changes).map Prod.snd = changes := by
      rw [timed, List.map_map]
      exact List.map_id changes
    rw [calls_concat, List.map_append, htimed, ih, run_concat]
    exact (displayChanges_append _ _).symm

variable (clock : Binary64) (callbacks : List Callback) {ticks : List Tick}

section History

variable (hlevels : ∀ t ∈ ticks, t.readings.HasWritableLevel)

include hlevels

/-- The kept events of a run are the last of a history that tells of all its calls. -/
theorem fresh_run_history :
    ∃ history : List WarningEvent,
      ((fresh clock callbacks).run ticks).engine.events =
          keepLast (some eventCapacity) history ∧
        history.map WarningEvent.change = (fresh clock callbacks).calls ticks := by
  induction ticks using List.reverseRecOn with
  | nil => exact ⟨[], rfl, rfl⟩
  | append_singleton before t ih =>
    obtain ⟨history, hevents, hcalls⟩ := ih fun u hu => hlevels u (List.mem_append_left _ hu)
    obtain ⟨made, hmade, hchanges⟩ := Section.records_pollOnce t.behaviour (hlevels t (by simp))
      ((fresh clock callbacks).run before).engine
    refine ⟨history ++ made, ?_, ?_⟩
    · rw [run_concat]
      change (Section.pollOnce _ _ _).engine.events = _
      rw [hmade, hevents, keepEvents_keepLast]
    · rw [List.map_append, hcalls, hchanges, calls_concat]

/-- The kept events of a run tell of its last calls, with their clocks. -/
theorem fresh_run_events_change :
    ((fresh clock callbacks).run ticks).engine.events.map WarningEvent.change =
      keepLast (some eventCapacity) ((fresh clock callbacks).calls ticks) := by
  obtain ⟨history, hevents, hcalls⟩ := fresh_run_history clock callbacks hlevels
  rw [hevents, map_keepLast, hcalls]

/-- The kept changes of one warning are the last of its changes on display. -/
theorem fresh_run_kept_suffix (channel : Channel) :
    (((fresh clock callbacks).run ticks).engine.events.filter (·.channel = channel)).map
        WarningEvent.action <:+ ((fresh clock callbacks).run ticks).actions channel := by
  have hactions (events : List WarningEvent) :
      (events.filter (·.channel = channel)).map WarningEvent.action =
        actionsOn channel ((events.map WarningEvent.change).map Prod.snd) := by
    simp [actionsOn, List.filter_map, Function.comp_def, WarningEvent.change]
  rw [hactions, fresh_run_events_change clock callbacks hlevels, map_keepLast, calls_changes]
  exact actionsOn_suffix channel (keepLast_suffix _ _)

end History

/-- With numeric temperatures and charge levels that can be written, and wherever faults end polls,
the events that a new engine keeps are the last 200 of the calls that it has made, in order and each
with its clock. So the statistics can be told and count as many events; and in the kept events of
one warning raises and dismissals take turns, and the last of them has led to the state of the
warning. -/
theorem fresh_run_events (hnumeric : ∀ t ∈ ticks, t.readings.thermal.IsNumeric)
    (hlevels : ∀ t ∈ ticks, t.readings.HasWritableLevel) :
    let run := (fresh clock callbacks).run ticks
    let calls := (fresh clock callbacks).calls ticks
    calls.map Prod.snd = displayChanges run.effects ∧
      run.engine.events.map WarningEvent.change = keepLast (some 200) calls ∧
      (∃ statistics, run.engine.statistics = .ok statistics ∧
        statistics.events = min 200 (displayChanges run.effects).length) ∧
      ∀ channel,
        let kept := (run.engine.events.filter (·.channel = channel)).map WarningEvent.action
        kept.IsChain (· ≠ ·) ∧ ∀ action ∈ kept.getLast?, run.engine.state.warning channel =
          .after action := by
  intro run calls
  have hchanges : calls.map Prod.snd = displayChanges run.effects := calls_changes _ _
  have hevents : run.engine.events.map WarningEvent.change = keepLast (some 200) calls :=
    fresh_run_events_change clock callbacks hlevels
  refine ⟨hchanges, hevents, ?_, fun channel => ?_⟩
  · obtain ⟨summary, hsummary⟩ := (fresh_run_hasFigures clock callbacks hnumeric).summary
    refine ⟨_, bind_eq_ok.2 ⟨summary, hsummary, rfl⟩, ?_⟩
    change run.engine.events.length = _
    rw [← List.length_map WarningEvent.change, hevents, length_keepLast, ← hchanges,
      List.length_map]
  · exact (fresh_run_leadsTo clock callbacks fun _ => hlevels).of_suffix
      (fresh_run_kept_suffix clock callbacks hlevels channel)

/-- Two polls that fail at the power supply, at 50 and then at 40 degrees with a limit of 45, leave
the events of a warning that was raised and dismissed. -/
theorem fresh_run_events_failing :
    let tick (clock : Binary64) (temperature : Value) : Tick :=
      { readings :=
          { thermal := ⟨clock, .ok { warningTemperature := 45 }, .ok temperature, .ok .null⟩
            power := ⟨clock, .error (.crash "boom"), ⟨.ok false, .ok .null⟩⟩ } }
    let ticks := [tick (Binary64.ofInt 30) 50, tick (Binary64.ofInt 60) 40]
    ((fresh .zero []).run ticks).engine.events.map WarningEvent.change =
      [(Binary64.ofInt 30, .thermal, .raise), (Binary64.ofInt 60, .thermal, .dismiss)] := by
  intro tick ticks
  have hticks {t : Tick} (ht : t ∈ ticks) :
      t = tick (Binary64.ofInt 30) 50 ∨ t = tick (Binary64.ofInt 60) 40 := by
    simpa [ticks] using ht
  refine (@fresh_run_events .zero [] ticks ?_ ?_).2.1.trans ?_
  · intro t ht v hv
    rcases hticks ht with rfl | rfl
    · obtain rfl := Except.ok.inj hv
      exact .inr ⟨50, rfl⟩
    · obtain rfl := Except.ok.inj hv
      exact .inr ⟨40, rfl⟩
  · intro t ht power hpower
    rcases hticks ht with rfl | rfl
    · cases hpower
    · cases hpower
  · decide +kernel

/-- A raise whose level cannot be written is displayed and leaves no event. -/
theorem not_recorded_of_unwritable :
    ((fresh .zero []).run [.ofPower .beyondWriting]).engine.events.map WarningEvent.change ≠
      keepLast (some 200) ((fresh .zero []).calls [.ofPower .beyondWriting]) := by
  decide +kernel

end Engine

end DeviceWarnings
