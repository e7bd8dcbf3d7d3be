import DeviceWarnings.Proofs.Run

/-!
# Warnings take turns

Each warning is raised and dismissed in turn, beginning with a raise, whatever the sources answer
and wherever faults end polls; the battery warning, as long as the charge levels can be written. The
invariant joins the display with the carried state: the changes displayed so far lead from a hidden
warning to the state that is carried. One poll prolongs this path by what it displays, because it
carries a change exactly when it has displayed it, and displays only a change that fits the state it
starts in. A raise whose level cannot be written is displayed and not carried, and the next poll
displays it again.
-/

namespace DeviceWarnings

/-- Whether changes lead a warning from one state to another, each of them from the state that the
one before has left. -/
def WarningState.LeadsTo (s : WarningState) : List WarningAction → WarningState → Prop
  | [], last => s = last
  | action :: rest, last => s = .before action ∧ LeadsTo (.after action) rest last

/-- Whether changes are raises and dismissals in turn, beginning with a raise. -/
def TakeTurns (actions : List WarningAction) : Prop :=
  ∀ i action, actions[i]? = some action → action = if i % 2 = 0 then .raise else .dismiss

namespace WarningState

/-- Paths are put together where one ends and the other starts. -/
theorem LeadsTo.append {s middle last : WarningState} {first second : List WarningAction}
    (hfirst : s.LeadsTo first middle) (hsecond : middle.LeadsTo second last) :
    s.LeadsTo (first ++ second) last := by
  induction first generalizing s with
  | nil =>
    obtain rfl : s = middle := hfirst
    exact hsecond
  | cons action rest ih => exact ⟨hfirst.1, ih hfirst.2⟩

/-- One change that fits, or none, is a path to the state after it. -/
theorem leadsTo_option {s : WarningState} {action : Option WarningAction}
    (h : ∀ a ∈ action, s = .before a) : s.LeadsTo action.toList (s.afterAction action) := by
  cases action with
  | none => rfl
  | some a => exact ⟨h a rfl, rfl⟩

/-- A path ends in the state after its last change. -/
theorem LeadsTo.eq_afterAction {s last : WarningState} {actions : List WarningAction}
    (h : s.LeadsTo actions last) : last = s.afterAction actions.getLast? := by
  induction actions generalizing s with
  | nil => exact h.symm
  | cons action rest ih =>
    rw [ih h.2, List.getLast?_cons]
    cases rest.getLast? <;> rfl

/-- A path from a hidden warning ends with it shown exactly if its last change is a raise. -/
theorem LeadsTo.shown_iff {last : WarningState} {actions : List WarningAction}
    (h : hidden.LeadsTo actions last) : last = .shown ↔ actions.getLast? = some .raise := by
  rw [h.eq_afterAction]
  cases hlast : actions.getLast? with
  | none => simp [afterAction]
  | some action => cases action <;> simp [afterAction, after]

theorem before_eq_after_iff {a b : WarningAction} :
    WarningState.before a = .after b ↔ WarningState.after a = .before b := by
  cases a <;> cases b <;> simp [before, after]

theorem before_eq_before_iff {a b : WarningAction} :
    WarningState.before a = .before b ↔ WarningState.after a = .after b := by
  cases a <;> cases b <;> simp [before, after]

/-- Along a path every second change starts in the state that the path starts in, and the others
leave it. -/
theorem LeadsTo.getElem? {s last : WarningState} {actions : List WarningAction}
    (h : s.LeadsTo actions last) {i : Nat} {action : WarningAction}
    (hi : actions[i]? = some action) : s = if i % 2 = 0 then .before action else .after action := by
  induction actions generalizing s i with
  | nil => simp at hi
  | cons first rest ih =>
    obtain ⟨hfirst, hrest⟩ := h
    cases i with
    | zero =>
      obtain rfl : first = action := by simpa using hi
      exact hfirst
    | succ i =>
      have hbefore := ih hrest (by simpa using hi)
      rw [hfirst]
      by_cases heven : i % 2 = 0
      · have hodd : (i + 1) % 2 ≠ 0 := by omega
        rw [if_pos heven] at hbefore
        rw [if_neg hodd]
        exact before_eq_after_iff.2 hbefore
      · have hodd : (i + 1) % 2 = 0 := by omega
        rw [if_neg heven] at hbefore
        rw [if_pos hodd]
        exact before_eq_before_iff.2 hbefore

/-- A path from a hidden warning takes turns. -/
theorem LeadsTo.takeTurns {last : WarningState} {actions : List WarningAction}
    (h : hidden.LeadsTo actions last) : TakeTurns actions := by
  intro i action hi
  have hstate := h.getElem? hi
  by_cases heven : i % 2 = 0
  · rw [if_pos heven] at hstate ⊢
    cases action with
    | raise => rfl
    | dismiss => cases hstate
  · rw [if_neg heven] at hstate ⊢
    cases action with
    | raise => cases hstate
    | dismiss => rfl

end WarningState

namespace Section

/-- What one poll displays of a warning leads from the state that was carried before it to the
state that is carried after it. -/
theorem poll_leadsTo {readings : Readings} {channel : Channel}
    (hlevel : channel = .battery → readings.HasWritableLevel) (e : Engine) :
    (e.state.warning channel).LeadsTo
      (actionsOn channel (displayChanges (poll readings e).effects))
      ((poll readings e).engine.state.warning channel) := by
  have hcarried : pollShown readings e channel = pollAction readings e channel := by
    cases channel with
    | thermal => rfl
    | battery => exact pollShown_eq_pollAction (fun _ => hlevel rfl) .battery
  rw [poll_actionsOn, poll_warning, ← hcarried]
  exact WarningState.leadsTo_option fun action haction => state_of_pollShown haction

end Section

namespace Engine

variable (clock : Binary64) (callbacks : List Callback) {ticks : List Tick} {channel : Channel}
  (hlevels : channel = .battery → ∀ t ∈ ticks, t.readings.HasWritableLevel)

include hlevels

/-- The changes of a warning that a run of a new engine has displayed lead from a hidden warning
to the state that is carried. -/
theorem fresh_run_leadsTo :
    WarningState.hidden.LeadsTo (((fresh clock callbacks).run ticks).actions channel)
      (((fresh clock callbacks).run ticks).engine.state.warning channel) := by
  apply run_induction (motive := fun _ run =>
    WarningState.hidden.LeadsTo (run.actions channel) (run.engine.state.warning channel))
  · cases channel <;> rfl
  · intro _ run t ht hpath
    obtain ⟨hstate, hchanges⟩ := Section.pollOnce_changes t.behaviour t.readings run.engine
    simp only [Run.tick, Run.actions, displayChanges_append, actionsOn_append, hchanges, hstate]
    exact hpath.append (Section.poll_leadsTo (fun hbattery => hlevels hbattery t ht) _)

/-- However the sources answer and wherever faults end polls, the changes of a warning that a new
engine displays are raises and dismissals in turn, and after every poll the warning is carried as
shown exactly if the last of them was a raise. For the battery warning the charge levels that are
told have to be such that they can be written. -/
theorem fresh_run_takeTurns :
    TakeTurns (((fresh clock callbacks).run ticks).actions channel) ∧
      (((fresh clock callbacks).run ticks).engine.state.warning channel = .shown ↔
        (((fresh clock callbacks).run ticks).actions channel).getLast? = some .raise) :=
  ⟨(fresh_run_leadsTo clock callbacks hlevels).takeTurns,
    (fresh_run_leadsTo clock callbacks hlevels).shown_iff⟩

omit hlevels

/-- The battery falls into warning and recovers, with a poll in between whose power reading fails:
the warning is raised and dismissed. -/
theorem fresh_run_takeTurns_recovery :
    let ticks : List Tick := [
      .ofPower { bucket := .number (.integer (-1)), level := 9 },
      { readings := ⟨⟨.zero, .ok {}, .ok .null, .ok .null⟩,
          ⟨.zero, .error (.crash "boom"), ⟨.ok false, .ok .null⟩⟩⟩ },
      .ofPower { bucket := 1, level := 40 }]
    ((fresh .zero []).run ticks).actions .battery = [.raise, .dismiss] ∧
      TakeTurns (((fresh .zero []).run ticks).actions .battery) ∧
      (((fresh .zero []).run ticks).engine.state.warning .battery = .shown ↔
        (((fresh .zero []).run ticks).actions .battery).getLast? = some .raise) := by
  intro ticks
  refine ⟨by decide +kernel, fresh_run_takeTurns .zero [] fun _ t ht power hpower => ?_⟩
  simp only [ticks, List.mem_cons, List.not_mem_nil, or_false] at ht
  rcases ht with rfl | rfl | rfl
  · cases hpower
    exact Value.isWritable_integer (by decide +kernel)
  · cases hpower
  · cases hpower
    exact Value.isWritable_integer (by decide +kernel)

/-- A level that cannot be written ends each poll that raises the warning before the warning is
carried, and it is raised a second time. -/
theorem not_takeTurns_of_unwritable :
    ¬(TakeTurns (((fresh .zero []).run
        (List.replicate 2 (.ofPower .beyondWriting))).actions .battery) ∧
      (((fresh .zero []).run
          (List.replicate 2 (.ofPower .beyondWriting))).engine.state.warning .battery = .shown ↔
        (((fresh .zero []).run
          (List.replicate 2 (.ofPower .beyondWriting))).actions .battery).getLast? =
            some .raise)) := by
  have hactions : ((fresh .zero []).run
      (List.replicate 2 (.ofPower .beyondWriting))).actions .battery = [.raise, .raise] := by
    decide +kernel
  rintro ⟨hturns, -⟩
  have hsecond := hturns 1 .raise (by rw [hactions]; rfl)
  cases hsecond

end Engine

end DeviceWarnings
