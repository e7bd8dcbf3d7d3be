import DeviceWarnings.Proofs.Events
import DeviceWarnings.Proofs.Run

/-!
# Completed and failed polls

A poll is completed, or a fault cuts it off. A completed poll is counted, and then the callbacks
that were registered when it began run once each with its report, up to one whose fault nobody
contains; a failed poll is not counted and runs none. Where the charge level can be written, every
fault comes before anything is done about the battery, because a decision about it is made only if
it can also be told. So a failed poll leaves what is carried of the battery as it was, while the
overheating warning may have changed in its first half, with the display and the events in step.
-/

namespace DeviceWarnings

/-- The run of a callback that an effect is, if it is one. -/
def Effect.run? : Effect → Option (Callback × PollReport)
  | callback registered report _ => some (registered, report)
  | _ => none

/-- The runs of callbacks among some effects, in order. -/
def callbackRuns (effects : List Effect) : List (Callback × PollReport) :=
  effects.filterMap Effect.run?

@[simp] theorem callbackRuns_append (first second : List Effect) :
    callbackRuns (first ++ second) = callbackRuns first ++ callbackRuns second :=
  List.filterMap_append

namespace CallbackBehaviour

variable (behaviour : CallbackBehaviour) (report : PollReport)

/-- The callbacks that are run out of some: all up to the first whose fault nobody contains. -/
def called : List Callback → List Callback
  | [] => []
  | callback :: rest =>
    callback :: if (behaviour callback report).escape.isSome then [] else called rest

/-- How a round of callbacks ends: by the first fault that nobody contains. -/
def roundOutcome (callbacks : List Callback) : Except Fault Unit :=
  (callbacks.findSome? fun callback => (behaviour callback report).escape).elim (.ok ()) .error

variable {behaviour report} {callbacks : List Callback}

/-- Without such a fault all callbacks are run. -/
theorem called_of_contained
    (h : ∀ callback ∈ callbacks, (behaviour callback report).escape = none) :
    behaviour.called report callbacks = callbacks := by
  induction callbacks with
  | nil => rfl
  | cons callback rest ih =>
    rw [called, h callback (by simp), ih fun other hother => h other (by simp [hother])]
    rfl

/-- A round goes to its end exactly if no callback has such a fault. -/
theorem roundOutcome_eq_ok : behaviour.roundOutcome report callbacks = .ok () ↔
    ∀ callback ∈ callbacks, (behaviour callback report).escape = none := by
  rw [← List.findSome?_eq_none_iff, roundOutcome]
  cases callbacks.findSome? fun callback => (behaviour callback report).escape <;> simp

end CallbackBehaviour

/-- A change of a warning leaves it in another state than it was in. -/
theorem WarningState.after_ne_before (action : WarningAction) : after action ≠ before action := by
  cases action <;> decide

namespace Section

variable {α β : Type} {P : Effect → Prop}

/-- A section all of whose effects are of some kind. -/
def Emits (P : Effect → Prop) (s : Section α) : Prop := ∀ e, ∀ effect ∈ (s e).effects, P effect

theorem emits_pure (a : α) : Emits P (Pure.pure a : Section α) := fun _ _ h => nomatch h

theorem emits_engine : Emits P engine := fun _ _ h => nomatch h

theorem emits_ofExcept (outcome : Except Fault α) : Emits P (ofExcept outcome) :=
  fun _ _ h => nomatch h

theorem emits_modify (change : Engine → Engine) : Emits P (modify change) := fun _ _ h => nomatch h

theorem emits_perform {effect : Effect} (h : P effect) : Emits P (perform effect) := by
  intro e made hmade
  obtain rfl : made = effect := List.mem_singleton.1 hmade
  exact h

/-- A sequence has effects of the kinds of its parts. -/
theorem Emits.bind {first : Section α} {next : α → Section β} (hfirst : Emits P first)
    (hnext : ∀ a, Emits P (next a)) : Emits P (first >>= next) := by
  intro e effect
  cases h : (first e).outcome with
  | error fault =>
    rw [bind_apply_of_error h]
    exact hfirst e effect
  | ok a =>
    rw [bind_apply_of_ok h]
    intro heffect
    rcases List.mem_append.1 heffect with hold | hnew
    · exact hfirst e effect hold
    · exact hnext a (first e).engine effect hnew

theorem emits_forM (items : List α) {step : α → Section Unit} (h : ∀ a, Emits P (step a)) :
    Emits P (items.forM step) := by
  induction items with
  | nil => exact emits_pure ()
  | cons item rest ih => exact (h item).bind fun _ => ih

theorem emits_optionForM (item : Option α) {step : α → Section Unit} (h : ∀ a, Emits P (step a)) :
    Emits P (item.forM step) := by
  cases item with
  | none => exact emits_pure ()
  | some a => exact h a

/-! ## The effects of a poll -/

theorem emits_readTemperature (answer : Except Fault Value) :
    Emits P (readTemperature answer) := by
  unfold readTemperature
  split
  · exact (emits_modify _).bind fun _ => emits_pure _
  · exact emits_ofExcept _

theorem emits_readPower (answer : Except Fault (Option PowerState)) :
    Emits P (readPower answer) := by
  unfold readPower
  split
  · exact (emits_modify _).bind fun _ => emits_pure _
  · exact (emits_modify _).bind fun _ => emits_pure _
  · exact emits_ofExcept _

theorem emits_readShutdown (settings : WarningSettings) (readings : ThermalReadings) :
    Emits P (readShutdown settings readings) := by
  refine (emits_ofExcept _).bind fun reads => ?_
  split
  · exact emits_readTemperature _
  · exact emits_pure _

section Kinds

variable (hproblem : ∀ record : LogRecord, record.level ≠ .info → P (.log record))

include hproblem

theorem emits_readSettings (answer : Except Fault WarningSettings) :
    Emits P (readSettings answer) := by
  unfold readSettings
  split
  · exact (emits_perform (hproblem _ (by simp))).bind fun _ => emits_pure _
  · exact emits_ofExcept _

theorem emits_warnThreshold (threshold : Except ThresholdProblem ThermalThreshold) :
    Emits P (warnThreshold threshold) := by
  unfold warnThreshold
  split
  · exact emits_optionForM _ fun _ => emits_perform (hproblem _ (by simp))
  · exact emits_pure ()

variable (hpresent : ∀ channel action, P (.present channel action))
  (hevent : ∀ (channel : Channel) (action : WarningAction) (description : Text),
    P (.log ⟨.info, .engine, channel.name ++ " warning " ++ action.name ++ ": " ++ description⟩))

include hpresent hevent

theorem emits_actOnThermal (clock : Binary64) (source : WarningSource) (current : Binary64)
    (decision : ThermalDecision) : Emits P (actOnThermal clock source current decision) := by
  have hchange (action : WarningAction) (description : Text) : Emits P (do
      changeThermal action
      record clock .thermal action description) := by
    refine Emits.bind ?_ fun _ => (emits_modify _).bind fun _ => emits_perform (hevent _ _ _)
    exact (emits_perform (hpresent _ _)).bind fun _ => emits_modify _
  unfold actOnThermal
  split
  · exact (emits_perform (hproblem _ (by simp))).bind fun _ => hchange _ _
  · exact hchange _ _
  · exact emits_pure _

theorem emits_concludeThermal (settings : WarningSettings) (readings : ThermalReadings)
    (gathered : Value × Except ThresholdProblem ThermalThreshold) :
    Emits P (concludeThermal settings readings gathered) := by
  refine emits_engine.bind fun e => (emits_ofExcept _).bind fun decision => ?_
  exact (emits_actOnThermal hproblem hpresent hevent _ _ _ _).bind fun _ => emits_pure _

omit hproblem in
theorem emits_actOnBattery (clock : Binary64) (power : PowerState) (seconds : String)
    (decision : BatteryDecision) : Emits P (actOnBattery clock power seconds decision) := by
  have hrecord (action : WarningAction) (description : Text) :
      Emits P (record clock .battery action description) :=
    (emits_modify _).bind fun _ => emits_perform (hevent _ _ _)
  refine emits_engine.bind fun e => ?_
  split
  · refine (emits_perform (hpresent _ _)).bind fun _ => (emits_ofExcept _).bind fun _ => ?_
    exact hrecord _ _
  · exact (emits_perform (hpresent _ _)).bind fun _ => hrecord _ _
  · exact emits_pure _

omit hproblem in
theorem emits_pollSecond (settings : WarningSettings) (thermal : ThermalDecision)
    (readings : PowerReadings) : Emits P (pollSecond settings thermal readings) := by
  refine Emits.bind ?_ fun battery => ?_
  · refine (emits_readPower _).bind fun power => ?_
    split
    · exact emits_pure _
    · refine Emits.bind ?_ fun _ => emits_pure _
      refine (emits_ofExcept _).bind fun hybrid => emits_engine.bind fun e => ?_
      refine (emits_ofExcept _).bind fun decision => (emits_ofExcept _).bind fun seconds => ?_
      refine (emits_actOnBattery hpresent hevent _ _ _ _).bind fun _ => ?_
      exact (emits_modify _).bind fun _ => emits_pure _
  · exact (emits_modify _).bind fun _ => emits_engine.bind fun _ => emits_pure _

variable (hline : ∀ summary : TemperatureSummary, P (.log ⟨.info, .engine, summary.line⟩))

include hline

omit hproblem hpresent hevent in
theorem emits_noteTemperature (clock : Binary64) (reading : Value) :
    Emits P (noteTemperature clock reading) := by
  have hstatistics : Emits P (logStatistics clock) := by
    refine emits_engine.bind fun e => ?_
    split
    · exact emits_pure ()
    · refine (emits_ofExcept _).bind fun summary => ?_
      refine (emits_optionForM _ fun _ => emits_perform (hline _)).bind fun _ => ?_
      exact emits_modify _
  unfold noteTemperature
  split
  · exact emits_pure ()
  · refine emits_engine.bind fun e => (emits_ofExcept _).bind fun temperatures => ?_
    exact (emits_modify _).bind fun _ => hstatistics

theorem emits_pollFirst (readings : ThermalReadings) : Emits P (pollFirst readings) := by
  refine (emits_readSettings hproblem _).bind fun settings => Emits.bind ?_ fun _ => emits_pure _
  rw [pollThermal_eq]
  refine Emits.bind ?_ fun _ => emits_concludeThermal hproblem hpresent hevent _ _ _
  refine (emits_readTemperature _).bind fun current => ?_
  refine (emits_readShutdown _ _).bind fun shutdown => ?_
  refine (emits_noteTemperature hline _ _).bind fun _ => (emits_ofExcept _).bind fun threshold => ?_
  exact (emits_warnThreshold hproblem _).bind fun _ => emits_pure _

/-- A poll changes the display, and writes log records about problems, events and statistics. -/
theorem emits_poll (readings : Readings) : Emits P (poll readings) :=
  (emits_pollFirst hproblem hpresent hevent hline _).bind fun _ =>
    emits_pollSecond hpresent hevent _ _ _

end Kinds

/-! ## The callbacks -/

theorem Emits.callbackRuns_eq {s : Section α} (h : Emits (fun effect => effect.run? = none) s)
    (e : Engine) : callbackRuns (s e).effects = [] :=
  List.filterMap_eq_nil_iff.2 (h e)

/-- Neither half of a poll runs a callback. -/
theorem pollFirst_callbackRuns (readings : ThermalReadings) (e : Engine) :
    callbackRuns (pollFirst readings e).effects = [] :=
  (emits_pollFirst (fun _ _ => rfl) (fun _ _ => rfl) (fun _ _ _ => rfl) (fun _ => rfl)
    readings).callbackRuns_eq e

theorem pollSecond_callbackRuns (settings : WarningSettings) (thermal : ThermalDecision)
    (readings : PowerReadings) (e : Engine) :
    callbackRuns (pollSecond settings thermal readings e).effects = [] :=
  (emits_pollSecond (fun _ _ => rfl) (fun _ _ _ => rfl) settings thermal readings).callbackRuns_eq e

theorem poll_callbackRuns (readings : Readings) (e : Engine) :
    callbackRuns (poll readings e).effects = [] :=
  (emits_poll (fun _ _ => rfl) (fun _ _ => rfl) (fun _ _ _ => rfl) (fun _ => rfl)
    readings).callbackRuns_eq e

/-- Steps that always end make up a loop that always ends. -/
theorem forM_outcome {step : α → Section Unit} (h : ∀ a e, (step a e).outcome = .ok ())
    (items : List α) (e : Engine) : (items.forM step e).outcome = .ok () := by
  induction items generalizing e with
  | nil => rfl
  | cons item rest ih =>
    change ((step item >>= fun _ => rest.forM step : Section Unit) e).outcome = _
    rw [outcome_bind, h item e]
    exact ih _

/-- A callback is run once, whatever it asks for and however it ends, and only a fault of it that
nobody contains is handed on. -/
theorem runCallback_spec (behaviour : CallbackBehaviour) (report : PollReport)
    (callback : Callback) (e : Engine) :
    (runCallback behaviour report callback e).outcome =
        (behaviour callback report).escape.elim (.ok ()) .error ∧
      callbackRuns (runCallback behaviour report callback e).effects = [(callback, report)] := by
  have hrequests : Emits (fun effect => effect.run? = none)
      ((behaviour callback report).requests.forM request) := by
    refine emits_forM _ fun change e effect heffect => ?_
    obtain ⟨record, -, rfl⟩ := List.mem_map.1 heffect
    rfl
  have hlogged : Emits (fun effect => effect.run? = none)
      ((behaviour callback report).fault.forM fun fault =>
        log .error .engine ("Poll callback error in " ++ callback.name ++ ": " ++ fault.message)) :=
    emits_optionForM _ fun _ => emits_perform rfl
  have hends : ((behaviour callback report).requests.forM request e).outcome = .ok () :=
    forM_outcome (fun _ _ => rfl) _ e
  have hperform : (perform (.callback callback report (behaviour callback report).printed)
      e).outcome = .ok () := rfl
  rw [runCallback, bind_apply_of_ok hperform]
  cases (behaviour callback report).escape with
  | some fault =>
    have hrest := hrequests.bind fun _ => emits_ofExcept (α := Unit) (.error fault)
    constructor
    · change ((_ >>= fun _ => _ : Section Unit) e).outcome = _
      rw [outcome_bind, hends]
      rfl
    · rw [callbackRuns_append]
      exact congrArg ([(callback, report)] ++ ·) (hrest.callbackRuns_eq e)
  | none =>
    have hrest := hrequests.bind fun _ => hlogged
    constructor
    · change ((_ >>= fun _ => _ : Section Unit) e).outcome = _
      rw [outcome_bind, hends]
      cases (behaviour callback report).fault <;> rfl
    · rw [callbackRuns_append]
      exact congrArg ([(callback, report)] ++ ·) (hrest.callbackRuns_eq e)

/-- The callbacks that are registered run once each, in order, up to the first whose fault nobody
contains; this one ends the round. -/
theorem runCallbacks_spec (behaviour : CallbackBehaviour) (report : PollReport) (e : Engine) :
    (runCallbacks behaviour report e).outcome = behaviour.roundOutcome report e.callbacks ∧
      callbackRuns (runCallbacks behaviour report e).effects =
        (behaviour.called report e.callbacks).map (·, report) := by
  have hall (callbacks : List Callback) (e : Engine) :
      (callbacks.forM (runCallback behaviour report) e).outcome =
          behaviour.roundOutcome report callbacks ∧
        callbackRuns (callbacks.forM (runCallback behaviour report) e).effects =
          (behaviour.called report callbacks).map (·, report) := by
    induction callbacks generalizing e with
    | nil => exact ⟨rfl, rfl⟩
    | cons callback rest ih =>
      obtain ⟨houtcome, hruns⟩ := runCallback_spec behaviour report callback e
      change ((runCallback behaviour report callback >>= fun _ =>
          rest.forM (runCallback behaviour report) : Section Unit) e).outcome = _ ∧
        callbackRuns ((runCallback behaviour report callback >>= fun _ =>
          rest.forM (runCallback behaviour report) : Section Unit) e).effects = _
      rw [CallbackBehaviour.roundOutcome, CallbackBehaviour.called, List.findSome?_cons]
      cases hescape : (behaviour callback report).escape with
      | some fault =>
        rw [hescape] at houtcome
        rw [bind_apply_of_error houtcome, hruns]
        exact ⟨rfl, rfl⟩
      | none =>
        rw [hescape] at houtcome
        obtain ⟨hends, hrest⟩ := ih (runCallback behaviour report callback e).engine
        rw [bind_apply_of_ok houtcome, callbackRuns_append, hruns, hrest]
        exact ⟨hends, rfl⟩
  rw [runCallbacks, engine_bind]
  exact hall e.callbacks e

/-! ## Completed polls -/

variable (behaviour : CallbackBehaviour) {readings : Readings} {e : Engine}

theorem keeps_poll_callbacks (readings : Readings) : Keeps Engine.callbacks (poll readings) := by
  refine Keeps.bind ?_ fun first => ?_
  · exact keeps_pollFirst (fun _ _ => rfl) (fun _ _ => rfl) (fun _ _ => rfl) (fun _ _ => rfl)
      (fun _ _ => rfl) _
  · exact keeps_pollSecond (fun _ _ => rfl) (fun _ _ => rfl) (fun _ _ => rfl) (fun _ _ => rfl) _ _ _

theorem pollSecond_pollsCompleted (settings : WarningSettings) (thermal : ThermalDecision)
    (readings : PowerReadings) (e : Engine) :
    (pollSecond settings thermal readings e).engine.pollsCompleted =
      e.pollsCompleted +
        if (pollSecond settings thermal readings e).outcome.isOk then 1 else 0 := by
  have hbattery : Keeps Engine.pollsCompleted (pollBattery settings readings) :=
    keeps_pollBattery (fun _ _ => rfl) (fun _ _ => rfl) (fun _ _ => rfl) _ _
  rw [pollSecond]
  cases h : (pollBattery settings readings e).outcome with
  | error fault =>
    rw [bind_apply_of_error h]
    exact hbattery e
  | ok battery =>
    rw [bind_apply_of_ok h]
    exact congrArg (· + 1) (hbattery e)

/-- A poll is counted exactly if it is completed. -/
theorem poll_pollsCompleted (readings : Readings) (e : Engine) :
    (poll readings e).engine.pollsCompleted =
      e.pollsCompleted + if (poll readings e).outcome.isOk then 1 else 0 := by
  have hfirst : Keeps Engine.pollsCompleted (pollFirst readings.thermal) :=
    keeps_pollFirst (fun _ _ => rfl) (fun _ _ => rfl) (fun _ _ => rfl) (fun _ _ => rfl)
      (fun _ _ => rfl) _
  rw [poll]
  cases h : (pollFirst readings.thermal e).outcome with
  | error fault =>
    rw [bind_apply_of_error h]
    exact hfirst e
  | ok first =>
    rw [bind_apply_of_ok h, ← hfirst e]
    exact pollSecond_pollsCompleted ..

/-- A completed poll reports the state that it leaves. -/
theorem state_of_poll {report : PollReport} (h : (poll readings e).outcome = .ok report) :
    (poll readings e).engine.state = report.state := by
  rw [poll] at h ⊢
  cases hfirst : (pollFirst readings.thermal e).outcome with
  | error fault =>
    rw [bind_apply_of_error hfirst] at h
    cases h
  | ok first =>
    rw [bind_apply_of_ok hfirst] at h ⊢
    obtain ⟨houtcome, hstate, -⟩ :=
      pollSecond_eq first.1 first.2 readings.power (pollFirst readings.thermal e).engine
    obtain ⟨battery, -, rfl⟩ := map_eq_ok.1 (houtcome.symm.trans h)
    exact hstate

/-- A completed poll is counted, and is followed by the callbacks that are registered. -/
theorem pollOnce_of_ok {report : PollReport} (h : (poll readings e).outcome = .ok report) :
    (pollOnce behaviour readings e).outcome =
        (behaviour.roundOutcome report e.callbacks).map (fun _ => report.state) ∧
      (pollOnce behaviour readings e).engine.state = report.state ∧
      (pollOnce behaviour readings e).engine.pollsCompleted = e.pollsCompleted + 1 ∧
      callbackRuns (pollOnce behaviour readings e).effects =
        (behaviour.called report e.callbacks).map (·, report) := by
  have hcompleted := poll_pollsCompleted readings e
  have hstate := (pollOnce_changes behaviour readings e).1.trans (state_of_poll h)
  obtain ⟨houtcome, hruns⟩ := runCallbacks_spec behaviour report (poll readings e).engine
  have hkeeps : Keeps Engine.pollsCompleted (runCallbacks behaviour report) :=
    keeps_runCallbacks (fun _ _ => rfl) _ _
  rw [h] at hcompleted
  rw [keeps_poll_callbacks readings e] at houtcome hruns
  rw [pollOnce, bind_apply_of_ok h] at hstate ⊢
  cases hround : behaviour.roundOutcome report e.callbacks with
  | error fault =>
    rw [hround] at houtcome
    rw [bind_apply_of_error houtcome] at hstate ⊢
    refine ⟨rfl, hstate, (hkeeps _).trans hcompleted, ?_⟩
    rw [callbackRuns_append, poll_callbackRuns, hruns]
    rfl
  | ok =>
    rw [hround] at houtcome
    rw [bind_apply_of_ok houtcome] at hstate ⊢
    refine ⟨rfl, hstate, (hkeeps _).trans hcompleted, ?_⟩
    rw [callbackRuns_append, poll_callbackRuns, callbackRuns_append, hruns]
    exact List.append_nil _

/-! ## Failed polls -/

/-- A failed poll is not counted and is followed by no callback. -/
theorem pollOnce_of_error {fault : Fault} (h : (poll readings e).outcome = .error fault) :
    (pollOnce behaviour readings e).outcome = .error fault ∧
      (pollOnce behaviour readings e).engine.pollsCompleted = e.pollsCompleted ∧
      callbackRuns (pollOnce behaviour readings e).effects = [] := by
  have hcompleted := poll_pollsCompleted readings e
  rw [h] at hcompleted
  rw [pollOnce, bind_apply_of_error h]
  exact ⟨rfl, hcompleted, poll_callbackRuns readings e⟩

/-- A poll that fails, with a charge level that can be written if it was told one, has carried,
displayed and recorded nothing about the battery; it has not been counted, and no callback was run.
The overheating warning has changed exactly if one change of it was displayed and one event of it
recorded. -/
theorem failed_pollOnce (hlevel : readings.HasWritableLevel) {fault : Fault}
    (h : (poll readings e).outcome = .error fault) :
    let progress := pollOnce behaviour readings e
    progress.outcome = .error fault ∧
      (progress.engine.state.previous = e.state.previous ∧
        progress.engine.state.batteryWarning = e.state.batteryWarning ∧
        actionsOn .battery (displayChanges progress.effects) = [] ∧
        progress.engine.pollsCompleted = e.pollsCompleted ∧
        callbackRuns progress.effects = []) ∧
      ∃ made, progress.engine.events = keepEvents e.events made ∧
        made.map WarningEvent.change = timed readings.clock (displayChanges progress.effects) ∧
        (∀ event ∈ made, event.channel = .thermal) ∧
        (progress.engine.state.thermalWarning ≠ e.state.thermalWarning ↔
          (actionsOn .thermal (displayChanges progress.effects)).length = 1 ∧ made.length = 1) := by
  intro progress
  obtain ⟨houtcome, hcompleted, hruns⟩ := pollOnce_of_error behaviour h
  obtain ⟨hstate, hchanges⟩ := pollOnce_changes behaviour readings e
  obtain ⟨hcarried, hshown⟩ := poll_spec readings e
  obtain ⟨other, hbattery⟩ := batteryOutcome_of_error h
  obtain ⟨made, hevents, hmade⟩ := records_pollOnce behaviour hlevel e
  have hnone : pollShown readings e .battery = none := by
    rw [pollShown_eq_pollAction fun _ => hlevel, pollAction, hbattery]
    rfl
  rw [hbattery] at hcarried
  rw [hnone] at hshown
  have hafter : progress.engine.state =
      e.state.change .thermal (thermalAction readings.thermal e) := hstate.trans hcarried
  have hdisplay : displayChanges progress.effects =
      (thermalAction readings.thermal e).toList.map (.thermal, ·) :=
    (hchanges.trans hshown).trans (List.append_nil _)
  have hlength : made.length = (displayChanges progress.effects).length := by
    simpa [timed] using congrArg List.length hmade
  refine ⟨houtcome, ⟨by rw [hafter]; rfl, by rw [hafter]; rfl, ?_, hcompleted, hruns⟩, made,
    hevents, hmade, ?_, ?_⟩
  · rw [hdisplay, actionsOn_option]
    rfl
  · intro event hevent
    have hchange : event.change ∈ timed readings.clock (displayChanges progress.effects) :=
      hmade ▸ List.mem_map_of_mem hevent
    rw [hdisplay] at hchange
    simp only [timed, List.mem_map] at hchange
    obtain ⟨_, ⟨action, -, rfl⟩, heq⟩ := hchange
    exact (congrArg (·.2.1) heq).symm
  · rw [hlength, hdisplay, actionsOn_option, if_pos rfl, hafter, List.length_map, and_self]
    cases haction : thermalAction readings.thermal e with
    | none => simp [PollState.change, WarningState.afterAction]
    | some action =>
      have hbefore : e.state.thermalWarning = .before action := by
        exact @state_of_pollShown readings e .thermal action haction
      change WarningState.after action ≠ e.state.thermalWarning ↔ _
      rw [hbefore]
      simp [WarningState.after_ne_before]

/-- At 50 degrees with a limit of 45 a hybrid estimate that is no number fails the poll after the
overheating warning was raised, with one event, and leaves the battery as it was. -/
theorem failed_pollOnce_hot :
    let readings : Readings :=
      { thermal := ⟨.zero, .ok { warningTemperature := 45 }, .ok 50, .ok .null⟩
        power := ⟨.zero, .ok (some { level := 9 }), ⟨.ok true, .ok .null⟩⟩ }
    let e : Engine := .new .zero
    let progress := pollOnce (fun _ _ => {}) readings e
    progress.outcome = .error (.notFixed .null) ∧
      progress.engine.state.batteryWarning = e.state.batteryWarning ∧
      progress.engine.state.thermalWarning = .shown ∧
      ∃ made, progress.engine.events = keepEvents e.events made ∧ made.length = 1 := by
  intro readings e
  dsimp only
  have hfails : (poll readings e).outcome = .error (.notFixed .null) := by decide +kernel
  have hlevel : readings.HasWritableLevel := by
    intro power hpower
    cases hpower
    exact Value.isWritable_integer (by decide +kernel)
  have hshown : (pollOnce (fun _ _ => {}) readings e).engine.state.thermalWarning = .shown := by
    decide +kernel
  obtain ⟨houtcome, ⟨-, hbattery, -⟩, made, hevents, -, -, hchanged⟩ :=
    failed_pollOnce (fun _ _ => {}) hlevel hfails
  have hdiffers : WarningState.shown ≠ e.state.thermalWarning := by decide
  rw [hshown] at hchanged
  exact ⟨houtcome, hbattery, hshown, made, hevents, (hchanged.1 hdiffers).2⟩

/-- A level that cannot be written fails the poll after the battery warning was put on display. -/
theorem not_untouched_of_unwritable :
    let readings := (Tick.ofPower .beyondWriting).readings
    (poll readings (.new .zero)).outcome = .error .unwritable ∧
      actionsOn .battery
        (displayChanges (pollOnce (fun _ _ => {}) readings (.new .zero)).effects) ≠ [] := by
  decide +kernel

end Section

end DeviceWarnings
