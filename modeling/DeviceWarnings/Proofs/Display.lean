import DeviceWarnings.Engine.Monitoring

/-!
# What sections put on display

A section is observed by three things: the carried state it leaves, the changes it puts on
display, and how it ends. The outcome and the changes of a sequence follow from those of its
parts. A quiet section leaves the carried state and the display alone; reading the sources,
keeping a temperature and running the callbacks are all quiet.
-/

namespace DeviceWarnings

/-- The changes on display among some effects, in order. -/
def displayChanges (effects : List Effect) : List (Channel × WarningAction) :=
  effects.filterMap Effect.change?

/-- The changes of one warning among changes on display, in order. -/
def actionsOn (channel : Channel) (changes : List (Channel × WarningAction)) :
    List WarningAction :=
  (changes.filter (·.1 = channel)).map (·.2)

@[simp] theorem displayChanges_append (first second : List Effect) :
    displayChanges (first ++ second) = displayChanges first ++ displayChanges second :=
  List.filterMap_append

@[simp] theorem actionsOn_append (channel : Channel)
    (first second : List (Channel × WarningAction)) :
    actionsOn channel (first ++ second) = actionsOn channel first ++ actionsOn channel second := by
  simp [actionsOn]

theorem mem_actionsOn {channel : Channel} {action : WarningAction}
    {changes : List (Channel × WarningAction)} :
    action ∈ actionsOn channel changes ↔ (channel, action) ∈ changes := by
  simp [actionsOn]

/-- A change of one warning shows on its own channel only. -/
theorem actionsOn_option (channel of : Channel) (action : Option WarningAction) :
    actionsOn channel (action.toList.map (of, ·)) = if of = channel then action.toList else [] := by
  cases action <;> by_cases h : of = channel <;> simp [actionsOn, h]

namespace Section

variable {α β : Type}

/-- A sequence ends as its second part does, which goes on from the engine of the first. -/
theorem outcome_bind (first : Section α) (next : α → Section β) (e : Engine) :
    ((first >>= next) e).outcome =
      (first e).outcome >>= fun a => (next a (first e).engine).outcome := by
  cases h : (first e).outcome with
  | ok a => rw [bind_apply_of_ok h]; rfl
  | error fault => rw [bind_apply_of_error h]; rfl

/-- A value that is already there is handed on. -/
theorem ofExcept_ok_bind (a : α) (next : α → Section β) : (ofExcept (.ok a) >>= next) = next a :=
  rfl

/-- Looking at the engine hands it on. -/
theorem engine_bind (next : Engine → Section β) (e : Engine) : (engine >>= next) e = next e e := rfl

/-- A section that leaves the carried state and the display alone. -/
def Quiet (s : Section α) : Prop :=
  ∀ e, (s e).engine.state = e.state ∧ displayChanges (s e).effects = []

theorem quiet_pure (a : α) : Quiet (Pure.pure a : Section α) := fun _ => ⟨rfl, rfl⟩

theorem quiet_engine : Quiet engine := fun _ => ⟨rfl, rfl⟩

theorem quiet_ofExcept (outcome : Except Fault α) : Quiet (ofExcept outcome) := fun _ => ⟨rfl, rfl⟩

theorem quiet_log (level : LogLevel) (source : LogSource) (message : Text) :
    Quiet (log level source message) := fun _ => ⟨rfl, rfl⟩

/-- A change of the engine is quiet if it keeps the carried state. -/
theorem quiet_modify {change : Engine → Engine} (h : ∀ e, (change e).state = e.state) :
    Quiet (modify change) := fun e => ⟨h e, rfl⟩

/-- Quiet sections make up quiet sequences. -/
theorem Quiet.bind {first : Section α} {next : α → Section β} (hfirst : Quiet first)
    (hnext : ∀ a, Quiet (next a)) : Quiet (first >>= next) := by
  intro e
  obtain ⟨hstate, hchanges⟩ := hfirst e
  cases h : (first e).outcome with
  | ok a =>
    obtain ⟨hstate', hchanges'⟩ := hnext a (first e).engine
    rw [bind_apply_of_ok h]
    exact ⟨hstate'.trans hstate, by simp [hchanges, hchanges']⟩
  | error fault =>
    rw [bind_apply_of_error h]
    exact ⟨hstate, hchanges⟩

/-- After a quiet section the rest decides on the carried state as it was, and on the display
alone. -/
theorem Quiet.bind_apply {first : Section α} (hfirst : Quiet first) (next : α → Section β)
    (e : Engine) {a : α} (h : (first e).outcome = .ok a) :
    ((first >>= next) e).engine = (next a (first e).engine).engine ∧
      displayChanges ((first >>= next) e).effects =
        displayChanges (next a (first e).engine).effects ∧
      (first e).engine.state = e.state := by
  obtain ⟨hstate, hchanges⟩ := hfirst e
  rw [bind_apply_of_ok h]
  exact ⟨rfl, by simp [hchanges], hstate⟩

/-- Quiet steps make up a quiet loop. -/
theorem quiet_forM (items : List α) {step : α → Section Unit} (h : ∀ a, Quiet (step a)) :
    Quiet (items.forM step) := by
  induction items with
  | nil => exact quiet_pure ()
  | cons item rest ih => exact (h item).bind fun _ => ih

theorem quiet_optionForM (item : Option α) {step : α → Section Unit} (h : ∀ a, Quiet (step a)) :
    Quiet (item.forM step) := by
  cases item with
  | none => exact quiet_pure ()
  | some a => exact h a

/-- Recording an event is quiet: the change that it records was displayed before. -/
theorem quiet_record (clock : Binary64) (channel : Channel) (action : WarningAction)
    (description : Text) : Quiet (record clock channel action description) := by
  refine Quiet.bind ?_ fun _ => quiet_log _ _ _
  exact quiet_modify fun _ => rfl

/-- A change that is displayed and recorded is the only change of its section. -/
theorem present_record (clock : Binary64) (channel : Channel) (action : WarningAction)
    (description : Text) (e : Engine) :
    let shown := (do
      perform (.present channel action)
      record clock channel action description : Section Unit) e
    shown.outcome = .ok () ∧ shown.engine.state = e.state ∧
      displayChanges shown.effects = [(channel, action)] := by
  obtain ⟨hstate, hchanges⟩ := quiet_record clock channel action description e
  refine ⟨rfl, hstate, ?_⟩
  change displayChanges ([.present channel action] ++ _) = _
  rw [displayChanges_append]
  exact congrArg ([(channel, action)] ++ ·) hchanges

/-! ## Readings -/

theorem quiet_countFailure : Quiet countFailure := quiet_modify fun _ => rfl

theorem quiet_readSettings (answer : Except Fault WarningSettings) :
    Quiet (readSettings answer) := by
  unfold readSettings
  split
  · exact (quiet_log _ _ _).bind fun _ => quiet_pure _
  · exact quiet_ofExcept _

theorem quiet_readTemperature (answer : Except Fault Value) : Quiet (readTemperature answer) := by
  unfold readTemperature
  split
  · exact quiet_countFailure.bind fun _ => quiet_pure _
  · exact quiet_ofExcept _

theorem quiet_readPower (answer : Except Fault (Option PowerState)) :
    Quiet (readPower answer) := by
  unfold readPower
  split
  · exact quiet_countFailure.bind fun _ => quiet_pure _
  · exact quiet_countFailure.bind fun _ => quiet_pure _
  · exact quiet_ofExcept _

theorem quiet_logStatistics (clock : Binary64) : Quiet (logStatistics clock) := by
  refine quiet_engine.bind fun e => ?_
  split
  · exact quiet_pure ()
  · refine (quiet_ofExcept _).bind fun summary => ?_
    refine Quiet.bind (quiet_optionForM summary fun _ => quiet_log _ _ _) fun _ => ?_
    exact quiet_modify fun _ => rfl

theorem quiet_noteTemperature (clock : Binary64) (reading : Value) :
    Quiet (noteTemperature clock reading) := by
  unfold noteTemperature
  split
  · exact quiet_pure ()
  · refine quiet_engine.bind fun e => (quiet_ofExcept _).bind fun temperatures => ?_
    refine Quiet.bind ?_ fun _ => quiet_logStatistics clock
    exact quiet_modify fun _ => rfl

theorem quiet_warnThreshold (threshold : Except ThresholdProblem ThermalThreshold) :
    Quiet (warnThreshold threshold) := by
  unfold warnThreshold
  split
  · exact quiet_optionForM _ fun _ => quiet_log _ _ _
  · exact quiet_pure ()

/-! ## Callbacks -/

theorem quiet_request (change : CallbackRequest) : Quiet (request change) := by
  intro e
  refine ⟨?_, ?_⟩
  · cases change with
    | register callback =>
      change (if callback ∈ e.callbacks then e else _).state = e.state
      split <;> rfl
    | unregister callback => rfl
    | clear => rfl
  · simp [request, displayChanges, Effect.change?]

/-- Whatever a callback does, it changes neither warning. -/
theorem quiet_runCallback (behaviour : CallbackBehaviour) (report : PollReport)
    (callback : Callback) : Quiet (runCallback behaviour report callback) := by
  refine Quiet.bind (fun _ => ⟨rfl, rfl⟩) fun _ => ?_
  refine (quiet_forM _ quiet_request).bind fun _ => ?_
  split
  · exact quiet_ofExcept _
  · exact quiet_optionForM _ fun _ => quiet_log _ _ _

theorem quiet_runCallbacks (behaviour : CallbackBehaviour) (report : PollReport) :
    Quiet (runCallbacks behaviour report) :=
  quiet_engine.bind fun _ => quiet_forM _ fun callback => quiet_runCallback _ _ callback

end Section

end DeviceWarnings
