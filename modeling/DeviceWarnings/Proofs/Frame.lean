import DeviceWarnings.Proofs.Poll

/-!
# What sections leave alone

A view of the engine shows a part of it, such as its kept temperatures. A section keeps a view if
the view is the same after it, whether the section ends or is cut off. Each section changes few
parts of the engine: it keeps every view that does not show these. Nor do the sections of a poll
look at all of the engine: they do the same whichever callbacks are registered.
-/

namespace DeviceWarnings

/-- The engine apart from what is registered. -/
def Engine.withoutCallbacks (e : Engine) : Engine := { e with callbacks := [] }

namespace Section

variable {α β γ : Type} {view : Engine → γ}

/-- A section after which a view of the engine is as before. -/
def Keeps (view : Engine → γ) (s : Section α) : Prop := ∀ e, view (s e).engine = view e

theorem keeps_pure (a : α) : Keeps view (Pure.pure a : Section α) := fun _ => rfl

theorem keeps_engine : Keeps view engine := fun _ => rfl

theorem keeps_ofExcept (outcome : Except Fault α) : Keeps view (ofExcept outcome) := fun _ => rfl

theorem keeps_perform (effect : Effect) : Keeps view (perform effect) := fun _ => rfl

theorem keeps_log (level : LogLevel) (source : LogSource) (message : Text) :
    Keeps view (log level source message) := fun _ => rfl

theorem keeps_modify {change : Engine → Engine} (h : ∀ e, view (change e) = view e) :
    Keeps view (modify change) := h

/-- A sequence keeps what its parts keep. -/
theorem Keeps.bind {first : Section α} {next : α → Section β} (hfirst : Keeps view first)
    (hnext : ∀ a, Keeps view (next a)) : Keeps view (first >>= next) := by
  intro e
  cases h : (first e).outcome with
  | ok a =>
    rw [bind_apply_of_ok h]
    exact (hnext a (first e).engine).trans (hfirst e)
  | error fault =>
    rw [bind_apply_of_error h]
    exact hfirst e

/-- A loop keeps what its steps keep. -/
theorem keeps_forM (items : List α) {step : α → Section Unit} (h : ∀ a, Keeps view (step a)) :
    Keeps view (items.forM step) := by
  induction items with
  | nil => exact keeps_pure ()
  | cons item rest ih => exact (h item).bind fun _ => ih

theorem keeps_optionForM (item : Option α) {step : α → Section Unit}
    (h : ∀ a, Keeps view (step a)) : Keeps view (item.forM step) := by
  cases item with
  | none => exact keeps_pure ()
  | some a => exact h a

/-- A section after which the engine still has a property. -/
def Maintains (P : Engine → Prop) (s : Section α) : Prop := ∀ e, P e → P (s e).engine

/-- A property of a view that is kept is maintained. -/
theorem Keeps.maintains {s : Section α} (h : Keeps view s) (P : γ → Prop) :
    Maintains (fun e => P (view e)) s := by
  intro e he
  rw [h e]
  exact he

/-- A sequence maintains a property if its second part does so after every value of the first. -/
theorem Maintains.bind {P : Engine → Prop} {first : Section α} {next : α → Section β}
    (hfirst : Maintains P first)
    (hnext : ∀ a e, (first e).outcome = .ok a → Maintains P (next a)) :
    Maintains P (first >>= next) := by
  intro e he
  cases h : (first e).outcome with
  | ok a =>
    rw [bind_apply_of_ok h]
    exact hnext a e h _ (hfirst e he)
  | error fault =>
    rw [bind_apply_of_error h]
    exact hfirst e he

/-! ## The sections of a poll -/

theorem keeps_readSettings (answer : Except Fault WarningSettings) :
    Keeps view (readSettings answer) := by
  intro e
  rw [readSettings_engine]

theorem keeps_warnThreshold (threshold : Except ThresholdProblem ThermalThreshold) :
    Keeps view (warnThreshold threshold) := by
  unfold warnThreshold
  split
  · exact keeps_optionForM _ fun _ => keeps_log _ _ _
  · exact keeps_pure ()

section Failures

variable (hfailures : ∀ (e : Engine) (readFailures : Nat), view { e with readFailures } = view e)

include hfailures

theorem keeps_readTemperature (answer : Except Fault Value) :
    Keeps view (readTemperature answer) := by
  unfold readTemperature
  split
  · exact (keeps_modify fun e => hfailures e _).bind fun _ => keeps_pure _
  · exact keeps_ofExcept _

theorem keeps_readShutdown (settings : WarningSettings) (readings : ThermalReadings) :
    Keeps view (readShutdown settings readings) := by
  refine (keeps_ofExcept _).bind fun reads => ?_
  split
  · exact keeps_readTemperature hfailures _
  · exact keeps_pure _

theorem keeps_readPower (answer : Except Fault (Option PowerState)) :
    Keeps view (readPower answer) := by
  unfold readPower
  split
  · exact (keeps_modify fun e => hfailures e _).bind fun _ => keeps_pure _
  · exact (keeps_modify fun e => hfailures e _).bind fun _ => keeps_pure _
  · exact keeps_ofExcept _

end Failures

section Temperatures

variable (hfailures : ∀ (e : Engine) (readFailures : Nat), view { e with readFailures } = view e)
  (htemperatures : ∀ (e : Engine) (temperatures : TemperatureHistory),
    view { e with temperatures } = view e)
  (hstatistics : ∀ (e : Engine) (lastStatistics : Binary64),
    view { e with lastStatistics } = view e)

include htemperatures hstatistics

theorem keeps_logStatistics (clock : Binary64) : Keeps view (logStatistics clock) := by
  refine keeps_engine.bind fun e => ?_
  split
  · exact keeps_pure ()
  · refine (keeps_ofExcept _).bind fun summary => ?_
    refine (keeps_optionForM _ fun _ => keeps_log _ _ _).bind fun _ => ?_
    refine keeps_modify fun e => ?_
    exact (hstatistics { e with temperatures := e.temperatures.clear } clock).trans
      (htemperatures e _)

theorem keeps_noteTemperature (clock : Binary64) (reading : Value) :
    Keeps view (noteTemperature clock reading) := by
  unfold noteTemperature
  split
  · exact keeps_pure ()
  · refine keeps_engine.bind fun e => (keeps_ofExcept _).bind fun temperatures => ?_
    refine (keeps_modify fun e => htemperatures e _).bind fun _ => ?_
    exact keeps_logStatistics htemperatures hstatistics clock

include hfailures

theorem keeps_gatherThermal (settings : WarningSettings) (readings : ThermalReadings) :
    Keeps view (gatherThermal settings readings) := by
  refine (keeps_readTemperature hfailures _).bind fun current => ?_
  refine (keeps_readShutdown hfailures _ _).bind fun shutdown => ?_
  refine (keeps_noteTemperature htemperatures hstatistics _ _).bind fun _ => ?_
  refine (keeps_ofExcept _).bind fun threshold => ?_
  exact (keeps_warnThreshold threshold).bind fun _ => keeps_pure _

end Temperatures

section Changes

variable (hstate : ∀ (e : Engine) (state : PollState), view { e with state } = view e)
  (hevents : ∀ (e : Engine) (events : List WarningEvent), view { e with events } = view e)

include hevents in
theorem keeps_record (clock : Binary64) (channel : Channel) (action : WarningAction)
    (description : Text) : Keeps view (record clock channel action description) := by
  refine Keeps.bind ?_ fun _ => keeps_log _ _ _
  exact keeps_modify fun e => hevents e _

include hstate in
theorem keeps_changeThermal (action : WarningAction) : Keeps view (changeThermal action) :=
  (keeps_perform _).bind fun _ => keeps_modify fun e => hstate e _

include hstate hevents

theorem keeps_actOnThermal (clock : Binary64) (source : WarningSource) (current : Binary64)
    (decision : ThermalDecision) : Keeps view (actOnThermal clock source current decision) := by
  unfold actOnThermal
  split
  · refine (keeps_log _ _ _).bind fun _ => ?_
    exact (keeps_changeThermal hstate _).bind fun _ => keeps_record hevents _ _ _ _
  · exact (keeps_changeThermal hstate _).bind fun _ => keeps_record hevents _ _ _ _
  · exact keeps_pure _

theorem keeps_concludeThermal (settings : WarningSettings) (readings : ThermalReadings)
    (gathered : Value × Except ThresholdProblem ThermalThreshold) :
    Keeps view (concludeThermal settings readings gathered) := by
  refine keeps_engine.bind fun e => (keeps_ofExcept _).bind fun decision => ?_
  exact (keeps_actOnThermal hstate hevents _ _ _ _).bind fun _ => keeps_pure _

omit hstate in
theorem keeps_actOnBattery (clock : Binary64) (power : PowerState) (seconds : String)
    (decision : BatteryDecision) : Keeps view (actOnBattery clock power seconds decision) := by
  refine keeps_engine.bind fun e => ?_
  split
  · refine (keeps_perform _).bind fun _ => (keeps_ofExcept _).bind fun _ => ?_
    exact keeps_record hevents _ _ _ _
  · exact (keeps_perform _).bind fun _ => keeps_record hevents _ _ _ _
  · exact keeps_pure _

theorem keeps_pollPower (settings : WarningSettings) (readings : PowerReadings)
    (power : PowerState) : Keeps view (pollPower settings readings power) := by
  refine (keeps_ofExcept _).bind fun hybrid => keeps_engine.bind fun e => ?_
  refine (keeps_ofExcept _).bind fun decision => (keeps_ofExcept _).bind fun seconds => ?_
  refine (keeps_actOnBattery hevents _ _ _ _).bind fun _ => ?_
  exact (keeps_modify fun e => hstate e _).bind fun _ => keeps_pure _

theorem keeps_pollBattery
    (hfailures : ∀ (e : Engine) (readFailures : Nat), view { e with readFailures } = view e)
    (settings : WarningSettings) (readings : PowerReadings) :
    Keeps view (pollBattery settings readings) := by
  refine (keeps_readPower hfailures _).bind fun power => ?_
  split
  · exact keeps_pure _
  · exact (keeps_pollPower hstate hevents _ _ _).bind fun _ => keeps_pure _

theorem keeps_pollSecond
    (hfailures : ∀ (e : Engine) (readFailures : Nat), view { e with readFailures } = view e)
    (hcompleted : ∀ (e : Engine) (pollsCompleted : Nat), view { e with pollsCompleted } = view e)
    (settings : WarningSettings) (thermal : ThermalDecision) (readings : PowerReadings) :
    Keeps view (pollSecond settings thermal readings) := by
  refine (keeps_pollBattery hstate hevents hfailures _ _).bind fun battery => ?_
  refine (keeps_modify fun e => hcompleted e _).bind fun _ => ?_
  exact keeps_engine.bind fun _ => keeps_pure _

theorem keeps_pollFirst
    (hfailures : ∀ (e : Engine) (readFailures : Nat), view { e with readFailures } = view e)
    (htemperatures : ∀ (e : Engine) (temperatures : TemperatureHistory),
      view { e with temperatures } = view e)
    (hstatistics : ∀ (e : Engine) (lastStatistics : Binary64),
      view { e with lastStatistics } = view e)
    (readings : ThermalReadings) : Keeps view (pollFirst readings) := by
  refine (keeps_readSettings _).bind fun settings => Keeps.bind ?_ fun _ => keeps_pure _
  rw [pollThermal_eq]
  refine (keeps_gatherThermal hfailures htemperatures hstatistics _ _).bind fun gathered => ?_
  exact keeps_concludeThermal hstate hevents _ _ _

end Changes

/-! ## The callbacks -/

section Callbacks

variable
  (hcallbacks : ∀ (e : Engine) (callbacks : List Callback), view { e with callbacks } = view e)

include hcallbacks

/-- A callback changes nothing but what is registered. -/
theorem keeps_runCallback (behaviour : CallbackBehaviour) (report : PollReport)
    (callback : Callback) : Keeps view (runCallback behaviour report callback) := by
  have hrequest (change : CallbackRequest) : Keeps view (request change) := by
    intro e
    cases change with
    | register callback =>
      change view (if callback ∈ e.callbacks then e else _) = view e
      split
      · rfl
      · exact hcallbacks e _
    | unregister callback => exact hcallbacks e _
    | clear => exact hcallbacks e _
  refine (keeps_perform _).bind fun _ => (keeps_forM _ hrequest).bind fun _ => ?_
  split
  · exact keeps_ofExcept _
  · exact keeps_optionForM _ fun _ => keeps_log _ _ _

theorem keeps_runCallbacks (behaviour : CallbackBehaviour) (report : PollReport) :
    Keeps view (runCallbacks behaviour report) :=
  keeps_engine.bind fun _ => keeps_forM _ fun callback => keeps_runCallback hcallbacks _ _ callback

end Callbacks

/-! ## What polls do not look at

A poll does not look at the registered callbacks: it does the same whichever they are. -/

/-- A section that does the same as if no callbacks were registered, and leaves them registered. -/
def Overlooks (s : Section α) : Prop :=
  ∀ e, s e.withoutCallbacks = ⟨(s e).engine.withoutCallbacks, (s e).effects, (s e).outcome⟩

/-- A section that overlooks callbacks does the same in two engines that differ in them alone. -/
theorem Overlooks.congr {s : Section α} (h : s.Overlooks) {e other : Engine}
    (hsame : e.withoutCallbacks = other.withoutCallbacks) :
    (s e).engine.withoutCallbacks = (s other).engine.withoutCallbacks ∧
      (s e).effects = (s other).effects ∧ (s e).outcome = (s other).outcome := by
  have hprogress := h e
  rw [hsame, h other] at hprogress
  obtain ⟨hengine, heffects, houtcome⟩ := Progress.mk.inj hprogress
  exact ⟨hengine.symm, heffects.symm, houtcome.symm⟩

theorem overlooks_pure (a : α) : Overlooks (Pure.pure a : Section α) := fun _ => rfl

theorem overlooks_ofExcept (outcome : Except Fault α) : Overlooks (ofExcept outcome) := fun _ => rfl

theorem overlooks_perform (effect : Effect) : Overlooks (perform effect) := fun _ => rfl

/-- A change of the engine that has nothing to do with callbacks overlooks them. -/
theorem overlooks_modify {change : Engine → Engine}
    (h : ∀ e, change e.withoutCallbacks = (change e).withoutCallbacks) :
    Overlooks (modify change) := fun e =>
  congrArg (fun engine => (⟨engine, [], .ok ()⟩ : Progress Unit)) (h e)

theorem Overlooks.bind {first : Section α} {next : α → Section β} (hfirst : Overlooks first)
    (hnext : ∀ a, Overlooks (next a)) : Overlooks (first >>= next) := by
  intro e
  have hother := hfirst e
  cases h : (first e).outcome with
  | ok a =>
    have hok : (first e.withoutCallbacks).outcome = .ok a := by rw [hother, h]
    rw [bind_apply_of_ok h, bind_apply_of_ok hok, hother, hnext a (first e).engine]
  | error fault =>
    have herror : (first e.withoutCallbacks).outcome = .error fault := by rw [hother, h]
    rw [bind_apply_of_error h, bind_apply_of_error herror, hother]

/-- What is looked at of the engine may be anything but the callbacks. -/
theorem overlooks_engine_bind {next : Engine → Section α}
    (hblind : ∀ e, next e.withoutCallbacks = next e) (hnext : ∀ e, Overlooks (next e)) :
    Overlooks (engine >>= next) := by
  intro e
  rw [engine_bind, engine_bind, hblind]
  exact hnext e e

theorem overlooks_optionForM (item : Option α) {step : α → Section Unit}
    (h : ∀ a, Overlooks (step a)) : Overlooks (item.forM step) := by
  cases item with
  | none => exact overlooks_pure ()
  | some a => exact h a

theorem overlooks_countFailure : Overlooks countFailure := overlooks_modify fun _ => rfl

theorem overlooks_readTemperature (answer : Except Fault Value) :
    Overlooks (readTemperature answer) := by
  unfold readTemperature
  split
  · exact overlooks_countFailure.bind fun _ => overlooks_pure _
  · exact overlooks_ofExcept _

theorem overlooks_readShutdown (settings : WarningSettings) (readings : ThermalReadings) :
    Overlooks (readShutdown settings readings) := by
  refine (overlooks_ofExcept _).bind fun reads => ?_
  split
  · exact overlooks_readTemperature _
  · exact overlooks_pure _

theorem overlooks_logStatistics (clock : Binary64) : Overlooks (logStatistics clock) := by
  refine overlooks_engine_bind (fun _ => rfl) fun e => ?_
  split
  · exact overlooks_pure ()
  · refine (overlooks_ofExcept _).bind fun summary => ?_
    refine (overlooks_optionForM _ fun _ => overlooks_perform _).bind fun _ => ?_
    exact overlooks_modify fun _ => rfl

theorem overlooks_noteTemperature (clock : Binary64) (reading : Value) :
    Overlooks (noteTemperature clock reading) := by
  unfold noteTemperature
  split
  · exact overlooks_pure ()
  · refine overlooks_engine_bind (fun _ => rfl) fun e => ?_
    refine (overlooks_ofExcept _).bind fun temperatures => ?_
    refine Overlooks.bind ?_ fun _ => overlooks_logStatistics clock
    exact overlooks_modify fun _ => rfl

theorem overlooks_readSettings (answer : Except Fault WarningSettings) :
    Overlooks (readSettings answer) := by
  unfold readSettings
  split
  · exact (overlooks_perform _).bind fun _ => overlooks_pure _
  · exact overlooks_ofExcept _

theorem overlooks_warnThreshold (threshold : Except ThresholdProblem ThermalThreshold) :
    Overlooks (warnThreshold threshold) := by
  unfold warnThreshold
  split
  · exact overlooks_optionForM _ fun _ => overlooks_perform _
  · exact overlooks_pure ()

theorem overlooks_record (clock : Binary64) (channel : Channel) (action : WarningAction)
    (description : Text) : Overlooks (record clock channel action description) := by
  refine Overlooks.bind ?_ fun _ => overlooks_perform _
  exact overlooks_modify fun _ => by dsimp only [Engine.withoutCallbacks]

theorem overlooks_changeThermal (action : WarningAction) : Overlooks (changeThermal action) :=
  (overlooks_perform _).bind fun _ => overlooks_modify fun _ => rfl

theorem overlooks_actOnThermal (clock : Binary64) (source : WarningSource) (current : Binary64)
    (decision : ThermalDecision) : Overlooks (actOnThermal clock source current decision) := by
  unfold actOnThermal
  split
  · refine (overlooks_perform _).bind fun _ => ?_
    exact (overlooks_changeThermal _).bind fun _ => overlooks_record _ _ _ _
  · exact (overlooks_changeThermal _).bind fun _ => overlooks_record _ _ _ _
  · exact overlooks_pure _

theorem overlooks_pollFirst (readings : ThermalReadings) : Overlooks (pollFirst readings) := by
  refine (overlooks_readSettings _).bind fun settings =>
    Overlooks.bind ?_ fun _ => overlooks_pure _
  rw [pollThermal_eq]
  refine Overlooks.bind ?_ fun gathered => ?_
  · refine (overlooks_readTemperature _).bind fun current => ?_
    refine (overlooks_readShutdown _ _).bind fun shutdown => ?_
    refine (overlooks_noteTemperature _ _).bind fun _ => ?_
    refine (overlooks_ofExcept _).bind fun threshold => ?_
    exact (overlooks_warnThreshold threshold).bind fun _ => overlooks_pure _
  · refine overlooks_engine_bind (fun _ => rfl) fun e => ?_
    refine (overlooks_ofExcept _).bind fun decision => ?_
    exact (overlooks_actOnThermal _ _ _ _).bind fun _ => overlooks_pure _

theorem overlooks_readPower (answer : Except Fault (Option PowerState)) :
    Overlooks (readPower answer) := by
  unfold readPower
  split
  · exact overlooks_countFailure.bind fun _ => overlooks_pure _
  · exact overlooks_countFailure.bind fun _ => overlooks_pure _
  · exact overlooks_ofExcept _

theorem overlooks_actOnBattery (clock : Binary64) (power : PowerState) (seconds : String)
    (decision : BatteryDecision) : Overlooks (actOnBattery clock power seconds decision) := by
  refine overlooks_engine_bind (fun _ => rfl) fun e => ?_
  split
  · refine (overlooks_perform _).bind fun _ => (overlooks_ofExcept _).bind fun _ => ?_
    exact overlooks_record _ _ _ _
  · exact (overlooks_perform _).bind fun _ => overlooks_record _ _ _ _
  · exact overlooks_pure _

theorem overlooks_pollPower (settings : WarningSettings) (readings : PowerReadings)
    (power : PowerState) : Overlooks (pollPower settings readings power) := by
  refine (overlooks_ofExcept _).bind fun hybrid => ?_
  refine overlooks_engine_bind (fun _ => rfl) fun e => ?_
  refine (overlooks_ofExcept _).bind fun decision => ?_
  refine (overlooks_ofExcept _).bind fun seconds => ?_
  refine (overlooks_actOnBattery _ _ _ _).bind fun _ => ?_
  refine Overlooks.bind ?_ fun _ => overlooks_pure _
  exact overlooks_modify fun _ => rfl

theorem overlooks_pollSecond (settings : WarningSettings) (thermal : ThermalDecision)
    (readings : PowerReadings) : Overlooks (pollSecond settings thermal readings) := by
  refine Overlooks.bind ?_ fun battery => Overlooks.bind ?_ fun _ => ?_
  · refine (overlooks_readPower _).bind fun power => ?_
    split
    · exact overlooks_pure _
    · exact (overlooks_pollPower _ _ _).bind fun _ => overlooks_pure _
  · exact overlooks_modify fun _ => rfl
  · exact overlooks_engine_bind (fun _ => rfl) fun _ => overlooks_pure _

end Section

end DeviceWarnings
