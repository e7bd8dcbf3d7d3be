import DeviceWarnings.Proofs.Frame

/-!
# Events and the display

Every change that is put on display is recorded as one event, with the channel, the change and
the clock of its half of the poll, and nothing else is recorded; but for a raise whose level cannot
be written, which leaves no event. The kept events are a window over what was recorded, so a section
is observed by the events it makes: what it leaves is the window after these. What a sequence makes
is what its parts make, in order, wherever a fault cuts it off.
-/

namespace DeviceWarnings

/-- The kept events after some more were recorded, each of which may drive out the oldest. -/
def keepEvents (kept made : List WarningEvent) : List WarningEvent :=
  made.foldl (fun kept event => keepLast (some eventCapacity) (kept ++ [event])) kept

theorem keepEvents_append (kept first second : List WarningEvent) :
    keepEvents kept (first ++ second) = keepEvents (keepEvents kept first) second :=
  List.foldl_append

/-- What an event tells of a change: when it was, and what was displayed. -/
def WarningEvent.change (event : WarningEvent) : Binary64 × Channel × WarningAction :=
  (event.timestamp, event.channel, event.action)

/-- The clock of the half of a poll in which a warning may change. -/
def Readings.clock (readings : Readings) : Channel → Binary64
  | .thermal => readings.thermal.clock
  | .battery => readings.power.clock

/-- Changes on display with the clocks at which they happen. -/
def timed (clock : Channel → Binary64) (changes : List (Channel × WarningAction)) :
    List (Binary64 × Channel × WarningAction) :=
  changes.map fun change => (clock change.1, change)

namespace Section

variable {α β : Type} {clock : Channel → Binary64}

/-- A section that records what it displays, change by change. -/
def Records (clock : Channel → Binary64) (s : Section α) : Prop :=
  ∀ e, ∃ made, (s e).engine.events = keepEvents e.events made ∧
    made.map WarningEvent.change = timed clock (displayChanges (s e).effects)

/-- A section that displays nothing and keeps the events has nothing to record. -/
theorem records_of_quiet {s : Section α} (hquiet : Quiet s) (hkeeps : Keeps Engine.events s) :
    Records clock s := fun e => ⟨[], hkeeps e, by rw [(hquiet e).2]; rfl⟩

theorem records_pure (a : α) : Records clock (Pure.pure a : Section α) :=
  records_of_quiet (quiet_pure a) (keeps_pure a)

theorem records_engine : Records clock engine := records_of_quiet quiet_engine keeps_engine

theorem records_ofExcept (outcome : Except Fault α) : Records clock (ofExcept outcome) :=
  records_of_quiet (quiet_ofExcept outcome) (keeps_ofExcept outcome)

theorem records_log (level : LogLevel) (source : LogSource) (message : Text) :
    Records clock (log level source message) :=
  records_of_quiet (quiet_log level source message) (keeps_log level source message)

/-- A sequence records what its parts record, the second for the values of the first. -/
theorem Records.bind_of_outcome {first : Section α} {next : α → Section β}
    (hfirst : Records clock first)
    (hnext : ∀ e a, (first e).outcome = .ok a → Records clock (next a)) :
    Records clock (first >>= next) := by
  intro e
  obtain ⟨made, hevents, hchanges⟩ := hfirst e
  cases h : (first e).outcome with
  | error fault =>
    rw [bind_apply_of_error h]
    exact ⟨made, hevents, hchanges⟩
  | ok a =>
    obtain ⟨more, hmore, hshown⟩ := hnext e a h (first e).engine
    rw [bind_apply_of_ok h]
    refine ⟨made ++ more, ?_, ?_⟩
    · rw [keepEvents_append, ← hevents]
      exact hmore
    · rw [List.map_append, hchanges, hshown, displayChanges_append]
      exact (List.map_append ..).symm

theorem Records.bind {first : Section α} {next : α → Section β} (hfirst : Records clock first)
    (hnext : ∀ a, Records clock (next a)) : Records clock (first >>= next) :=
  hfirst.bind_of_outcome fun _ a _ => hnext a

/-! ## The sections of a poll -/

theorem record_events (clock : Binary64) (channel : Channel) (action : WarningAction)
    (description : Text) (e : Engine) :
    (record clock channel action description e).engine.events =
      keepEvents e.events [⟨clock, channel, action, description⟩] := by
  have hengine : (record clock channel action description e).engine =
      { e with events :=
          keepLast (some eventCapacity) (e.events ++ [⟨clock, channel, action, description⟩]) } :=
    rfl
  rw [hengine, keepEvents, List.foldl_cons, List.foldl_nil]

/-- A section that displays one change is recorded by the event of this change. -/
theorem records_change {channel : Channel} {action : WarningAction} {first : Section Unit}
    (h : ∀ e, (first e).outcome = .ok () ∧ (first e).engine.events = e.events ∧
      displayChanges (first e).effects = [(channel, action)]) (description : Text) :
    Records clock (do
      first
      record (clock channel) channel action description) := by
  intro e
  obtain ⟨houtcome, hevents, hchanges⟩ := h e
  rw [bind_apply_of_ok houtcome]
  refine ⟨[⟨clock channel, channel, action, description⟩], ?_, ?_⟩
  · dsimp only
    rw [record_events, hevents]
  · rw [displayChanges_append, hchanges, (quiet_record _ _ _ _ _).2]
    rfl

theorem records_actOnThermal (clock : Channel → Binary64) (source : WarningSource)
    (current : Binary64) (decision : ThermalDecision) :
    Records clock (actOnThermal (clock .thermal) source current decision) := by
  have hchange (action : WarningAction) (description : Text) : Records clock (do
      changeThermal action
      record (clock .thermal) .thermal action description) :=
    records_change (fun _ => ⟨rfl, rfl, rfl⟩) description
  unfold actOnThermal
  split
  · exact (records_log _ _ _).bind fun _ => hchange _ _
  · exact hchange _ _
  · exact records_pure _

theorem records_actOnBattery (clock : Channel → Binary64) {power : PowerState}
    (hlevel : power.level.isWritable = true) (seconds : String) (decision : BatteryDecision) :
    Records clock (actOnBattery (clock .battery) power seconds decision) := by
  have htold : power.level.checkWritable = .ok () := if_pos hlevel
  refine records_engine.bind fun e => ?_
  split
  · rw [htold]
    simp only [ofExcept_ok_bind]
    exact records_change (fun _ => ⟨rfl, rfl, rfl⟩) _
  · exact records_change (fun _ => ⟨rfl, rfl, rfl⟩) _
  · exact records_pure _

theorem records_pollFirst (readings : Readings) :
    Records readings.clock (pollFirst readings.thermal) := by
  refine Records.bind (records_of_quiet (quiet_readSettings _) (keeps_readSettings _)) ?_
  intro settings
  refine Records.bind ?_ fun _ => records_pure _
  rw [pollThermal_eq]
  refine Records.bind (records_of_quiet (quiet_gatherThermal _ _) ?_) fun gathered => ?_
  · exact keeps_gatherThermal (fun _ _ => rfl) (fun _ _ => rfl) (fun _ _ => rfl) _ _
  · refine records_engine.bind fun e => (records_ofExcept _).bind fun decision => ?_
    refine Records.bind ?_ fun _ => records_pure _
    exact records_actOnThermal readings.clock _ _ _

theorem records_pollSecond (settings : WarningSettings) (thermal : ThermalDecision)
    {readings : Readings} (hlevel : readings.HasWritableLevel) :
    Records readings.clock (pollSecond settings thermal readings.power) := by
  have hread : Records readings.clock (readPower readings.power.power) :=
    records_of_quiet (quiet_readPower _) (keeps_readPower (fun _ _ => rfl) _)
  refine Records.bind ?_ fun battery => ?_
  · refine hread.bind_of_outcome fun e power hpower => ?_
    rw [readPower_outcome] at hpower
    split
    · exact records_pure _
    case h_2 power =>
      refine Records.bind ?_ fun _ => records_pure _
      refine (records_ofExcept _).bind fun hybrid => records_engine.bind fun e => ?_
      refine (records_ofExcept _).bind fun decision => (records_ofExcept _).bind fun seconds => ?_
      refine Records.bind ?_ fun _ => Records.bind (fun e => ⟨[], rfl, rfl⟩) fun _ =>
        records_pure _
      exact records_actOnBattery readings.clock (hlevel power (powerFrom_eq_some.1 hpower)) _ _
  · exact Records.bind (fun e => ⟨[], rfl, rfl⟩) fun _ => records_engine.bind fun _ =>
      records_pure _

/-- A poll with its callbacks records what it displays, wherever a fault ends it, if the charge
level can be written. -/
theorem records_pollOnce (behaviour : CallbackBehaviour) {readings : Readings}
    (hlevel : readings.HasWritableLevel) :
    Records readings.clock (pollOnce behaviour readings) := by
  refine Records.bind ?_ fun report => Records.bind ?_ fun _ => records_pure _
  · exact (records_pollFirst readings).bind fun first => records_pollSecond _ _ hlevel
  · refine records_of_quiet (quiet_runCallbacks _ _) ?_
    exact keeps_runCallbacks (fun _ _ => rfl) _ _

end Section

end DeviceWarnings
