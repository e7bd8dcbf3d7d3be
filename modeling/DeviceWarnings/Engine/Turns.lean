import DeviceWarnings.Engine.Callbacks
import DeviceWarnings.Engine.Poll

/-!
# Polls taking turns

Several polls may be outstanding at a time. A lock lets one of them evaluate at a time: it holds
the lock from its first half to the end of its second, between which it waits for the power
reading, and lets go of it when a fault ends it. A poll that is cancelled while it waits has that
for a reading. The callbacks that are registered when a poll is completed make up its round. They
are run after the lock is free again, so other polls and other rounds may come in between any two of
them. A round is cut off by a callback whose fault nobody contains, and when the poll is cancelled
while a callback waits. `PollTurns.step?` says which steps are possible and what each of them
changes.
-/

namespace DeviceWarnings

/-- A poll between its two halves. -/
structure HalfPoll where
  id : Nat
  settings : WarningSettings
  thermal : ThermalDecision
  deriving DecidableEq

/-- The callbacks of a completed poll that are left to be run, with its report, and the fault that
has cut them off, if one has. -/
structure CallbackRound where
  id : Nat
  report : PollReport
  remaining : List Callback
  cut : Option Fault := none
  deriving DecidableEq

/-- An engine with outstanding polls: what was done so far, the poll that holds the lock, how the
others ended, in the order in which they held it, and their rounds. -/
structure PollTurns where
  engine : Engine
  effects : List Effect := []
  holder : Option HalfPoll := none
  outcomes : List (Nat × Except Fault PollReport) := []
  rounds : List CallbackRound := []

/-- A step of the outstanding polls. -/
inductive TurnEvent where
  /-- A new poll takes the lock and goes through its first half. -/
  | begin (id : Nat) (readings : ThermalReadings)
  /-- The poll that holds the lock goes through its second half. -/
  | finish (readings : PowerReadings)
  /-- The next callback in the round of a poll is run. -/
  | callback (id : Nat)
  /-- A poll is cancelled while the next callback in its round waits. -/
  | cancel (id : Nat)

namespace PollTurns

/-- The round of a poll. -/
def round? (turns : PollTurns) (id : Nat) : Option CallbackRound :=
  turns.rounds.find? fun round => round.id = id

/-- The round of a poll with its next callback and those after it, unless it is cut off. -/
def next? (turns : PollTurns) (id : Nat) : Option (CallbackRound × Callback × List Callback) :=
  (turns.round? id).bind fun round =>
    match round.cut, round.remaining with
    | none, callback :: rest => some (round, callback, rest)
    | _, _ => none

/-- The fault that has cut off the round of a poll. -/
def cut? (turns : PollTurns) (id : Nat) : Option Fault :=
  (turns.round? id).bind CallbackRound.cut

/-- What the caller of a poll is handed when the poll has ended: the fault that has cut off its
round, or else how it was completed or failed. -/
def handed? (turns : PollTurns) (id : Nat) : Option (Except Fault PollReport) :=
  (turns.outcomes.lookup id).map fun outcome => (turns.cut? id).elim outcome .error

/-- The polls with the round of one of them changed. -/
def updateRound (turns : PollTurns) (id : Nat) (change : CallbackRound → CallbackRound) :
    PollTurns :=
  { turns with
    rounds := turns.rounds.map fun round => if round.id = id then change round else round }

/-- The polls after one of them has gone through a section. -/
def advance {α : Type} (turns : PollTurns) (progress : Progress α) : PollTurns :=
  { turns with engine := progress.engine, effects := turns.effects ++ progress.effects }

/-- The polls after a poll has taken the lock. -/
def beginPoll (turns : PollTurns) (id : Nat) (readings : ThermalReadings) : PollTurns :=
  let progress := Section.pollFirst readings turns.engine
  let after := turns.advance progress
  match progress.outcome with
  | .ok (settings, thermal) => { after with holder := some ⟨id, settings, thermal⟩ }
  | .error fault => { after with outcomes := after.outcomes ++ [(id, .error fault)] }

/-- The polls after a poll has gone through its second half. -/
def finishPoll (turns : PollTurns) (half : HalfPoll) (readings : PowerReadings) : PollTurns :=
  let progress := Section.pollSecond half.settings half.thermal readings turns.engine
  let after := { turns.advance progress with holder := none }
  match progress.outcome with
  | .ok report =>
    { after with
      outcomes := after.outcomes ++ [(half.id, .ok report)]
      rounds := after.rounds ++ [⟨half.id, report, after.engine.callbacks, none⟩] }
  | .error fault => { after with outcomes := after.outcomes ++ [(half.id, .error fault)] }

/-- The polls after a callback of a round has been run. -/
def runCallback (behaviour : CallbackBehaviour) (turns : PollTurns) (round : CallbackRound)
    (callback : Callback) (rest : List Callback) : PollTurns :=
  let after := turns.advance (Section.runCallback behaviour round.report callback turns.engine)
  after.updateRound round.id fun other =>
    { other with remaining := rest, cut := (behaviour callback round.report).escape }

/-- The polls after the round of one of them was cut off by a cancellation. -/
def cancelRound (turns : PollTurns) (id : Nat) : PollTurns :=
  turns.updateRound id fun round => { round with cut := some .cancelled }

/-- The polls after a step, if the step is possible. -/
def step? (turns : PollTurns) (behaviour : CallbackBehaviour) : TurnEvent → Option PollTurns
  | .begin id readings =>
    if turns.holder.isNone ∧ (turns.outcomes.lookup id).isNone then
      some (turns.beginPoll id readings)
    else none
  | .finish readings => turns.holder.map fun half => turns.finishPoll half readings
  | .callback id =>
    (turns.next? id).map fun (round, callback, rest) =>
      turns.runCallback behaviour round callback rest
  | .cancel id =>
    (turns.next? id).bind fun (round, callback, _) =>
      if (behaviour callback round.report).waits then some (turns.cancelRound id) else none

/-- The polls after a step, or as they are if the step is not possible. -/
def step (behaviour : CallbackBehaviour) (turns : PollTurns) (event : TurnEvent) : PollTurns :=
  (turns.step? behaviour event).getD turns

/-- The polls after some steps, of which those that are not possible are passed over. -/
def run (behaviour : CallbackBehaviour) (turns : PollTurns) (events : List TurnEvent) :
    PollTurns :=
  events.foldl (step behaviour) turns

end PollTurns

end DeviceWarnings
