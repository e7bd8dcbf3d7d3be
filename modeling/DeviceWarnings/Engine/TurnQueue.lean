import DeviceWarnings.Engine.Monitoring
import DeviceWarnings.Engine.Turns

/-!
# Polls in one queue

Polls that are outstanding at the same time wait in one queue. Whoever is at its head goes on until
it has to wait for something, and joins the queue at its end again. A poll that finds the lock
taken, or others waiting for it, waits in a line of its own; when the lock is let go of, the first
one in the line is called back into the queue, and is the only one to get the lock. A callback that
waits does so once, before it does anything, and all callbacks after it wait with it.

The power source answers after a number of turns in the queue, and its answer takes two turns more
to reach the poll; or else it takes so long that it answers only when nobody else can go on.

Polls belong to a caller, who waits for them, or are those of the monitor loop, which polls, ends
its cycle and, if its sleep is over at once, polls again. The queue decides the order of steps; what
a step of a poll does is said by `PollTurns.step`.
-/

namespace DeviceWarnings

/-- Someone in the queue. -/
inductive Turn where
  /-- A poll that asks for the lock. -/
  | ask (id : Nat)
  /-- The first poll in the line, which gets the lock. -/
  | enter (id : Nat)
  /-- The power source, which takes so many turns more to answer the poll that holds the lock. -/
  | source (left : Nat)
  /-- An answer of the power source, which takes so many turns more to reach the poll. -/
  | answer (left : Nat) (power : Except Fault (Option PowerState))
  /-- A callback that has waited, in the round of a poll. -/
  | resume (id : Nat)
  /-- The monitor loop, which begins a cycle. -/
  | cycle
  /-- A poll that has ended and was started together with others. -/
  | ended
  /-- The caller, when all polls that were started together have ended. -/
  | back

/-- What the caller waits for: nothing, a poll of its own, or so many polls that it has started
together. -/
inductive Awaited where
  | nothing
  | poll (id : Nat)
  | polls (left : Nat)
  deriving DecidableEq, Repr

/-- The polls, those who are ready in the queue, the line of those that wait for the lock, how many
polls there were so far, the poll of the monitor loop, and what the caller waits for. -/
structure TurnQueue where
  turns : PollTurns
  ready : List Turn := []
  line : List Nat := []
  issued : Nat := 0
  looping : Option Nat := none
  awaited : Awaited := .nothing

namespace TurnQueue

/-- The queue of an engine without outstanding polls. -/
def ofEngine (engine : Engine) : TurnQueue := { turns := { engine } }

/-- The engine in its present state. -/
def engine (queue : TurnQueue) : Engine := queue.turns.engine

/-- The queue with its engine changed from outside. -/
def withEngine (queue : TurnQueue) (engine : Engine) : TurnQueue :=
  { queue with turns := { queue.turns with engine } }

/-- The queue after its engine has gone through a section, and how the section ended. -/
def act {α : Type} (queue : TurnQueue) (part : Section α) : TurnQueue × Except Fault α :=
  let progress := part queue.engine
  ({ queue with turns := queue.turns.advance progress }, progress.outcome)

/-- The queue without what was told of it: effects, how polls ended, and rounds other than the one
of the monitor loop. -/
def afresh (queue : TurnQueue) : TurnQueue :=
  { queue with
    turns := { queue.turns with
      effects := []
      outcomes := []
      rounds := queue.turns.rounds.filter fun round => some round.id = queue.looping } }

/-- The queue with someone more at its end. -/
def join (queue : TurnQueue) (turn : Turn) : TurnQueue :=
  { queue with ready := queue.ready ++ [turn] }

/-- The queue after the lock was let go of: the first one in the line is called. -/
def callNext (queue : TurnQueue) : TurnQueue :=
  queue.line.head?.elim queue fun id => queue.join (.enter id)

/-- The fault that has ended a poll or cut off its round. -/
def fault? (queue : TurnQueue) (id : Nat) : Option Fault :=
  match queue.turns.handed? id with
  | some (.error fault) => some fault
  | _ => none

/-- The queue after the cycle of the monitor loop has ended. -/
def endCycle (pause : Value → Except Fault Bool) (queue : TurnQueue) (fault : Option Fault) :
    TurnQueue :=
  queue.engine.monitor.live?.elim queue fun loop =>
    let (after, atOnce) := queue.act
      (Section.endCycle loop fault (pause queue.engine.updateInterval))
    if atOnce.toOption = some true then after.join .cycle else after

/-- The queue after a poll and all its callbacks have ended. The monitor loop and a caller with a
poll of its own go on without a turn in between. -/
def endPoll (pause : Value → Except Fault Bool) (queue : TurnQueue) (id : Nat)
    (fault : Option Fault) : TurnQueue :=
  if queue.looping = some id then { queue with looping := none }.endCycle pause fault
  else if queue.awaited = .poll id then { queue with awaited := .nothing }
  else queue.join .ended

/-- The queue after one of the polls that were started together has told that it has ended. -/
def countEnded (queue : TurnQueue) : TurnQueue :=
  match queue.awaited with
  | .polls (left + 2) => { queue with awaited := .polls (left + 1) }
  | .polls 1 => { queue with awaited := .polls 0 }.join .back
  | _ => queue

section Steps

variable (behaviour : CallbackBehaviour) (readings : Readings) (delay : Option Nat)
  (pause : Value → Except Fault Bool)

/-- The queue after a step of the polls. -/
def take (queue : TurnQueue) (event : TurnEvent) : TurnQueue :=
  { queue with turns := queue.turns.step behaviour event }

/-- Runs callbacks in the round of a poll up to the next one that waits; after the last one, or when
the round is cut off, the poll has ended. -/
def runRound (round : CallbackRound) : List Callback → TurnQueue → TurnQueue
  | [], queue => queue.endPoll pause round.id (queue.turns.cut? round.id)
  | callback :: rest, queue =>
    match queue.turns.cut? round.id with
    | some fault => queue.endPoll pause round.id (some fault)
    | none =>
      if (behaviour callback round.report).waits then queue.join (.resume round.id)
      else runRound round rest (queue.take behaviour (.callback round.id))

/-- Goes on with the round of a poll, if it has one. -/
def continueRound (queue : TurnQueue) (id : Nat) : TurnQueue :=
  (queue.turns.round? id).elim queue fun round =>
    runRound behaviour pause round round.remaining queue

/-- A poll takes the lock; unless a fault ends it there, it waits for the power source. -/
def beginPoll (queue : TurnQueue) (id : Nat) : TurnQueue :=
  let after := queue.take behaviour (.begin id readings.thermal)
  if after.turns.holder.isSome then delay.elim after fun left => after.join (.source left)
  else after.callNext.endPoll pause id (after.fault? id)

/-- A poll asks for the lock. -/
def ask (queue : TurnQueue) (id : Nat) : TurnQueue :=
  if queue.turns.holder.isNone ∧ queue.line.isEmpty then
    queue.beginPoll behaviour readings delay pause id
  else { queue with line := queue.line ++ [id] }

/-- The poll that holds the lock goes through its second half and lets go of the lock; then its
callbacks begin, unless a fault has ended it. -/
def finishPoll (queue : TurnQueue) (power : Except Fault (Option PowerState)) : TurnQueue :=
  queue.turns.holder.elim queue fun half =>
    let after := (queue.take behaviour (.finish { readings.power with power })).callNext
    match after.fault? half.id with
    | some fault => after.endPoll pause half.id (some fault)
    | none => after.continueRound behaviour pause half.id

/-- The monitor loop begins a cycle with a poll, or ends if it is not meant to run. -/
def beginCycle (queue : TurnQueue) : TurnQueue :=
  queue.engine.monitor.live?.elim queue fun loop =>
    if queue.engine.monitor.running then
      { (queue.act (Section.monitorStep (.poll loop))).1 with
        looping := some queue.issued
        issued := queue.issued + 1 }.ask behaviour readings delay pause queue.issued
    else (queue.act (Section.monitorStep (.finish loop))).1

/-- The queue after someone had a turn. -/
def serve (queue : TurnQueue) : Turn → TurnQueue
  | .ask id => queue.ask behaviour readings delay pause id
  | .enter id =>
    { queue with line := queue.line.erase id }.beginPoll behaviour readings delay pause id
  | .source (left + 1) => queue.join (.source left)
  | .source 0 => queue.join (.answer 1 readings.power.power)
  | .answer (left + 1) power => queue.join (.answer left power)
  | .answer 0 power => queue.finishPoll behaviour readings pause power
  | .resume id => (queue.take behaviour (.callback id)).continueRound behaviour pause id
  | .cycle => queue.beginCycle behaviour readings delay pause
  | .ended => queue.countEnded
  | .back => { queue with awaited := .nothing }

/-- The queue after the turn of the one at its head; when nobody is ready, the power source
answers. -/
def next (queue : TurnQueue) : TurnQueue :=
  match queue.ready with
  | [] => queue.finishPoll behaviour readings pause readings.power.power
  | turn :: rest => { queue with ready := rest }.serve behaviour readings delay pause turn

/-- The queue after so many turns at most, as long as there is something to wait for. -/
def runWhile (waits : TurnQueue → Bool) : Nat → TurnQueue → TurnQueue
  | 0, queue => queue
  | left + 1, queue =>
    if waits queue then runWhile waits left (queue.next behaviour readings delay pause) else queue

/-- More turns than some polls and the monitor loop between them need: each asks, enters, and waits
for its power reading and for its callbacks, and all others have a turn meanwhile. -/
def turnLimit (count : Nat) : Nat :=
  (count + 4) * (count + 4) * (2 * (delay.getD 0 + callbackCapacity + 10))

/-- The queue after the caller has polled once, and how the poll ended. -/
def poll (queue : TurnQueue) : TurnQueue × Except Fault Unit :=
  let id := queue.issued
  let asked := { queue with awaited := .poll id, issued := id + 1 }.ask behaviour readings delay
    pause id
  let after := runWhile behaviour readings delay pause (fun queue => queue.awaited ≠ .nothing)
    (turnLimit delay 1) asked
  (after, (after.fault? id).elim (.ok ()) .error)

/-- The queue after the caller has started some polls together and all have ended, and how each of
them ended. -/
def pollTogether (queue : TurnQueue) (count : Nat) :
    TurnQueue × List (Except Fault PollReport) :=
  let ids := (List.range count).map (queue.issued + ·)
  let started := { queue with
    ready := queue.ready ++ ids.map .ask
    issued := queue.issued + count
    awaited := if count = 0 then .nothing else .polls count }
  let after := runWhile behaviour readings delay pause (fun queue => queue.awaited ≠ .nothing)
    (turnLimit delay count) started
  (after, ids.filterMap after.turns.handed?)

end Steps

end TurnQueue

end DeviceWarnings
