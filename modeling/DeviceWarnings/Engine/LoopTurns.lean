import DeviceWarnings.Engine.TurnQueue

/-!
# The monitor loop in the queue

Starting the monitor puts its loop into the queue, where it goes on while the caller waits for
something else. The caller can also set the pace and let the loop go through some cycles. Stopping
the monitor cancels the loop wherever it waits, except when its power reading is there already: then
it does not notice, and the stop waits until its cycle has ended.
-/

namespace DeviceWarnings

namespace TurnQueue

/-- The queue after the monitor was started; a new loop joins it even when the start ends by a
fault. -/
def startMonitor (queue : TurnQueue) : TurnQueue × Except Fault Unit :=
  let (after, outcome) := queue.act Section.startMonitor
  if after.engine.monitor.created = queue.engine.monitor.created then (after, outcome)
  else (after.join .cycle, outcome)

/-- Whether the power reading of the poll that holds the lock is there. -/
def hasReading (queue : TurnQueue) : Bool :=
  queue.ready.any fun turn =>
    match turn with
    | .source 0 | .answer _ _ => true
    | _ => false

section Steps

variable (behaviour : CallbackBehaviour) (readings : Readings) (delay : Option Nat)
  (pause : Value → Except Fault Bool)

/-- The queue without the monitor loop, when nobody else is outstanding: its poll is cancelled, be
it that it waits for its power reading or for a callback. -/
def withoutLoop (queue : TurnQueue) : TurnQueue :=
  let cut := queue.looping.elim queue fun id => queue.take behaviour (.cancel id)
  let left := cut.take behaviour (.finish { readings.power with power := .error .cancelled })
  { left with ready := [], line := [], looping := none }

/-- The queue after the poll of the monitor loop has ended. -/
def finishCycle (queue : TurnQueue) : TurnQueue :=
  runWhile behaviour readings delay pause (fun queue => queue.looping.isSome) (turnLimit delay 1)
    queue

/-- The queue after the monitor loop has gone through some cycles at the pace of the caller, who
ends its sleeps. A cycle that has begun already is one of them. -/
def pace (queue : TurnQueue) (count : Nat) : TurnQueue :=
  match count, queue.looping with
  | left + 1, some _ =>
    let begun := queue.finishCycle behaviour readings delay fun _ => .ok false
    (begun.act (Section.monitorCycles behaviour readings left)).1
  | count, _ => (queue.act (Section.monitorCycles behaviour readings count)).1

/-- The queue after the monitor was stopped, and whether the loop had ended by a fault. -/
def stopMonitor (queue : TurnQueue) : TurnQueue × Except Fault Unit :=
  let asked := (queue.act (Section.monitorStep .stop)).1
  let ended :=
    if queue.hasReading then
      let unnoticed := asked.engine.monitor.live?.elim asked fun loop =>
        (asked.act (Section.monitorStep (.overlook loop))).1
      unnoticed.finishCycle behaviour readings delay pause
    else asked
  (ended.withoutLoop behaviour readings).act Section.endStop

end Steps

end TurnQueue

end DeviceWarnings
