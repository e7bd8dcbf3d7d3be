import DeviceWarnings.Engine.Callbacks
import DeviceWarnings.Engine.Poll

/-!
# Monitoring

A monitored engine polls again and again. Each poll that is completed is followed by the
callbacks; a fault that ends a poll is logged and does not end the monitoring. A cancelled poll ends
the loop without a word. A loop that cannot sleep for the interval it is given ends by a fault, as
does one whose poll is told that the program is to end, and whoever stops the monitor is handed it.
-/

namespace DeviceWarnings

/-- How a loop sleeps for an interval, which has to compare with zero and, above it, to fit into
binary64: whether it goes on at its next turn, since there is nothing to wait for. -/
def Value.pause (interval : Value) : Except Fault Bool := do
  if ← Comparison.atMost.holds interval 0 then return true
  else
    let _ ← (Binary64.zero : Value).plus interval
    return false

namespace Section

/-- One poll with its callbacks, and the state that it leaves. The fault of a callback that nobody
contains is the end of it. -/
def pollOnce (behaviour : CallbackBehaviour) (readings : Readings) : Section PollState := do
  let report ← poll readings
  runCallbacks behaviour report
  return report.state

/-- Takes a step of the monitor, if it is possible. -/
def monitorStep (event : MonitorEvent) : Section Unit :=
  modify fun e => { e with monitor := e.monitor.step event }

/-- Starts the monitor, unless it is running. An interval that cannot be told in whole seconds is
noticed only when the monitor has started. -/
def startMonitor : Section Unit := do
  let e ← engine
  if e.monitor.running then pure ()
  else do
    monitorStep .start
    let seconds ← ofExcept (e.updateInterval.fixed 0)
    log .info .engine ("Warning monitoring started (" ++ seconds ++ "s interval)")

/-- The end of a stop: the loop that was cancelled ends, and is let go of. The fault of a loop that
had ended before is handed on instead. -/
def endStop : Section Unit := do
  let e ← engine
  e.monitor.task.forM fun id => do
    monitorStep (.finish id)
    monitorStep (.stopped id)
  e.monitor.fault?.forM fun fault => ofExcept (.error fault)
  log .info .engine "Warning monitoring stopped"

/-- Stops the monitor. -/
def stopMonitor : Section Unit := do
  monitorStep .stop
  endStop

/-- The end of a cycle, whose poll may have ended by a fault and whose sleep may fail: the first
fault is logged. An interruption of the poll ends the loop, and so does a sleep that fails, since it
fails anew after that. -/
def endCycle (loop : Nat) (fault : Option Fault) (sleep : Except Fault Bool) : Section Bool :=
  match fault, sleep with
  | some .cancelled, _ => do
    monitorStep (.quit loop)
    return false
  | some .ending, _ => do
    monitorStep (.fail loop .ending)
    return false
  | fault, .ok atOnce => do
    fault.forM logTrouble
    monitorStep (.sleep loop)
    return atOnce
  | fault, .error sleepless => do
    logTrouble (fault.getD sleepless)
    monitorStep (.fail loop sleepless)
    return false
where
  logTrouble (fault : Fault) : Section Unit :=
    log .error .engine ("Monitor loop error: " ++ fault.message)

/-- One cycle of a monitor loop, up to a sleep that someone else ends. -/
def monitorCycle (behaviour : CallbackBehaviour) (readings : Readings) (loop : Nat) :
    Section Unit := do
  monitorStep (.poll loop)
  let fault : Option Fault :=
    match ← attempt (pollOnce behaviour readings) with
    | .ok _ => none
    | .error fault => some fault
  discard (endCycle loop fault (.ok false))

/-- Some cycles of the loop that the monitor holds, with the same answers from the sources. -/
def monitorCycles (behaviour : CallbackBehaviour) (readings : Readings) (count : Nat) :
    Section Unit := do
  (← engine).monitor.live?.forM fun loop =>
    (List.replicate count loop).forM (monitorCycle behaviour readings)

end Section

end DeviceWarnings
