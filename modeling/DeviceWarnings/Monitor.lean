import DeviceWarnings.Fault

/-!
# Monitor loops

Starting the monitor creates a loop that polls and sleeps in turn; stopping it cancels the loop,
waits for its end and then lets go of it. Calls come from several tasks, which take turns only
where one of them waits, so a stop is in two steps: the request, and the return after the loop
has ended. A loop that cannot sleep ends by a fault; the monitor keeps hold of it, and every stop
hands the fault on. A poll may also be cancelled though no stop has asked for it, which ends the
loop while the monitor goes on running. `Monitor.step?` says which steps are possible and what each
of them changes.
-/

namespace DeviceWarnings

/-- What a monitor loop is doing. -/
inductive LoopPhase where
  | ready
  | polling
  | sleeping
  deriving DecidableEq, Repr

/-- A live monitor loop. -/
structure MonitorLoop where
  id : Nat
  phase : LoopPhase := .ready
  cancelled : Bool := false
  deriving DecidableEq, Repr

/-- The monitor between two steps: whether it is meant to run, the loop it holds on to, the loops
that live, the loops whose end a stop is waiting for, the loops that a fault has ended, and how many
loops were created. -/
structure Monitor where
  running : Bool := false
  task : Option Nat := none
  loops : List MonitorLoop := []
  stopping : List Nat := []
  failed : List (Nat × Fault) := []
  created : Nat := 0
  deriving DecidableEq

/-- A step of the monitor. -/
inductive MonitorEvent where
  /-- A call asks the monitor to start. -/
  | start
  /-- A call asks the monitor to stop. -/
  | stop
  /-- A loop begins a poll. -/
  | poll (id : Nat)
  /-- A loop has finished a poll, well or badly, and goes to sleep. -/
  | sleep (id : Nat)
  /-- A loop that polls does not notice that it is cancelled: its power reading is there already. -/
  | overlook (id : Nat)
  /-- A loop has finished a poll, and a fault ends it: it cannot sleep, or the program is to end. -/
  | fail (id : Nat) (fault : Fault)
  /-- A poll of a loop was cancelled though no stop has asked for it, and the loop ends. -/
  | quit (id : Nat)
  /-- A loop ends, since it was cancelled or finds the monitor not running. -/
  | finish (id : Nat)
  /-- A stop that waited for a loop returns, or hands on the fault that has ended the loop. -/
  | stopped (id : Nat)
  deriving DecidableEq

namespace Monitor

/-- The live loop of a given number. -/
def loop? (m : Monitor) (id : Nat) : Option MonitorLoop := m.loops.find? fun l => l.id = id

/-- The loop that the monitor holds, if it lives. -/
def live? (m : Monitor) : Option Nat := m.task.filter fun id => (m.loop? id).isSome

/-- The fault that has ended the loop that the monitor holds. -/
def fault? (m : Monitor) : Option Fault := m.task.bind fun id => m.failed.lookup id

/-- The monitor with one of its loops changed. -/
def updateLoop (m : Monitor) (id : Nat) (change : MonitorLoop → MonitorLoop) : Monitor :=
  { m with loops := m.loops.map fun l => if l.id = id then change l else l }

/-- The monitor after a call to start: nothing new while it is running. -/
def start (m : Monitor) : Monitor :=
  if m.running then m
  else
    { m with
      running := true
      task := some m.created
      loops := m.loops ++ [{ id := m.created }]
      created := m.created + 1 }

/-- The monitor after a request to stop: the loop it holds is cancelled and waited for. -/
def requestStop (m : Monitor) : Monitor :=
  match m.task with
  | none => { m with running := false }
  | some id =>
    { m.updateLoop id fun l => { l with cancelled := true } with
      running := false
      stopping := m.stopping ++ [id] }

/-- The monitor after a step, if the step is possible. -/
def step? (m : Monitor) : MonitorEvent → Option Monitor
  | .start => some m.start
  | .stop => some m.requestStop
  | .poll id =>
    match m.loop? id with
    | some l =>
      if m.running ∧ ¬l.cancelled ∧ l.phase ≠ .polling then
        some (m.updateLoop id fun l => { l with phase := .polling })
      else none
    | none => none
  | .sleep id =>
    match m.loop? id with
    | some l =>
      if ¬l.cancelled ∧ l.phase = .polling then
        some (m.updateLoop id fun l => { l with phase := .sleeping })
      else none
    | none => none
  | .overlook id =>
    match m.loop? id with
    | some l =>
      if l.cancelled ∧ l.phase = .polling then
        some (m.updateLoop id fun l => { l with cancelled := false })
      else none
    | none => none
  | .fail id fault =>
    match m.loop? id with
    | some l =>
      if ¬l.cancelled ∧ l.phase = .polling then
        some { m with
          loops := m.loops.filter fun l => l.id ≠ id
          failed := m.failed ++ [(id, fault)] }
      else none
    | none => none
  | .quit id =>
    match m.loop? id with
    | some l =>
      if ¬l.cancelled ∧ l.phase = .polling then
        some { m with loops := m.loops.filter fun l => l.id ≠ id }
      else none
    | none => none
  | .finish id =>
    match m.loop? id with
    | some l =>
      if l.cancelled ∨ (¬m.running ∧ l.phase ≠ .polling) then
        some { m with loops := m.loops.filter fun l => l.id ≠ id }
      else none
    | none => none
  | .stopped id =>
    if id ∈ m.stopping ∧ (m.loop? id).isNone then
      some { m with
        task := if (m.failed.lookup id).isSome then m.task else none
        stopping := m.stopping.erase id }
    else none

/-- The monitor after some steps, if each is possible in its turn. -/
def replay? (m : Monitor) (events : List MonitorEvent) : Option Monitor := events.foldlM step? m

/-- The monitor after a step, or as it is if the step is not possible. -/
def step (m : Monitor) (event : MonitorEvent) : Monitor := (m.step? event).getD m

end Monitor

end DeviceWarnings
