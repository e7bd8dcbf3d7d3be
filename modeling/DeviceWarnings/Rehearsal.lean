import DeviceWarnings.Engine.Contracts
import DeviceWarnings.Engine.LoopTurns
import DeviceWarnings.Rehearsal.Step

/-!
# Rehearsals

A rehearsal takes an engine through given steps. Time stands still unless a step lets it pass.
Each step has an answer or a fault, and the effects that could be seen meanwhile; steps that are
repeated in bulk only count what was put on display.

A monitor whose start has ended by a fault leaves its loop behind. The loop goes on whenever a step
waits for a poll, until it cannot sleep, or until the monitor is stopped.
-/

namespace DeviceWarnings

/-- A rehearsal between two steps. Without a device all sources are told what to answer; with one
only the hybrid estimate may be. -/
structure Rehearsal where
  queue : TurnQueue
  clock : Binary64
  sensor : SensorClass := .skin
  presenter : Presenter := .attentive
  sources : ToldSources := {}
  device : Option Device := none
  hybridTold : Bool := true
  kinds : List (Text × CallbackKind) := []

/-- What came of a step: its answer or fault, and its effects. -/
structure StepOutcome where
  answer : Except Fault RehearsalAnswer := .ok .nothing
  effects : List Effect := []

namespace Rehearsal

/-- The time at which rehearsals begin. -/
def openingTime : Binary64 := .ofInt 1000

/-- A new rehearsal, and its first log records. -/
def new (sensor : SensorClass) (presenter : Presenter) (device : Option Device)
    (hybridTold : Bool) : Rehearsal × List Effect :=
  ({ queue := .ofEngine (.new openingTime), clock := openingTime, sensor, presenter, device,
     hybridTold },
    (device.elim [] fun d => [d.sensors.zones.record]).map .log ++ [.log Engine.created])

/-- The engine in its present state. -/
def engine (r : Rehearsal) : Engine := r.queue.engine

/-- What the sources answer now. -/
def readings (r : Rehearsal) : Readings :=
  let told := r.sources.readings r.clock
  r.device.elim told fun device =>
    device.readings (if r.hybridTold then told.power.hybrid else .absent) r.clock r.sensor

/-- What the callbacks do. -/
def behaviour (r : Rehearsal) : CallbackBehaviour := fun callback report =>
  ((r.kinds.lookup callback.name).getD .quiet).run callback report

/-- The rehearsal in which a callback has been mentioned with a kind. -/
def mention (r : Rehearsal) (name : Text) (kind : CallbackKind) : Rehearsal :=
  if (r.kinds.lookup name).isSome then r else { r with kinds := r.kinds ++ [(name, kind)] }

/-- The rehearsal and what came of a step, when the queue is what the step has left. -/
def after (r : Rehearsal) (queue : TurnQueue) (answer : Except Fault RehearsalAnswer) :
    Rehearsal × StepOutcome :=
  ({ r with queue := queue.afresh }, ⟨answer, queue.turns.effects.map r.presenter.render⟩)

/-- Goes through a section and answers with its value. -/
def through {α : Type} (r : Rehearsal) (part : Section α)
    (answer : Engine → α → RehearsalAnswer) : Rehearsal × StepOutcome :=
  let (queue, outcome) := r.queue.act part
  r.after queue (outcome.map (answer queue.engine))

/-- Changes the callbacks and answers with their names. -/
def request (r : Rehearsal) (change : CallbackRequest) : Rehearsal × StepOutcome :=
  r.through (Section.request change) fun engine _ => .names (engine.callbacks.map Callback.name)

/-- The turns until the power source answers while others wait in a queue: none for a source that is
told its answers, or what the device takes. -/
def answerDelay (r : Rehearsal) : Option Nat := r.device.elim (some 0) Device.answerDelay

/-- Polls once. -/
def poll (r : Rehearsal) : Rehearsal × StepOutcome :=
  let (queue, outcome) := r.queue.poll r.behaviour r.readings r.answerDelay Value.pause
  r.after queue (outcome.map fun _ => .nothing)

/-- Starts some polls together. -/
def together (r : Rehearsal) (count : Nat) : Rehearsal × StepOutcome :=
  let (queue, outcomes) :=
    r.queue.pollTogether r.behaviour r.readings r.answerDelay Value.pause count
  r.after queue (.ok (.outcomes (outcomes.map fun outcome => outcome.map PollReport.state)))

/-- How sleeps end whose end is up to the rehearsal. -/
def patience (_ : Value) : Except Fault Bool := .ok false

/-- Stops the monitor. -/
def stop (r : Rehearsal) : Rehearsal × StepOutcome :=
  let (queue, outcome) := r.queue.stopMonitor r.behaviour r.readings r.answerDelay Value.pause
  r.after queue (outcome.map fun _ => .nothing)

/-- Monitors for some cycles. -/
def monitor (r : Rehearsal) (cycles : Nat) (interval : Value) (twice : Bool) :
    Rehearsal × StepOutcome :=
  let (started, outcome) :=
    (r.queue.withEngine { r.engine with updateInterval := interval }).startMonitor
  match outcome with
  | .error fault => r.after started (.error fault)
  | .ok () =>
    let again := if twice then started.startMonitor.1 else started
    let (stopped, outcome) :=
      (again.pace r.behaviour r.readings r.answerDelay cycles).stopMonitor r.behaviour r.readings
        r.answerDelay patience
    let monitor := stopped.engine.monitor
    r.after stopped (outcome.map fun _ => .monitored monitor.running monitor.task.isNone)

/-- How often each warning was raised and dismissed on display, as far as it was at all. -/
def displayCounts (shown : List (Channel × WarningAction)) : List (Channel × WarningAction × Nat) :=
  let changes : List (Channel × WarningAction) :=
    [(.thermal, .raise), (.thermal, .dismiss), (.battery, .raise), (.battery, .dismiss)]
  (changes.map fun change => (change.1, change.2, shown.count change)).filter (·.2.2 ≠ 0)

/-- Lets time pass, if it is told in seconds. -/
def advance (r : Rehearsal) (seconds : Value) : Rehearsal × StepOutcome :=
  match (r.clock : Value).plus seconds with
  | .ok clock => ({ r with clock := clock.nearest }, {})
  | .error fault => (r, { answer := .error fault })

mutual

/-- The rehearsal after a step, and what came of it. -/
def step (r : Rehearsal) : RehearsalStep → Rehearsal × StepOutcome
  | .tell answers => ({ r with sources := r.sources.tell answers }, {})
  | .write path node =>
    ({ r with device := r.device.map fun d => { d with tree := d.tree.write path node } }, {})
  | .commands battery saver =>
    ({ r with device := r.device.map fun d => { d with battery, saver } }, {})
  | .setState state => ({ r with queue := r.queue.withEngine { r.engine with state } }, {})
  | .advance seconds => r.advance seconds
  | .poll => r.poll
  | .together count => r.together count
  | .again count steps =>
    let (after, shown) := count.repeat (fun (r, shown) => stepAll r shown steps) (r, [])
    (after, ⟨.ok (.displayed (displayCounts shown)), []⟩)
  | .monitor cycles interval twice => r.monitor cycles interval twice
  | .stop => r.stop
  | .register name kind => (r.mention name kind).request (.register (.named name))
  | .unregister name => (r.mention name .quiet).request (.unregister (.named name))
  | .clear => r.through (Section.request .clear) fun _ _ => .nothing
  | .askThermal current shutdown settings =>
    r.through (Section.asksThermal r.readings current shutdown settings)
      fun _ b => .verdict (.flag b)
  | .askRaise q =>
    r.through (Section.asksRaise r.readings q.previous q.power q.hybrid q.settings)
      fun _ v => .verdict v
  | .askDismiss q =>
    r.through (Section.asksDismiss r.readings q.previous q.power q.hybrid q.settings)
      fun _ b => .verdict (.flag b)
  | .events => (r, ⟨.ok (.events r.engine.events), []⟩)
  | .statistics => (r, ⟨r.engine.statistics.map .statistics, []⟩)

/-- The rehearsal after some steps, and the changes on display, the last ones first. -/
def stepAll (r : Rehearsal) (shown : List (Channel × WarningAction)) :
    List RehearsalStep → Rehearsal × List (Channel × WarningAction)
  | [] => (r, shown)
  | first :: rest =>
    let (after, outcome) := step r first
    stepAll after ((outcome.effects.filterMap Effect.change?).reverse ++ shown) rest

end

/-- Takes the steps of a list, and keeps what came of each together with the engine after it. -/
def play (r : Rehearsal) (steps : List RehearsalStep) :
    Rehearsal × List (StepOutcome × Engine) :=
  steps.foldl
    (fun (r, outcomes) next =>
      let (after, outcome) := r.step next
      (after, outcomes ++ [(outcome, after.engine)]))
    (r, [])

/-- The demonstration in a rehearsal, with one poll. -/
def demonstrate (r : Rehearsal) (interrupted : Bool) : Rehearsal × StepOutcome :=
  let behaviour := Demonstration.behaviour r.behaviour
  let prepared := (r.queue.act Demonstration.preparing).1
  let started := (prepared.startMonitor.1.act Demonstration.announcing).1
  let polled := started.pace behaviour r.readings r.answerDelay 1
  let (stopped, outcome) := (polled.act (Demonstration.parting interrupted)).1.stopMonitor behaviour
    r.readings r.answerDelay patience
  match outcome with
  | .ok () =>
    let (reported, outcome) := stopped.act Demonstration.report
    r.after reported (outcome.map fun _ => .nothing)
  | .error fault => r.after stopped (.error fault)

end Rehearsal

end DeviceWarnings
