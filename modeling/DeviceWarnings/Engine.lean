import DeviceWarnings.Battery.Rules
import DeviceWarnings.Monitor
import DeviceWarnings.Thermal.History
import DeviceWarnings.Thermal.Rules

/-!
# The warning engine

The engine is the only thing that changes from poll to poll. It carries the state of both
warnings and the last power reading, keeps recent temperatures and events, and counts polls and
failed reads. What it does apart from that is a list of effects: log records, changes on display,
and callbacks that were run.

A presenter puts warnings on display. The attentive one only takes notice of each change; the
logging one has no display of its own and writes each change to the log.
-/

namespace DeviceWarnings

/-- What is carried from one poll to the next. -/
structure PollState where
  previous : PreviousPower := {}
  batteryWarning : WarningState := .hidden
  thermalWarning : WarningState := .hidden
  deriving DecidableEq

instance : Inhabited PollState := ⟨{}⟩

/-- The state of one of the two warnings. -/
def PollState.warning (s : PollState) : Channel → WarningState
  | .thermal => s.thermalWarning
  | .battery => s.batteryWarning

/-- What a completed poll tells: the state after it, and both decisions. Without a power state
there is no decision about the battery. -/
structure PollReport where
  state : PollState
  thermal : ThermalDecision
  battery : Option BatteryDecision
  deriving DecidableEq

/-- How serious a log record is. -/
inductive LogLevel where
  | info
  | warning
  | error
  deriving DecidableEq, Repr

/-- The name of a level. -/
def LogLevel.name : LogLevel → String
  | info => "INFO"
  | warning => "WARNING"
  | error => "ERROR"

/-- Which part of the library writes a log record. -/
inductive LogSource where
  | engine
  | thermal
  | providers
  deriving DecidableEq, Repr

/-- The name of a source. -/
def LogSource.name : LogSource → String
  | engine => "PNGN.PowerWarnings"
  | thermal => "PNGN.PowerWarnings.Thermal"
  | providers => "PNGN.PowerWarnings.Providers"

/-- A record in the log. -/
structure LogRecord where
  level : LogLevel
  source : LogSource
  message : Text
  deriving DecidableEq

/-- A callback that may be run after polls: one that someone has named, or the one that prints
polls. The two are different even under one name. -/
inductive Callback where
  | named (name : Text)
  | printer
  deriving DecidableEq, Repr

/-- The name of a callback in messages. -/
def Callback.name : Callback → Text
  | named name => name
  | printer => "print_poll"

/-- Something the engine does that can be seen outside. -/
inductive Effect where
  /-- A log record is written. -/
  | log (record : LogRecord)
  /-- A warning is put on display, or taken off. -/
  | present (channel : Channel) (action : WarningAction)
  /-- A callback is run with a report, and may print something. -/
  | callback (callback : Callback) (report : PollReport) (printed : Option Text)
  /-- A text is printed. -/
  | print (text : Text)
  deriving DecidableEq

/-- The change on display that an effect is, if it is one. -/
def Effect.change? : Effect → Option (Channel × WarningAction)
  | present channel action => some (channel, action)
  | _ => none

/-- Who puts warnings on display: someone who only takes notice, or the log. -/
inductive Presenter where
  | attentive
  | logging
  deriving DecidableEq, Repr

/-- The log record of a change on display. -/
def displayRecord (channel : Channel) (action : WarningAction) : LogRecord :=
  match channel, action with
  | .thermal, .raise => ⟨.warning, .providers, "⚠️  Device is overheating"⟩
  | .thermal, .dismiss => ⟨.info, .providers, "Overheating warning cleared"⟩
  | .battery, .raise => ⟨.warning, .providers, "🔋 Battery is low"⟩
  | .battery, .dismiss => ⟨.info, .providers, "Low battery warning dismissed"⟩

/-- An effect as a presenter renders it. -/
def Presenter.render : Presenter → Effect → Effect
  | .logging, .present channel action => .log (displayRecord channel action)
  | _, effect => effect

/-- The number of temperatures that are kept. -/
def temperatureCapacity : Nat := 125

/-- The number of events that are kept. -/
def eventCapacity : Nat := 200

/-- The number of callbacks that may be registered at a time. -/
def callbackCapacity : Nat := 10

/-- The seconds between two lines of temperature statistics. -/
def statisticsInterval : Number := Binary64.ofInt 3600

/-- The warning engine between two steps. -/
structure Engine where
  state : PollState := {}
  temperatures : TemperatureHistory := { capacity := some temperatureCapacity }
  events : List WarningEvent := []
  lastStatistics : Binary64
  pollsCompleted : Nat := 0
  readFailures : Nat := 0
  callbacks : List Callback := []
  updateInterval : Value := Binary64.ofInt 30
  monitor : Monitor := {}
  deriving DecidableEq

/-- The figures that an engine tells about itself. -/
structure EngineStatistics where
  pollsCompleted : Nat
  readFailures : Nat
  events : Nat
  thermalWarning : WarningState
  batteryWarning : WarningState
  recentTemperatures : Option TemperatureSummary
  deriving DecidableEq

namespace Engine

/-- A new engine at a given time. -/
def new (clock : Binary64) : Engine := { lastStatistics := clock }

/-- The log record of a new engine. -/
def created : LogRecord := ⟨.info, .engine, "Warning engine initialized"⟩

/-- The figures of an engine. -/
def statistics (engine : Engine) : Except Fault EngineStatistics := do
  return {
    pollsCompleted := engine.pollsCompleted
    readFailures := engine.readFailures
    events := engine.events.length
    thermalWarning := engine.state.thermalWarning
    batteryWarning := engine.state.batteryWarning
    recentTemperatures := ← engine.temperatures.summary }

end Engine

end DeviceWarnings
