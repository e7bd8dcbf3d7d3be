import DeviceWarnings.Demonstration
import DeviceWarnings.Rehearsal.Sources

/-!
# Steps of a rehearsal

What may be done in a rehearsal, and what each step answers.
-/

namespace DeviceWarnings

/-- How a callback of a rehearsal behaves: it does nothing more, fails, unregisters itself,
clears the callbacks, or prints the poll. Those that do nothing or fail may wait before. -/
inductive CallbackKind where
  | quiet
  | waiting
  | failing
  | waitingToFail
  | leaving
  | clearing
  | printing
  deriving DecidableEq, Repr

/-- What a callback of a given kind does. -/
def CallbackKind.run (kind : CallbackKind) (callback : Callback) (report : PollReport) :
    CallbackRun :=
  let failure : Fault := .crash ("boom " ++ callback.name)
  match kind with
  | quiet => {}
  | waiting => { waits := true }
  | failing => { fault := some failure }
  | waitingToFail => { waits := true, fault := some failure }
  | leaving => { requests := [.unregister callback] }
  | clearing => { requests := [.clear] }
  | printing => Demonstration.printing report

/-- A question whether to raise or dismiss the low battery warning. Whether the hybrid estimate is
enabled may be left open as null. -/
structure BatteryQuestion where
  previous : PreviousPower
  power : PowerState
  hybrid : HybridEstimate
  settings : Option WarningSettings := none
  deriving DecidableEq

/-- A step of a rehearsal. -/
inductive RehearsalStep where
  /-- Tells the sources new answers. -/
  | tell (answers : ToldAnswers)
  /-- Writes or removes a file of the device. -/
  | write (path : DevicePath) (node : Option DeviceNode)
  /-- Settles how the two power commands end from now on. -/
  | commands (battery saver : CommandOutcome)
  /-- Replaces the state that the engine carries. -/
  | setState (state : PollState)
  /-- Lets time pass. -/
  | advance (seconds : Value)
  /-- Polls once. -/
  | poll
  /-- Starts some polls together. -/
  | together (count : Nat)
  /-- Takes some steps again and again. -/
  | again (count : Nat) (steps : List RehearsalStep)
  /-- Monitors for some cycles; the start may be asked for twice. -/
  | monitor (cycles : Nat) (interval : Value) (twice : Bool)
  /-- Stops the monitor. -/
  | stop
  /-- Registers a callback, which has this kind if it was not mentioned before. -/
  | register (name : Text) (kind : CallbackKind)
  /-- Removes a callback. -/
  | unregister (name : Text)
  /-- Removes all callbacks. -/
  | clear
  /-- Asks whether a temperature calls for a warning. -/
  | askThermal (current shutdown : Value) (settings : Option WarningSettings)
  /-- Asks whether to raise the low battery warning. -/
  | askRaise (question : BatteryQuestion)
  /-- Asks whether to dismiss the low battery warning. -/
  | askDismiss (question : BatteryQuestion)
  /-- Asks for the events. -/
  | events
  /-- Asks for the figures of the engine. -/
  | statistics

/-- What a step answers. -/
inductive RehearsalAnswer where
  | nothing
  | verdict (value : Value)
  | names (callbacks : List Text)
  | outcomes (states : List (Except Fault PollState))
  | displayed (counts : List (Channel × WarningAction × Nat))
  | monitored (running idle : Bool)
  | events (kept : List WarningEvent)
  | statistics (figures : EngineStatistics)

end DeviceWarnings
