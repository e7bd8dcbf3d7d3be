import DeviceWarnings.Engine.Section

/-!
# Callbacks

Callbacks are registered each once and at most ten at a time: a further one drives out the
oldest. After a completed poll every callback that is registered at that moment is run once, in
order, with the same report. What a callback registers or removes meanwhile counts for later
polls, and one that fails is logged and keeps none of the others from running, unless it is
interrupted or its fault cannot be told in the log: this ends the poll.
-/

namespace DeviceWarnings

/-- A change of the registered callbacks. -/
inductive CallbackRequest where
  | register (callback : Callback)
  | unregister (callback : Callback)
  | clear
  deriving DecidableEq, Repr

/-- What a callback does when it is run: whether it first waits for its turn once more, the changes
it asks for, what it prints, whether it fails in the end, and what goes wrong, if anything does,
when its fault is told in the log. -/
structure CallbackRun where
  waits : Bool := false
  requests : List CallbackRequest := []
  printed : Option Text := none
  fault : Option Fault := none
  untold : Option Fault := none

/-- The fault of a callback that nobody contains: an interruption, or what goes wrong when another
fault is told. -/
def CallbackRun.escape (run : CallbackRun) : Option Fault :=
  run.fault.bind fun fault => if fault.isInterruption then some fault else run.untold

/-- How a callback runs with a report. -/
abbrev CallbackBehaviour := Callback → PollReport → CallbackRun

namespace Engine

/-- The engine with the callbacks changed as asked for. -/
def withRequest (engine : Engine) : CallbackRequest → Engine
  | .register callback =>
    if callback ∈ engine.callbacks then engine
    else
      { engine with
        callbacks := keepLast (some callbackCapacity) (engine.callbacks ++ [callback]) }
  | .unregister callback => { engine with callbacks := engine.callbacks.erase callback }
  | .clear => { engine with callbacks := [] }

/-- What is logged about a change of the callbacks. -/
def requestLog (engine : Engine) : CallbackRequest → List LogRecord
  | .register callback =>
    if callback ∈ engine.callbacks then []
    else
      ⟨.info, .engine, "Registered poll callback: " ++ callback.name⟩ ::
        if callbackCapacity ≤ engine.callbacks.length then
          [⟨.warning, .engine, "Poll callbacks exceeded " ++ toString callbackCapacity ++
            " - removing oldest"⟩]
        else []
  | .unregister callback =>
    if callback ∈ engine.callbacks then
      [⟨.info, .engine, "Unregistered poll callback: " ++ callback.name⟩]
    else []
  | .clear => []

end Engine

namespace Section

/-- Changes the callbacks as asked for. -/
def request (change : CallbackRequest) : Section Unit := fun e =>
  ⟨e.withRequest change, (e.requestLog change).map .log, .ok ()⟩

/-- Runs one callback. -/
def runCallback (behaviour : CallbackBehaviour) (report : PollReport) (callback : Callback) :
    Section Unit := do
  let run := behaviour callback report
  perform (.callback callback report run.printed)
  run.requests.forM request
  match run.escape with
  | some fault => ofExcept (.error fault)
  | none =>
    run.fault.forM fun fault =>
      log .error .engine ("Poll callback error in " ++ callback.name ++ ": " ++ fault.message)

/-- Runs the callbacks that are registered now, up to one whose fault nobody contains. -/
def runCallbacks (behaviour : CallbackBehaviour) (report : PollReport) : Section Unit := do
  (← engine).callbacks.forM (runCallback behaviour report)

end Section

end DeviceWarnings
