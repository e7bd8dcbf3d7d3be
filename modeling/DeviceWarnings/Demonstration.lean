import DeviceWarnings.Engine.Monitoring

/-!
# The demonstration

A demonstration monitors a device for some time, prints every poll, and ends with the statistics
and events. It is in three parts, so that the polls may be as far apart as they should be.

A poll is printed in two lines, one for each warning. The threshold is shown with one place.
-/

namespace DeviceWarnings

/-- The limit of a threshold with its unit, or that there is none. -/
def limitText (limit : Option Value) : Except Fault String :=
  match limit with
  | none => .ok "disabled"
  | some v => (v.fixed 1).map (· ++ "°C")

/-- The icon of a warning that is shown, or of one that is not. -/
def warningIcon (shown : String) (state : WarningState) : String :=
  if state.isShown then shown else "✅"

/-- The line about overheating. -/
def thermalLine (state : PollState) (threshold : String) : String :=
  "   " ++ warningIcon "🔥" state.thermalWarning ++ " Thermal: " ++ state.thermalWarning.name ++
    " (threshold " ++ threshold ++ ")\n"

/-- The line about the battery. -/
def batteryLine (state : PollState) (known : Bool) : Text :=
  if known then
    "   " ++ warningIcon "🔋" state.batteryWarning ++ " Battery: " ++
      state.batteryWarning.name ++ " (bucket " ++ state.previous.bucket.shown ++
      ", plugged " ++ state.previous.plugged.shown ++ ")\n"
  else "   ⚠️  Battery status unavailable\n"

/-- The two lines about a state, a limit and whether the battery is known. -/
def PollState.printed (state : PollState) (limit : Option Value) (known : Bool) :
    Except Fault Text := do
  return thermalLine state (← limitText limit) ++ batteryLine state known

/-- The two lines of a report. -/
def PollReport.printed (report : PollReport) : Except Fault Text :=
  report.state.printed report.thermal.limit report.battery.isSome

namespace Demonstration

/-- What printing a poll does. -/
def printing (report : PollReport) : CallbackRun :=
  match report.printed with
  | .ok text => { printed := some text }
  | .error fault => { fault := some fault }

/-- The given callbacks and the one that prints polls. -/
def behaviour (others : CallbackBehaviour) : CallbackBehaviour := fun callback report =>
  match callback with
  | .printer => printing report
  | .named _ => others callback report

/-- The seconds between two polls. -/
def intervalSeconds : Nat := 5

/-- The seconds for which a demonstration lasts. -/
def duration : Nat := 120

/-- The number of polls that fit into a demonstration. -/
def pollCount : Nat := duration / intervalSeconds

/-- Prints a text. -/
def say (text : Text) : Section Unit := Section.perform (.print text)

/-- The preparations, up to the start of the monitor. -/
def preparing : Section Unit := do
  say "🔥 Initializing power warnings...\n"
  Section.modify fun e => { e with updateInterval := Binary64.ofInt intervalSeconds }
  Section.request (.register .printer)

/-- The words after the start of the monitor. -/
def announcing : Section Unit := say "✅ Monitoring started!\n\n"

/-- The opening, with the start of the monitor. -/
def opening : Section Unit := do
  preparing
  Section.startMonitor
  announcing

/-- Some polls with the same answers from the sources. -/
def polls (others : CallbackBehaviour) (readings : Readings) (count : Nat) : Section Unit :=
  Section.monitorCycles (behaviour others) readings count

/-- An event as the report prints it. -/
def eventLine (event : WarningEvent) : Text :=
  "   " ++ event.channel.name ++ " " ++ event.action.name ++ ": " ++ event.description ++ "\n"

/-- The parting words before the monitor is stopped. -/
def parting (interrupted : Bool) : Section Unit := do
  if interrupted then say "\n⚠️  Interrupted by user\n"
  say "\n🛑 Stopping monitoring...\n"

/-- The statistics and events, when the monitor has stopped. -/
def report : Section Unit := do
  let e ← Section.engine
  let figures ← Section.ofExcept e.statistics
  say ("📊 Statistics:\n   Polls: " ++ toString figures.pollsCompleted ++ "\n   Read failures: " ++
    toString figures.readFailures ++ "\n")
  e.events.forM fun event => say (eventLine event)

/-- The closing, from the end of the monitor on. -/
def closing (interrupted : Bool) : Section Unit := do
  parting interrupted
  Section.stopMonitor
  report

end Demonstration

/-- What the printing of a demonstration shows of an effect. -/
def Effect.printedText : Effect → Text
  | .print text => text
  | .callback .printer _ (some text) => text
  | _ => []

end DeviceWarnings
