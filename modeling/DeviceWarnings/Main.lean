import DeviceWarnings.Demonstration
import DeviceWarnings.Device

/-!
# The demonstration on this device

The program runs the demonstration on the device that it finds itself on: the thermal zones of the
kernel and the settings file in the home directory. The two power commands are run by someone
else: their outputs are looked for in the files that the arguments name, first the battery report
and then whether power is being saved. A command without such a file is missing.

Only looking at files, waiting and printing are here; all else is decided by the library.
-/

namespace DeviceWarnings

namespace Demonstration

/-- Where the kernel shows its thermal zones. -/
def thermalDirectory : String := "/sys/class/thermal"

/-- The name of the settings file in the home directory. -/
def settingsName : String := ".power_warnings.json"

/-- The names on the way to a path. -/
def pathNames (path : String) : DevicePath := (path.splitOn "/").filter (· ≠ "")

/-- The most thermal zones that are looked at. -/
def zoneCount : Nat := 128

/-- The most lists and mappings that may lie one in another in what is read. -/
def depthLimit : Nat := 990

/-- The most trip points of a zone that are looked at. -/
def tripCount : Nat := 16

/-- The files of a zone that tell something about temperatures. -/
def zoneFiles : List String :=
  "temp" :: (List.range tripCount).flatMap fun trip =>
    ["trip_point_" ++ toString trip ++ "_type", "trip_point_" ++ toString trip ++ "_temp"]

/-- What lies at a path. Anything that is there and is no readable file counts as a directory. -/
def lookAt (path : String) : IO (Option DeviceNode) := do
  try
    return some (.file (← IO.FS.readBinFile path))
  catch
    | .noFileOrDirectory .. => return none
    | _ => return some .directory

/-- Looks at a path, for a list of what lies where. -/
def entryAt (path : String) : IO (DevicePath × Option DeviceNode) := do
  return (pathNames path, ← lookAt path)

/-- The files of one zone; without a type it is no zone. -/
def lookAtZone (number : Nat) : IO (List (DevicePath × Option DeviceNode)) := do
  let zone := thermalDirectory ++ "/thermal_zone" ++ toString number ++ "/"
  let zoneType ← entryAt (zone ++ "type")
  if zoneType.2.isNone then return []
  return zoneType :: (← zoneFiles.mapM fun name => entryAt (zone ++ name))

/-- The files of this device. -/
def lookAtDevice (settings : String) : IO DeviceTree := do
  let zones ← (List.range zoneCount).mapM lookAtZone
  return .ofList ((← entryAt settings) :: zones.flatten)

/-- How a power command ended whose output is looked for in a file. -/
def lookAtOutput (path : Option String) : IO CommandOutcome := do
  let some path := path | return .missing
  match ← lookAt path with
  | some (.file output) => return .finished 0 output
  | _ => return .missing

/-- The time in seconds. -/
def clock : IO Binary64 := do
  return (Binary64.ofInt (← IO.monoMsNow)).divNat 1000

/-- Shows an effect: texts are printed, log records go to the standard error. -/
def showEffect (effect : Effect) : IO Unit := do
  match Presenter.logging.render effect with
  | .log record =>
    IO.eprintln (record.source.name ++ " " ++ record.level.name ++ " " ++ record.message.display)
  | effect => IO.print effect.printedText.display

/-- Takes an engine through a section, shows the effects, and answers with the engine after it. -/
def goThrough (engine : Engine) (part : Section Unit) : IO Engine := do
  let progress := part engine
  progress.effects.forM showEffect
  (← IO.getStdout).flush
  match progress.outcome with
  | .ok () => return progress.engine
  | .error fault => throw (IO.userError fault.message.display)

/-- The whole demonstration, with the files that hold the outputs of the power commands. -/
def runOnDevice (battery saver : Option String) : IO Unit := do
  let settings := (← IO.getEnv "HOME").getD "" ++ "/" ++ settingsName
  let found := Device.ofTree (← lookAtDevice settings) (pathNames thermalDirectory)
    (pathNames settings) settings depthLimit
  let device ← IO.ofExcept (found.mapError fun fault => fault.message.display)
  [device.sensors.zones.record, Engine.created].forM fun record => showEffect (.log record)
  let mut engine ← goThrough (.new (← clock)) opening
  for _ in List.range pollCount do
    let current := { device with
      tree := ← lookAtDevice settings
      battery := ← lookAtOutput battery
      saver := ← lookAtOutput saver }
    let readings := current.readings .absent (← clock) .skin
    engine ← goThrough engine (polls (fun _ _ => {}) readings 1)
    IO.sleep (UInt32.ofNat (1000 * intervalSeconds))
  discard (goThrough engine (closing false))

end Demonstration

end DeviceWarnings

/-- Runs the demonstration on this device. -/
def main (args : List String) : IO Unit :=
  DeviceWarnings.Demonstration.runOnDevice args[0]? args[1]?
