import DeviceWarnings.Device.Commands
import DeviceWarnings.Device.Sensors
import DeviceWarnings.Engine.Readings
import DeviceWarnings.Settings.Resolve

/-!
# Devices

A device as an engine finds it: its files, the thermal zones that were discovered in them, where
the settings file lies, and how the two power commands end. The sources of a poll read the device
anew each time; only the choice of the zones is settled once.
-/

namespace DeviceWarnings

/-- A device. The label of the settings file is the path that messages show, and the depth limit
says how many lists and mappings may lie one in another in what is read. -/
structure Device where
  tree : DeviceTree
  sensors : ThermalSensors
  settingsPath : DevicePath
  settingsLabel : String
  depthLimit : Nat
  battery : CommandOutcome := .missing
  saver : CommandOutcome := .missing

/-- What the source of the hybrid estimate answers where there is no such estimate: that it is
switched off and that time never runs out. -/
def HybridReadings.absent : HybridReadings := ⟨.ok false, .ok (Binary64.infinity false)⟩

/-- The log record about discovered zones. -/
def ZoneMap.record (zones : ZoneMap) : LogRecord :=
  ⟨.info, .providers, "Discovered thermal zones for " ++
    (Value.list (zones.map fun zone => .text (Text.ofString zone.1.name))).render⟩

namespace Device

/-- A device with the given files, whose power commands are missing. -/
def ofTree (tree : DeviceTree) (thermalBase settingsPath : DevicePath)
    (settingsLabel : String) (depthLimit : Nat) : Except Fault Device := do
  let sensors ← ThermalSensors.discover tree thermalBase
  return { tree, sensors, settingsPath, settingsLabel, depthLimit }

/-- The settings on a device. -/
def settings (device : Device) : Except Fault WarningSettings :=
  readSettingsFile device.depthLimit device.settingsLabel (device.tree.node? device.settingsPath)

/-- What the sources of a poll answer on a device. -/
def readings (device : Device) (hybrid : HybridReadings) (clock : Binary64)
    (sensor : SensorClass) : Readings :=
  let reading (answer : Except Fault Binary64) : Except Fault Value := answer.map (↑·)
  ⟨⟨clock, device.settings, reading (device.sensors.readCurrent device.tree sensor).1,
      reading (device.sensors.shutdownTemperature device.tree sensor)⟩,
    ⟨clock, readPowerState device.depthLimit device.battery device.saver, hybrid⟩⟩

/-- How many turns pass before the power source answers while others wait in a queue: three when
neither command can even be started, and otherwise more than all else takes. -/
def answerDelay (device : Device) : Option Nat :=
  match device.battery, device.saver with
  | .missing, .missing => some 3
  | _, _ => none

end Device

end DeviceWarnings
