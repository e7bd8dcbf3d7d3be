import DeviceWarnings.Device.Tree
import DeviceWarnings.Fault
import DeviceWarnings.Text.LetterCase
import DeviceWarnings.Text.Numeral

/-!
# Thermal zones

A device offers its temperature sensors as thermal zones: directories with a type, a current
temperature and trip points, all temperatures in thousandths of a degree. Each sensor class is
served by the first zone, in the order of names, whose type starts with one of the class's words;
which zone that is is settled once. The shutdown temperature of a zone is that of its first
critical trip point.

The failed readings of each class are counted up to its next successful one.
-/

namespace DeviceWarnings

/-- The words with which the type of a zone of this class may start. -/
def SensorClass.typeWords : SensorClass → List String
  | .skin => ["skin-therm", "sys-therm-0", "quiet-therm", "xo-therm"]
  | .cpu => ["cpuss", "cpu-"]
  | .battery => ["battery"]

/-- Whether a zone type belongs to a class. -/
def SensorClass.accepts (sensor : SensorClass) (zoneType : Text) : Bool :=
  sensor.typeWords.any fun word => (Text.ofString word).isPrefixOf zoneType

/-- The directory name of the zone of each class that has one, in the order of discovery. -/
abbrev ZoneMap := List (SensorClass × String)

namespace ZoneMap

/-- The zone of a class. -/
def zone? (zones : ZoneMap) (sensor : SensorClass) : Option String := zones.lookup sensor

/-- The map after a zone of a given type: it serves each class that accepts it and has no zone
yet. -/
def withZone (zones : ZoneMap) (zone : String) (zoneType : Text) : ZoneMap :=
  SensorClass.all.foldl
    (fun zones sensor =>
      if (zones.zone? sensor).isNone ∧ sensor.accepts zoneType then zones ++ [(sensor, zone)]
      else zones)
    zones

end ZoneMap

/-- The spelling in which types are compared. -/
def typeSpelling (t : Text) : Text := t.trim.smalls

/-- The map after one more zone directory. A zone whose type cannot be reached is passed over;
a type that is no text is a fault. -/
def discoverZone (tree : DeviceTree) (base : DevicePath) (zones : ZoneMap) (zone : String) :
    Except Fault ZoneMap :=
  match tree.readText (base ++ [zone, "type"]) with
  | .ok t => .ok (zones.withZone zone (typeSpelling t))
  | .error .unreachable => .ok zones
  | .error .notUnicode => .error .notUnicode

/-- The names of the zone directories in order. -/
def zoneNames (tree : DeviceTree) (base : DevicePath) : List String :=
  (tree.children base).filter fun name => "thermal_zone".toList.isPrefixOf name.toList

/-- The zone of each class. -/
def discoverZones (tree : DeviceTree) (base : DevicePath) : Except Fault ZoneMap :=
  (zoneNames tree base).foldlM (discoverZone tree base) []

/-- The temperature in a file of thousandths of a degree. -/
def readThousandths? (tree : DeviceTree) (path : DevicePath) : Option Binary64 := do
  let t ← (tree.readText path).toOption
  return (← t.trim.number?).divNat 1000

/-- Whether a name is that of the type of a trip point. -/
def isTripType (name : String) : Bool :=
  let (opening, ending) := ("trip_point_".toList, "_type".toList)
  opening.isPrefixOf name.toList && ending.isSuffixOf name.toList &&
    opening.length + ending.length ≤ name.length

/-- The types of the trip points of a zone in the order of names. -/
def tripTypes (tree : DeviceTree) (zone : DevicePath) : List String :=
  (tree.children zone).filter isTripType

/-- Characters with another part in place of each occurrence of a part, from left to right. The
first ones may still belong to an occurrence that was replaced. -/
def replaceParts (part other : List Char) : Nat → List Char → List Char
  | _, [] => []
  | replaced + 1, _ :: rest => replaceParts part other replaced rest
  | 0, c :: rest =>
    if part.isPrefixOf (c :: rest) then other ++ replaceParts part other (part.length - 1) rest
    else c :: replaceParts part other 0 rest

/-- The file with the temperature of a trip point, by the file with its type. -/
def tripTemperature (tripType : String) : String :=
  String.ofList (replaceParts "_type".toList "_temp".toList 0 tripType.toList)

/-- The temperature of the first critical trip point among some. A type that cannot be read ends
the search. -/
def criticalTemperature (tree : DeviceTree) (zone : DevicePath) :
    List String → Except ReadProblem (Option Binary64)
  | [] => .ok none
  | trip :: rest =>
    match tree.readText (zone ++ [trip]) with
    | .error problem => .error problem
    | .ok t =>
      if typeSpelling t = ("critical" : Text) then
        match readThousandths? tree (zone ++ [tripTemperature trip]) with
        | some x => .ok (some x)
        | none => .error .unreachable
      else criticalTemperature tree zone rest

/-- The sensors of a device: its zones, and the failed readings of each class since its last
successful one, for the classes that have been read. -/
structure ThermalSensors where
  base : DevicePath
  zones : ZoneMap
  failures : SensorClass → Option Nat := fun _ => none

namespace ThermalSensors

/-- The sensors under a base directory. -/
def discover (tree : DeviceTree) (base : DevicePath) : Except Fault ThermalSensors := do
  return { base := base, zones := ← discoverZones tree base }

/-- The directory of the zone of a class. -/
def zonePath (sensors : ThermalSensors) (sensor : SensorClass) : Except Fault DevicePath :=
  match sensors.zones.zone? sensor with
  | some zone => .ok (sensors.base ++ [zone])
  | none => .error (.unavailable (.noZone sensor))

/-- The sensors with a new count of failures of a class. -/
def setFailures (sensors : ThermalSensors) (sensor : SensorClass) (count : Nat) :
    ThermalSensors :=
  { sensors with
    failures := fun other => if other = sensor then some count else sensors.failures other }

/-- Reads the current temperature of a class, and counts the failure or ends the count. -/
def readCurrent (sensors : ThermalSensors) (tree : DeviceTree) (sensor : SensorClass) :
    Except Fault Binary64 × ThermalSensors :=
  match sensors.zonePath sensor with
  | .error fault => (.error fault, sensors)
  | .ok zone =>
    match readThousandths? tree (zone ++ ["temp"]) with
    | some x => (.ok x, sensors.setFailures sensor 0)
    | none =>
      (.error (.unavailable (.temperatureUnreadable sensor)),
        sensors.setFailures sensor ((sensors.failures sensor).getD 0 + 1))

/-- The temperature at which the device shuts down on account of a class. -/
def shutdownTemperature (sensors : ThermalSensors) (tree : DeviceTree) (sensor : SensorClass) :
    Except Fault Binary64 := do
  let zone ← sensors.zonePath sensor
  match criticalTemperature tree zone (tripTypes tree zone) with
  | .ok (some x) => return x
  | .ok none => throw (.unavailable (.noCriticalTrip sensor))
  | .error _ => throw (.unavailable (.shutdownUnreadable sensor))

end ThermalSensors

end DeviceWarnings
