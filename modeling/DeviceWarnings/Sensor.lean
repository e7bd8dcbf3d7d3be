/-!
# Sensor classes

The classes of temperature sensors that the hardware tells apart.
-/

namespace DeviceWarnings

/-- A class of temperature sensors. -/
inductive SensorClass where
  | skin
  | cpu
  | battery
  deriving DecidableEq, Repr

namespace SensorClass

/-- The name of a class in messages. -/
def name : SensorClass → String
  | skin => "SKIN"
  | cpu => "CPU"
  | battery => "BATTERY"

/-- All classes, in the order in which a zone is matched against them. -/
def all : List SensorClass := [skin, cpu, battery]

end SensorClass

end DeviceWarnings
