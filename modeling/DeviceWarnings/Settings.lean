import DeviceWarnings.Value

/-!
# Settings

The settings that one poll works with. Their defaults derive the overheating threshold from the
temperature at which the device shuts down, keep 3 degrees below it, clear the warning as soon
as the device has cooled, and warn of a low battery below bucket 0 or below three hours.
-/

namespace DeviceWarnings

/-- How a shown overheating warning is cleared. -/
inductive ClearPolicy where
  | onCooldown
  | manual
  deriving DecidableEq, Repr

namespace ClearPolicy

/-- The name of a policy in settings. -/
def name : ClearPolicy → String
  | onCooldown => "on_cooldown"
  | manual => "manual"

/-- All policies. -/
def all : List ClearPolicy := [onCooldown, manual]

end ClearPolicy

/-- Where the choice to show overheating warnings comes from. -/
inductive WarningSource where
  | config
  | userSetting
  deriving DecidableEq, Repr

namespace WarningSource

/-- The name of a source in records. -/
def name : WarningSource → String
  | config => "CONFIG"
  | userSetting => "USER_SETTING"

/-- The name of a source in messages. -/
def label : WarningSource → String
  | config => "config"
  | userSetting => "user_setting"

end WarningSource

/-- The settings that a user may change. -/
inductive SettingKey where
  | showTemperatureWarning
  | warningTemperature
  | warningTemperatureTolerance
  | thermalClearPolicy
  | thermalClearMargin
  deriving DecidableEq, Repr

namespace SettingKey

/-- The name of a setting in a settings file. -/
def name : SettingKey → String
  | showTemperatureWarning => "show_temperature_warning"
  | warningTemperature => "warning_temperature"
  | warningTemperatureTolerance => "warning_temperature_tolerance"
  | thermalClearPolicy => "thermal_clear_policy"
  | thermalClearMargin => "thermal_clear_margin"

/-- All settings that a user may change. -/
def all : List SettingKey :=
  [showTemperatureWarning, warningTemperature, warningTemperatureTolerance, thermalClearPolicy,
    thermalClearMargin]

end SettingKey

/-- The configured temperature that stands for a threshold derived from the shutdown
temperature. -/
def deriveMark : Value := .number (.integer (-1))

/-- Resolved settings for one poll. A temperature, tolerance or margin is in degrees Celsius, a
time threshold in seconds; buckets up to the bucket threshold are in warning. The amounts are
kept as they were given; the rules say what becomes of one that is no number. So is the choice to
show overheating warnings, of which the rules take the truth. -/
structure WarningSettings where
  showTemperatureWarning : Value := .flag true
  warningSource : WarningSource := .config
  warningTemperature : Value := deriveMark
  warningTemperatureTolerance : Value := Binary64.ofInt 3
  thermalClearPolicy : ClearPolicy := .onCooldown
  thermalClearMargin : Value := Binary64.ofInt 0
  warningBucketThreshold : Value := .number (.integer (-1))
  standardTimeThreshold : Value := Binary64.ofInt 10800
  hybridTimeThreshold : Value := Binary64.ofInt 10800
  deriving DecidableEq

instance : Inhabited WarningSettings := ⟨{}⟩

end DeviceWarnings
