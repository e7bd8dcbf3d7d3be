import DeviceWarnings.Device.Tree
import DeviceWarnings.Json.Reader
import DeviceWarnings.Text.LetterCase
import DeviceWarnings.Text.Numeral

/-!
# User settings over defaults

A user setting that is present wins over its default; one that is absent or null does not count,
and unknown keys are ignored. Flags may be given as numbers 0 and 1 or in words, numbers as
texts, and policies in any letter case. The first setting in order that cannot be read is the
one reported.

A settings file holds user settings as one JSON mapping. An absent file means that nothing is set.
A file that is a directory, not UTF-8, not JSON or not a mapping is a problem with the settings;
a whole number of too many digits, or too many lists in one another, is a fault of its own.
-/

namespace DeviceWarnings

/-- The setting with a given name. -/
def SettingKey.ofText? (name : Text) : Option SettingKey :=
  SettingKey.all.find? fun key => Text.ofString key.name = name

namespace Value

/-- A flag, as it is, as a number or as a word. -/
def asFlag? : Value → Option Bool
  | flag b => some b
  | number n => if n.sameValue 0 then some false else if n.sameValue 1 then some true else none
  | text t =>
    let word := t.trim.smalls
    if word = ("1" : Text) ∨ word = ("true" : Text) then some true
    else if word = ("0" : Text) ∨ word = ("false" : Text) then some false
    else none
  | _ => none

/-- A policy by its name. -/
def asPolicy? : Value → Option ClearPolicy
  | text t => ClearPolicy.all.find? fun policy => Text.ofString policy.name = t.trim.smalls
  | _ => none

/-- A binary64 number, as it is, as a whole number or as a numeral; a whole number that is too
large is a fault of its own. -/
def asBinary (refusal : Fault) : Value → Except Fault Binary64
  | number n => n.toBinary?.elim (.error .numberTooLarge) .ok
  | text t => t.number?.elim (.error refusal) .ok
  | _ => .error refusal

end Value

/-- What a user has chosen: the settings that are present, each read by its own rule. -/
structure UserChoices where
  showTemperatureWarning : Option Bool := none
  warningTemperature : Option Binary64 := none
  warningTemperatureTolerance : Option Binary64 := none
  thermalClearPolicy : Option ClearPolicy := none
  thermalClearMargin : Option Binary64 := none
  deriving DecidableEq

namespace UserChoices

/-- The fault of a setting that cannot be read. -/
def refusal (problem : SettingKey → Value → SettingsProblem) (key : SettingKey) (value : Value) :
    Fault :=
  .concerning value (.settings (problem key value))

/-- The choices with one more setting. -/
def choose (choices : UserChoices) (key : SettingKey) (value : Value) :
    Except Fault UserChoices :=
  match key with
  | .showTemperatureWarning =>
    match value.asFlag? with
    | some b => .ok { choices with showTemperatureWarning := some b }
    | none => .error (refusal .notFlag key value)
  | .warningTemperature => do
    let x ← value.asBinary (refusal .notNumber key value)
    return { choices with warningTemperature := some x }
  | .warningTemperatureTolerance => do
    let x ← value.asBinary (refusal .notNumber key value)
    return { choices with warningTemperatureTolerance := some x }
  | .thermalClearPolicy =>
    match value.asPolicy? with
    | some policy => .ok { choices with thermalClearPolicy := some policy }
    | none => .error (refusal .unknownPolicy key value)
  | .thermalClearMargin => do
    let x ← value.asBinary (refusal .notNumber key value)
    return { choices with thermalClearMargin := some x }

/-- The choices after one entry of a mapping: unknown keys and null values change nothing. -/
def readEntry (choices : UserChoices) (entry : Text × Value) : Except Fault UserChoices :=
  match SettingKey.ofText? entry.1, entry.2 with
  | none, _ | _, .null => .ok choices
  | some key, value => choices.choose key value

/-- The choices in a mapping, read in its order. -/
def ofMapping (user : Mapping) : Except Fault UserChoices := user.foldlM readEntry {}

end UserChoices

/-- Whether overheating warnings are enabled, and where that comes from: the truth of what the user
has set, or else of the default. -/
def resolveEnabled (user : Option Value) (config : Value) : Bool × WarningSource :=
  match user with
  | some v => (v.truth, .userSetting)
  | none => (config.truth, .config)

/-- Defaults under the choices of a user. -/
def WarningSettings.overlay (defaults : WarningSettings) (user : UserChoices) :
    WarningSettings :=
  let (enabled, source) :=
    resolveEnabled (user.showTemperatureWarning.map .flag) defaults.showTemperatureWarning
  { defaults with
    showTemperatureWarning := .flag enabled
    warningSource := source
    warningTemperature := user.warningTemperature.elim defaults.warningTemperature (↑·)
    warningTemperatureTolerance :=
      user.warningTemperatureTolerance.elim defaults.warningTemperatureTolerance (↑·)
    thermalClearPolicy := user.thermalClearPolicy.getD defaults.thermalClearPolicy
    thermalClearMargin := user.thermalClearMargin.elim defaults.thermalClearMargin (↑·) }

/-- The settings for a mapping of user settings over defaults. -/
def resolveSettings (user : Mapping) (defaults : WarningSettings := {}) :
    Except Fault WarningSettings := do
  return defaults.overlay (← UserChoices.ofMapping user)

/-- The settings for what a user has set over defaults: a mapping, or a value that counts as no
where nothing is set. -/
def resolveUser (user : Value) (defaults : WarningSettings := {}) :
    Except Fault WarningSettings :=
  match user with
  | .mapping entries => resolveSettings entries defaults
  | v =>
    if v.truth then .error (.noMember v.kind "items") else resolveSettings [] defaults

/-- The settings in a file over defaults, which is read up to a limit of lists in one another. The
path is the one that messages show. -/
def readSettingsFile (limit : Nat) (path : String) (node : Option DeviceNode)
    (defaults : WarningSettings := {}) : Except Fault WarningSettings :=
  let unreadable (cause : Unreadable) : Fault := .settings (.unreadable path cause)
  match node with
  | none => resolveSettings [] defaults
  | some .directory => .error (unreadable .isDirectory)
  | some (.file contents) =>
    match decodeText contents with
    | none => .error (unreadable .notUnicode)
    | some t =>
      match Value.ofJson limit t with
      | .error .malformed => .error (unreadable .notJson)
      | .error (.tooManyDigits count) => .error (.tooManyDigits count)
      | .error (.tooDeep kind) => .error (.tooDeep kind)
      | .ok (.mapping user) => resolveSettings user defaults
      | .ok _ => .error (.settings (.notMapping path))

end DeviceWarnings
