import DeviceWarnings.Device

/-!
# Sources of a rehearsal

A rehearsal runs an engine whose sources answer what they are told to, or else read a device that
is given by its files and the outcomes of the two power commands.
-/

namespace DeviceWarnings

/-- What the source of settings answers: what a user has set over defaults, read anew each time,
or a fault. -/
inductive SettingsAnswer where
  | resolved (user : Value) (defaults : WarningSettings)
  | fault (fault : Fault)

/-- The settings of an answer. -/
def SettingsAnswer.read : SettingsAnswer → Except Fault WarningSettings
  | resolved user defaults => resolveUser user defaults
  | fault f => .error f

/-- What a source answers before it is told anything: that it is unavailable. -/
def notToldYet : Fault := .unavailable (.reported "unavailable")

/-- What the sources are told to answer. -/
structure ToldSources where
  current : Except Fault Value := .error notToldYet
  shutdown : Except Fault Value := .error notToldYet
  settings : SettingsAnswer := .resolved .null {}
  power : Except Fault (Option PowerState) := .ok (some default)
  hybridEnabled : Except Fault Bool := .ok false
  hybridTime : Except Fault Value := .ok (Binary64.infinity false)

/-- New answers for some of the sources. -/
structure ToldAnswers where
  current : Option (Except Fault Value) := none
  shutdown : Option (Except Fault Value) := none
  settings : Option SettingsAnswer := none
  power : Option (Except Fault (Option PowerState)) := none
  hybridEnabled : Option (Except Fault Bool) := none
  hybridTime : Option (Except Fault Value) := none

/-- The sources after they have been told new answers. -/
def ToldSources.tell (sources : ToldSources) (answers : ToldAnswers) : ToldSources where
  current := answers.current.getD sources.current
  shutdown := answers.shutdown.getD sources.shutdown
  settings := answers.settings.getD sources.settings
  power := answers.power.getD sources.power
  hybridEnabled := answers.hybridEnabled.getD sources.hybridEnabled
  hybridTime := answers.hybridTime.getD sources.hybridTime

/-- What the sources answer at a given time. -/
def ToldSources.readings (sources : ToldSources) (clock : Binary64) : Readings :=
  ⟨⟨clock, sources.settings.read, sources.current, sources.shutdown⟩,
    ⟨clock, sources.power, ⟨sources.hybridEnabled, sources.hybridTime⟩⟩⟩

end DeviceWarnings
