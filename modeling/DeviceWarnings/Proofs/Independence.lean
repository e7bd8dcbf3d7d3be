import DeviceWarnings.Settings.Resolve
import DeviceWarnings.Proofs.Reactions

/-!
# Independence of the two warnings

Both warnings live in one poll, one state and one set of settings, and neither is told anything
about the other. Two runs that are alike to the overheating warning agree about it, whatever the
power supply and the estimates do in either of them. Two runs that come to the low battery warning
in every poll, and that are alike to it, agree about that one, whatever the sensors and the settings
of the overheating warning are. What a settings file can set is all on the side of the overheating
warning, so that the low battery warning does not depend on what the file holds.
-/

namespace DeviceWarnings

/-- Outcomes that are the same as far as values of them are seen are two faults, or two values that
are seen the same. -/
theorem cases_of_toOption_map_eq {ε α β : Type} {f : α → β} {x y : Except ε α}
    (h : x.toOption.map f = y.toOption.map f) :
    (∃ fault other, x = .error fault ∧ y = .error other) ∨
      ∃ a b, x = .ok a ∧ y = .ok b ∧ f a = f b := by
  cases x with
  | error fault =>
    cases y with
    | error other => exact .inl ⟨fault, other, rfl, rfl⟩
    | ok b => cases h
  | ok a =>
    cases y with
    | error other => cases h
    | ok b => exact .inr ⟨a, b, rfl, rfl, Option.some.inj h⟩

/-! ## Alike to the overheating warning -/

/-- Whether two polls are alike to the overheating warning: what it uses of the settings that are
read is the same, and so are the answers of the sensors. -/
structure ThermalReadings.Alike (a b : ThermalReadings) : Prop where
  settings : (Section.settingsFrom a.settings).toOption.map ThermalEvaluator.ofSettings =
    (Section.settingsFrom b.settings).toOption.map ThermalEvaluator.ofSettings
  current : a.current = b.current
  shutdown : a.shutdown = b.shutdown

theorem ThermalReadings.Alike.reaction_eq {a b : ThermalReadings} (h : a.Alike b) :
    a.reaction = b.reaction := by
  have haction (state : WarningState) : (a.resolution?.bind fun r => r.action state) =
      b.resolution?.bind fun r => r.action state := by
    unfold resolution?
    rcases cases_of_toOption_map_eq h.settings with
      ⟨fault, other, ha, hb⟩ | ⟨s, s', ha, hb, heq⟩
    · rw [ha, hb]
    · have hgathered : Section.gathered s a = Section.gathered s' b := by
        simp only [Section.gathered, Section.shutdownFrom, h.current, h.shutdown, heq]
      rw [ha, hb]
      dsimp only
      rw [hgathered]
      cases Section.gathered s' b with
      | error fault => rfl
      | ok pair =>
        obtain ⟨current, threshold⟩ := pair
        cases threshold with
        | error problem => rfl
        | ok limit =>
          change Resolution.action ⟨s, current, limit⟩ state =
            Resolution.action ⟨s', current, limit⟩ state
          rw [Resolution.action, Resolution.action, heq]
  funext state
  rw [reaction, reaction, haction]

/-! ## Alike to the low battery warning -/

/-- Whether the power source and the sources of the hybrid estimate answer alike in two polls. -/
structure PowerReadings.Alike (a b : PowerReadings) : Prop where
  power : a.power = b.power
  hybrid : a.hybrid = b.hybrid

/-- What the low battery warning uses of the settings that a poll reads. -/
def Readings.batteryThresholds (readings : Readings) : Option BatteryThresholds :=
  (Section.settingsFrom readings.thermal.settings).toOption.map BatteryThresholds.ofSettings

theorem PowerReadings.Alike.reaction_eq {a b : PowerReadings} (h : a.Alike b)
    {s s' : Except Fault WarningSettings}
    (hthresholds : s.toOption.map BatteryThresholds.ofSettings =
      s'.toOption.map BatteryThresholds.ofSettings) : a.reaction s = b.reaction s' := by
  funext state
  rcases cases_of_toOption_map_eq hthresholds with
    ⟨fault, other, rfl, rfl⟩ | ⟨settings, settings', rfl, rfl, heq⟩
  · rfl
  · simp only [reaction, Section.decideBattery, Section.batteryShown, Section.batteryDecision,
      h.power, h.hybrid, heq]

/-! ## Settings files -/

/-- What a user may set leaves the thresholds of the low battery warning as they are. -/
theorem BatteryThresholds.ofSettings_overlay (defaults : WarningSettings) (user : UserChoices) :
    ofSettings (defaults.overlay user) = ofSettings defaults := rfl

/-- What a user may set is of the kinds that are declared. -/
theorem WarningSettings.IsSound.overlay {defaults : WarningSettings} (h : defaults.IsSound)
    (user : UserChoices) : (defaults.overlay user).IsSound := by
  have hdegrees (x : Binary64) : (x : Value).IsDegrees :=
    ⟨.inr (Value.isNumber_binary x), _, Value.isMissing_binary x⟩
  obtain ⟨enabled, temperature, tolerance, policy, margin⟩ := user
  refine ⟨?_, ?_, ?_, h.bucket, h.standardTime, h.hybridTime⟩
  · cases temperature with
    | none => exact h.temperature
    | some x => exact hdegrees x
  · cases tolerance with
    | none => exact h.tolerance
    | some x => exact hdegrees x
  · cases margin with
    | none => exact h.margin
    | some x => exact ⟨x, rfl, x, rfl⟩

/-- What is read at the path of the settings file is what some user has set over the defaults. -/
theorem readSettingsFile_eq_ok {limit : Nat} {path : String} {node : Option DeviceNode}
    {defaults settings : WarningSettings}
    (h : readSettingsFile limit path node defaults = .ok settings) :
    ∃ user, settings = defaults.overlay user := by
  have hresolved {user : Mapping} (hmade : resolveSettings user defaults = .ok settings) :
      ∃ choices, settings = defaults.overlay choices := by
    obtain ⟨choices, -, hoverlay⟩ := bind_eq_ok.1 hmade
    exact ⟨choices, (Except.ok.inj hoverlay).symm⟩
  unfold readSettingsFile at h
  dsimp only at h
  split at h
  case h_1 => exact hresolved h
  case h_2 => cases h
  case h_3 =>
    split at h
    case h_1 => cases h
    case h_2 =>
      split at h
      case h_4 => exact hresolved h
      all_goals cases h

/-- A poll that reads the settings file, or the defaults in its place, has sound settings with the
default thresholds of the low battery warning. -/
theorem settingsFrom_readSettingsFile {limit : Nat} {path : String} {node : Option DeviceNode}
    {settings : WarningSettings}
    (h : Section.settingsFrom (readSettingsFile limit path node) = .ok settings) :
    settings.IsSound ∧ BatteryThresholds.ofSettings settings = {} := by
  rcases Section.settingsFrom_eq_ok.1 h with hread | ⟨-, rfl⟩
  · obtain ⟨user, rfl⟩ := readSettingsFile_eq_ok hread
    exact ⟨WarningSettings.isSound_default.overlay user,
      BatteryThresholds.ofSettings_overlay {} user⟩
  · exact ⟨WarningSettings.isSound_default, rfl⟩

/-- Whether a poll reads its settings from a settings file over the defaults, and has them or is
told of a problem with them. -/
structure ThermalReadings.ReadsFile (readings : ThermalReadings) : Prop where
  file : ∃ limit path node, readings.settings = readSettingsFile limit path node
  usable : Succeeds (Section.settingsFrom readings.settings)

namespace ThermalReadings.ReadsFile

variable {readings : ThermalReadings}

theorem settingsFrom_eq_ok (h : readings.ReadsFile) :
    ∃ settings, Section.settingsFrom readings.settings = .ok settings ∧ settings.IsSound ∧
      BatteryThresholds.ofSettings settings = {} := by
  obtain ⟨settings, hsettings⟩ := h.usable
  obtain ⟨limit, path, node, hfile⟩ := h.file
  exact ⟨settings, hsettings, settingsFrom_readSettingsFile (hfile ▸ hsettings)⟩

theorem isRegular (h : readings.ReadsFile) (hsensors : readings.HasSensors) :
    readings.IsRegular where
  isNumeric v hv := by
    obtain ⟨current, hcurrent, hdegrees⟩ := hsensors.current
    rw [hv] at hcurrent
    obtain rfl : v = current := Except.ok.inj hcurrent
    exact hdegrees.1
  margin settings hsettings := by
    obtain ⟨found, hfound, hsound, -⟩ := h.settingsFrom_eq_ok
    rw [hsettings] at hfound
    obtain rfl : settings = found := Except.ok.inj hfound
    exact hsound.margin

theorem succeeds_settingsReached (h : readings.ReadsFile) (hsensors : readings.HasSensors) :
    Succeeds readings.settingsReached := by
  obtain ⟨settings, hsettings, hsound, -⟩ := h.settingsFrom_eq_ok
  obtain ⟨current, threshold, hgathered, -⟩ := Section.succeeds_gathered hsound hsensors
  exact ⟨settings, bind_eq_ok.2 ⟨settings, hsettings, bind_eq_ok.2 ⟨_, hgathered, rfl⟩⟩⟩

/-- A settings file has no say about the low battery warning. -/
theorem batteryThresholds_eq {readings : Readings} (h : readings.thermal.ReadsFile) :
    readings.batteryThresholds = some {} := by
  obtain ⟨settings, hsettings, -, hthresholds⟩ := h.settingsFrom_eq_ok
  rw [Readings.batteryThresholds, hsettings]
  exact congrArg some hthresholds

end ThermalReadings.ReadsFile

/-! ## Pairs of runs -/

namespace Tick

/-- A tick at 50 degrees whose settings are read from a settings file, with a bucket. -/
def ofFile (node : Option DeviceNode) (bucket : Int) : Tick where
  readings :=
    { thermal := ⟨.zero, readSettingsFile 990 "settings.json" node, .ok 50, .ok .null⟩
      power := (ofBoth 50 bucket).readings.power }

theorem ofFile_readsFile {node : Option DeviceNode} {bucket : Int}
    (h : Succeeds (Section.settingsFrom (readSettingsFile 990 "settings.json" node))) :
    (ofFile node bucket).readings.thermal.ReadsFile :=
  ⟨⟨_, _, node, rfl⟩, h⟩

theorem ofFile_hasSensors (node : Option DeviceNode) (bucket : Int) :
    (ofFile node bucket).readings.thermal.HasSensors :=
  ⟨⟨_, rfl, .inr ⟨50, rfl⟩, false, by decide⟩, ⟨_, rfl, Value.isDegrees_null⟩⟩

end Tick

namespace Engine

variable {clock clock' : Binary64} {callbacks callbacks' : List Callback} {ticks ticks' : List Tick}

/-- Runs that are alike to the overheating warning agree about it. -/
theorem fresh_runs_thermal (hnumeric : ∀ t ∈ ticks, t.readings.thermal.IsNumeric)
    (h : List.Forall₂ (fun t u => t.readings.thermal.Alike u.readings.thermal) ticks ticks') :
    ((fresh clock callbacks).run ticks).AgreesWith
      ((fresh clock' callbacks').run ticks') .thermal := by
  have hnumeric' : ∀ u ∈ ticks', u.readings.thermal.IsNumeric := by
    intro u hu v hv
    obtain ⟨t, ht, halike⟩ := (mem_of_forall₂ h).2 u hu
    exact hnumeric t ht v (halike.current.trans hv)
  apply Run.agreesWith_thermal
  rw [← fresh_run_thermal clock callbacks hnumeric, ← fresh_run_thermal clock' callbacks' hnumeric',
    map_eq_map_of_forall₂ (fun _ _ halike => halike.reaction_eq) h]

/-- Whether every poll of a run comes to the low battery warning: neither the settings nor the
overheating warning make it fail before. -/
def ReachesBattery (e : Engine) (ticks : List Tick) : Prop :=
  e.Throughout ticks fun t e => Succeeds (Section.pollFirst t.readings.thermal e).outcome

/-- In a run with regular readings that tell settings, every poll comes to the low battery
warning. -/
theorem reachesBattery_of_settingsReached
    (hregular : ∀ t ∈ ticks, t.readings.thermal.IsRegular)
    (hreached : ∀ t ∈ ticks, Succeeds t.readings.thermal.settingsReached) :
    (fresh clock callbacks).ReachesBattery ticks := by
  refine (throughout_settingsReached clock callbacks hregular).mono fun t ht e hsettings => ?_
  obtain ⟨settings, hreached⟩ := hreached t ht
  obtain ⟨first, hfirst, -⟩ := map_eq_ok.1 (hsettings.trans hreached)
  exact ⟨first, hfirst⟩

theorem reachesBattery_of_readsFile
    (h : ∀ t ∈ ticks, t.readings.thermal.ReadsFile ∧ t.readings.thermal.HasSensors) :
    (fresh clock callbacks).ReachesBattery ticks :=
  reachesBattery_of_settingsReached (fun t ht => (h t ht).1.isRegular (h t ht).2)
    fun t ht => (h t ht).1.succeeds_settingsReached (h t ht).2

/-- Runs that come to the low battery warning in every poll, and that are alike to it, agree about
it. -/
theorem fresh_runs_battery (hends : (fresh clock callbacks).ReachesBattery ticks)
    (hends' : (fresh clock' callbacks').ReachesBattery ticks')
    (h : List.Forall₂ (fun t u => t.readings.batteryThresholds = u.readings.batteryThresholds ∧
      t.readings.power.Alike u.readings.power) ticks ticks') :
    ((fresh clock callbacks).run ticks).AgreesWith
      ((fresh clock' callbacks').run ticks') .battery := by
  have hsettings (t : Tick) (e : Engine)
      (hfirst : Succeeds (Section.pollFirst t.readings.thermal e).outcome) :
      (Section.pollFirst t.readings.thermal e).outcome.map Prod.fst =
        Section.settingsFrom t.readings.thermal.settings := by
    obtain ⟨⟨settings, thermal⟩, houtcome⟩ := hfirst
    rw [houtcome, Section.settings_of_pollFirst houtcome]
    rfl
  apply Run.agreesWith_battery
  rw [← fresh_run_battery clock callbacks (hends.mono fun t _ => hsettings t),
    ← fresh_run_battery clock' callbacks' (hends'.mono fun t _ => hsettings t),
    map_eq_map_of_forall₂ (fun _ _ halike => halike.2.reaction_eq halike.1) h]

/-- Two runs of new engines, poll by poll, up to any number of polls. If what the overheating
warning uses of the settings is the same and the sensors answer the same numbers, they agree about
the overheating warning, whatever the power source, the estimates, the clocks and the callbacks do.
If all polls come to the low battery warning, and what it uses of the settings is the same and the
power source and the estimates answer the same, they agree about the low battery warning, whatever
the sensors and the other settings are. What it uses of the settings is the same in particular if
they are read from a settings file over the defaults, whatever it holds that comes to settings or to
a problem with them. With sensors that come to temperatures all such polls come to the low battery
warning. -/
theorem fresh_runs_independent (clock clock' : Binary64) (callbacks callbacks' : List Callback)
    (ticks ticks' : List Tick) (n : Nat) :
    ((∀ t ∈ ticks, t.readings.thermal.IsNumeric) →
      List.Forall₂ (fun t u => t.readings.thermal.Alike u.readings.thermal) ticks ticks' →
      ((fresh clock callbacks).run (ticks.take n)).AgreesWith
        ((fresh clock' callbacks').run (ticks'.take n)) .thermal) ∧
    ((fresh clock callbacks).ReachesBattery ticks →
      (fresh clock' callbacks').ReachesBattery ticks' →
      List.Forall₂ (fun t u => t.readings.batteryThresholds = u.readings.batteryThresholds ∧
        t.readings.power.Alike u.readings.power) ticks ticks' →
      ((fresh clock callbacks).run (ticks.take n)).AgreesWith
        ((fresh clock' callbacks').run (ticks'.take n)) .battery) ∧
    ((fresh clock callbacks).ReachesBattery ticks →
      (fresh clock' callbacks').ReachesBattery ticks' →
      List.Forall₂ (fun t u => t.readings.thermal.ReadsFile ∧ u.readings.thermal.ReadsFile ∧
        t.readings.power.Alike u.readings.power) ticks ticks' →
      ((fresh clock callbacks).run (ticks.take n)).AgreesWith
        ((fresh clock' callbacks').run (ticks'.take n)) .battery) ∧
    ((∀ t ∈ ticks, t.readings.thermal.ReadsFile ∧ t.readings.thermal.HasSensors) →
      (fresh clock callbacks).ReachesBattery ticks) := by
  have hbattery (hends : (fresh clock callbacks).ReachesBattery ticks)
      (hends' : (fresh clock' callbacks').ReachesBattery ticks')
      (h : List.Forall₂ (fun t u => t.readings.batteryThresholds = u.readings.batteryThresholds ∧
        t.readings.power.Alike u.readings.power) ticks ticks') :
      ((fresh clock callbacks).run (ticks.take n)).AgreesWith
        ((fresh clock' callbacks').run (ticks'.take n)) .battery :=
    fresh_runs_battery (hends.of_prefix (List.take_prefix n ticks))
      (hends'.of_prefix (List.take_prefix n ticks')) (List.forall₂_take n h)
  refine ⟨fun hnumeric h => ?_, hbattery, fun hends hends' h => ?_, reachesBattery_of_readsFile⟩
  · exact fresh_runs_thermal (fun t ht => hnumeric t (List.mem_of_mem_take ht))
      (List.forall₂_take n h)
  · refine hbattery hends hends' (h.imp fun t u halike => ⟨?_, halike.2.2⟩)
    rw [halike.1.batteryThresholds_eq, halike.2.1.batteryThresholds_eq]

/-- A power source that crashes does not keep the device from warning of 46 degrees, and neither a
limit of 45 degrees nor a directory in place of the settings file keeps it from warning of a low
battery. -/
theorem fresh_runs_independent_warnings :
    let crashing : Tick :=
      { readings :=
          { thermal := (Tick.ofBoth 46 1).readings.thermal
            power := ⟨.zero, .error (.crash "boom"), ⟨.ok false, .ok .null⟩⟩ } }
    ((fresh .zero []).run [crashing]).actions .thermal = [.raise] ∧
      ((fresh .zero []).run [.ofBoth 46 (-1)]).actions .battery = [.raise] ∧
      ((fresh .zero []).run [.ofFile (some .directory) (-1)]).actions .battery = [.raise] := by
  intro crashing
  have habsent : Succeeds
      (Section.settingsFrom (readSettingsFile 990 "settings.json" none)) :=
    ⟨_, rfl⟩
  have hdirectory : Succeeds
      (Section.settingsFrom (readSettingsFile 990 "settings.json" (some .directory))) :=
    ⟨_, rfl⟩
  have hends {node : Option DeviceNode}
      (h : Succeeds (Section.settingsFrom (readSettingsFile 990 "settings.json" node))) :
      (fresh .zero []).ReachesBattery [.ofFile node (-1)] := by
    obtain ⟨-, -, -, hreaches⟩ :=
      fresh_runs_independent .zero .zero [] [] [.ofFile node (-1)] [] 1
    apply hreaches
    intro t ht
    obtain rfl := List.mem_singleton.1 ht
    exact ⟨Tick.ofFile_readsFile h, Tick.ofFile_hasSensors node (-1)⟩
  obtain ⟨hthermal, -, -, -⟩ := fresh_runs_independent .zero .zero [] [] [.ofBoth 46 1] [crashing] 1
  obtain ⟨-, hbattery, -, -⟩ :=
    fresh_runs_independent .zero .zero [] [] [.ofFile none (-1)] [.ofBoth 46 (-1)] 1
  obtain ⟨-, -, hfile, -⟩ := fresh_runs_independent .zero .zero [] [] [.ofFile none (-1)]
    [.ofFile (some .directory) (-1)] 1
  have hhot : ((fresh .zero []).run [.ofBoth 46 1]).actions .thermal = [.raise] := by
    decide +kernel
  have hlow : ((fresh .zero []).run [.ofFile none (-1)]).actions .battery = [.raise] := by
    decide +kernel
  refine ⟨?_, ?_, ?_⟩
  · refine (hthermal ?_ (.cons ⟨rfl, rfl, rfl⟩ .nil)).1.symm.trans hhot
    intro t ht
    obtain rfl := List.mem_singleton.1 ht
    exact (Tick.ofBoth_isRegular 46 1).isNumeric
  · refine (hbattery (hends habsent) ?_ (.cons ⟨rfl, rfl, rfl⟩ .nil)).1.symm.trans hlow
    apply reachesBattery_of_settingsReached
    · intro t ht
      obtain rfl := List.mem_singleton.1 ht
      exact Tick.ofBoth_isRegular 46 (-1)
    · intro t ht
      obtain rfl := List.mem_singleton.1 ht
      exact ⟨{ warningTemperature := 45 }, by decide +kernel⟩
  · refine (hfile (hends habsent) (hends hdirectory)
      (.cons ⟨?_, ?_, rfl, rfl⟩ .nil)).1.symm.trans hlow
    · exact Tick.ofFile_readsFile habsent
    · exact Tick.ofFile_readsFile hdirectory

end Engine

end DeviceWarnings
