import DeviceWarnings.Settings.Resolve
import DeviceWarnings.Proofs.Completion
import DeviceWarnings.Proofs.JsonReading
import DeviceWarnings.Proofs.Rounding
import DeviceWarnings.Proofs.Soundness

/-!
# What a settings file can do to a poll

Whatever lies where the settings file is looked for, reading it ends with settings or with a problem
of the settings, and then the poll goes on with these settings or with the defaults. There are three
exceptions, all of them about size: the reading comes to a number of too many digits, or to a list
or mapping that is too deep; or the first setting that cannot be read is a temperature, tolerance or
margin, and the value is a whole number beyond binary64. That a value in a message cannot be written
is not among them, since all that is read from JSON can be written.
-/

namespace DeviceWarnings

/-- Whether a setting is a temperature, tolerance or margin. -/
def SettingKey.isFigure : SettingKey → Bool
  | warningTemperature | warningTemperatureTolerance | thermalClearMargin => true
  | showTemperatureWarning | thermalClearPolicy => false

/-! ## Single settings -/

/-- A fault that settings do not declare is no problem with them. -/
theorem Source.settings_ne_of_undeclared {fault : Fault} (h : settings.declares fault = false)
    (problem : SettingsProblem) : .settings problem ≠ fault := by
  rintro rfl
  cases h

/-- A value comes to another fault than being refused exactly if it is a whole number beyond
binary64. -/
theorem Value.asBinary_eq_error {v : Value} {refusal fault : Fault} (hrefusal : refusal ≠ fault) :
    v.asBinary refusal = .error fault ↔ fault = .numberTooLarge ∧
      ∃ n : Int, v = .number (.integer n) ∧ Binary64.wholeCeiling ≤ n.natAbs := by
  cases v with
  | number a =>
    have hhuge : (∃ n : Int, Value.number a = .number (.integer n) ∧
        Binary64.wholeCeiling ≤ n.natAbs) ↔ a.toBinary? = none := by
      simp [Number.toBinary?_eq_none]
    rw [hhuge, asBinary]
    cases a.toBinary? <;> simp [eq_comm]
  | text t => cases h : t.number? <;> simp [asBinary, h, hrefusal]
  | _ => simp [asBinary, hrefusal]

namespace UserChoices

variable {choices : UserChoices} {key : SettingKey} {v : Value} {fault : Fault}

/-- A setting that can be written is a fault of its own exactly if it is a temperature, tolerance or
margin that is given as a whole number beyond binary64. -/
theorem choose_eq_error (hv : v.isWritable = true)
    (hundeclared : Source.settings.declares fault = false) :
    choices.choose key v = .error fault ↔ fault = .numberTooLarge ∧ key.isFigure = true ∧
      ∃ n : Int, v = .number (.integer n) ∧ Binary64.wholeCeiling ≤ n.natAbs := by
  have hrefusal (problem : SettingKey → Value → SettingsProblem) :
      refusal problem key v ≠ fault := by
    rw [refusal, Fault.concerning, if_pos hv]
    exact Source.settings_ne_of_undeclared hundeclared _
  have hfigure (hkey : key.isFigure = true) {f : Binary64 → UserChoices} :
      (v.asBinary (refusal .notNumber key v) >>= fun x => .ok (f x)) = .error fault ↔
        fault = .numberTooLarge ∧ key.isFigure = true ∧
          ∃ n : Int, v = .number (.integer n) ∧ Binary64.wholeCeiling ≤ n.natAbs := by
    rw [bind_ok_eq_error, Value.asBinary_eq_error (hrefusal _), and_iff_right hkey]
  cases key with
  | showTemperatureWarning =>
    cases hflag : v.asFlag? <;> simp [choose, hflag, hrefusal, SettingKey.isFigure]
  | thermalClearPolicy =>
    cases hpolicy : v.asPolicy? <;> simp [choose, hpolicy, hrefusal, SettingKey.isFigure]
  | warningTemperature => exact hfigure rfl
  | warningTemperatureTolerance => exact hfigure rfl
  | thermalClearMargin => exact hfigure rfl

/-- An entry is a fault exactly if it is a setting that is. -/
theorem readEntry_eq_error {entry : Text × Value} :
    readEntry choices entry = .error fault ↔ entry.2 ≠ .null ∧
      ∃ key, SettingKey.ofText? entry.1 = some key ∧ choices.choose key entry.2 = .error fault := by
  obtain ⟨name, v⟩ := entry
  cases hkey : SettingKey.ofText? name with
  | none => simp [readEntry, hkey]
  | some key => cases v <;> simp [readEntry, hkey]

end UserChoices

theorem resolveSettings_eq_error {user : Mapping} {defaults : WarningSettings} {fault : Fault} :
    resolveSettings user defaults = .error fault ↔ UserChoices.ofMapping user = .error fault :=
  bind_ok_eq_error

/-- Whether the first setting in a mapping that cannot be read is a temperature, tolerance or margin
that is given as a whole number beyond binary64. -/
def Mapping.IsTooLarge (user : Mapping) : Prop :=
  ∃ before name n after choices key, user = before ++ (name, .number (.integer n)) :: after ∧
    UserChoices.ofMapping before = .ok choices ∧ SettingKey.ofText? name = some key ∧
    key.isFigure = true ∧ Binary64.wholeCeiling ≤ n.natAbs

/-- A mapping of what can be written is read, or is a problem with the settings, or is too large. -/
theorem UserChoices.ofMapping_eq_undeclared {user : Mapping} {fault : Fault}
    (huser : ∀ entry ∈ user, entry.2.isWritable = true)
    (hundeclared : Source.settings.declares fault = false) :
    UserChoices.ofMapping user = .error fault ↔ fault = .numberTooLarge ∧ user.IsTooLarge := by
  rw [ofMapping, foldlM_eq_error]
  constructor
  · rintro ⟨before, ⟨name, v⟩, after, choices, rfl, hbefore, hentry⟩
    have hv : v.isWritable = true := huser (name, v) (by simp)
    obtain ⟨-, key, hkey, hchoose⟩ := readEntry_eq_error.1 hentry
    obtain ⟨rfl, hfigure, n, rfl, hlarge⟩ := (choose_eq_error hv hundeclared).1 hchoose
    exact ⟨rfl, before, name, n, after, choices, key, rfl, hbefore, hkey, hfigure, hlarge⟩
  · rintro ⟨rfl, before, name, n, after, choices, key, rfl, hbefore, hkey, hfigure, hlarge⟩
    have hv : (Value.number (.integer n)).isWritable = true :=
      huser (name, .number (.integer n)) (by simp)
    refine ⟨before, (name, .number (.integer n)), after, choices, rfl, hbefore, ?_⟩
    exact readEntry_eq_error.2
      ⟨nofun, key, hkey, (choose_eq_error hv rfl).2 ⟨rfl, hfigure, n, rfl, hlarge⟩⟩

/-! ## Whole files -/

/-- What in the text of a settings file, read up to a limit of lists and mappings in one another, is
no problem with the settings but a fault of its own. -/
inductive SettingsOverflow (limit : Nat) (t : Text) : Fault → Prop
  /-- The text is too large to be read. -/
  | text {fault : Fault} (overflow : JsonOverflow limit t fault) : SettingsOverflow limit t fault
  /-- A temperature, tolerance or margin is too large. -/
  | number {user : Mapping} (read : Value.ofJson limit t = .ok (.mapping user))
      (large : user.IsTooLarge) :
      SettingsOverflow limit t .numberTooLarge

/-- The text of a file, if it is one. -/
def DeviceNode.text? : DeviceNode → Option Text
  | directory => none
  | file contents => decodeText contents

section Files

variable {limit : Nat} {path : String} {node : Option DeviceNode} {defaults : WarningSettings}
  {t : Text} {fault : Fault}

/-- None of these faults is one that a settings file declares. -/
theorem SettingsOverflow.undeclared (h : SettingsOverflow limit t fault) :
    Source.settings.declares fault = false := by
  rcases h with ⟨⟨-⟩⟩ | ⟨-⟩ <;> rfl

/-- A text overflows settings if it cannot be read for its size, or what is read is too large. -/
theorem settingsOverflow_iff :
    SettingsOverflow limit t fault ↔
      JsonOverflow limit t fault ∨ fault = .numberTooLarge ∧ ∃ user : Mapping,
        Value.ofJson limit t = .ok (.mapping user) ∧ user.IsTooLarge := by
  constructor
  · rintro (hoverflow | ⟨hread, hlarge⟩)
    · exact .inl hoverflow
    · exact .inr ⟨rfl, _, hread, hlarge⟩
  · rintro (hoverflow | ⟨rfl, user, hread, hlarge⟩)
    · exact .text hoverflow
    · exact .number hread hlarge

/-- Without a text there are no settings, or there is a problem with them. -/
theorem readSettingsFile_without_text (hnode : node.bind DeviceNode.text? = none)
    (h : readSettingsFile limit path node defaults = .error fault) :
    Source.settings.declares fault = true := by
  cases node with
  | none => cases h
  | some found =>
    cases found with
    | directory =>
      obtain rfl := Except.error.inj h
      rfl
    | file contents =>
      have htext : decodeText contents = none := hnode
      simp only [readSettingsFile, htext] at h
      obtain rfl := Except.error.inj h
      rfl

/-- The settings in a text are no other fault than those that are listed. -/
theorem readSettingsFile_of_text (hnode : node.bind DeviceNode.text? = some t)
    (hundeclared : Source.settings.declares fault = false) :
    readSettingsFile limit path node defaults = .error fault ↔ SettingsOverflow limit t fault := by
  obtain ⟨found, rfl, hfound⟩ := Option.bind_eq_some_iff.1 hnode
  cases found with
  | directory => cases hfound
  | file contents =>
    have htext : decodeText contents = some t := hfound
    have hproblem := Source.settings_ne_of_undeclared hundeclared
    rw [settingsOverflow_iff, jsonOverflow_iff, or_assoc]
    simp only [readSettingsFile, htext]
    cases hjson : Value.ofJson limit t with
    | error defect =>
      cases defect with
      | malformed => simp [hproblem]
      | tooManyDigits count => simp [eq_comm]
      | tooDeep kind => simp [eq_comm]
    | ok v =>
      cases v with
      | mapping user =>
        have huser := Value.areEntriesWritable_iff.1 (Value.isWritable_ofJson hjson)
        simp [resolveSettings_eq_error, UserChoices.ofMapping_eq_undeclared huser hundeclared]
      | _ => simp [hproblem]

/-- Reading what lies at the path of the settings file comes to settings, to a problem with the
settings, or to one of the listed faults of a text, and it comes to such a fault exactly if the
text lies there. -/
theorem readSettingsFile_undeclared (hundeclared : Source.settings.declares fault = false) :
    readSettingsFile limit path node defaults = .error fault ↔
      ∃ t, node.bind DeviceNode.text? = some t ∧ SettingsOverflow limit t fault := by
  constructor
  · intro h
    cases hnode : node.bind DeviceNode.text? with
    | none =>
      rw [readSettingsFile_without_text hnode h] at hundeclared
      cases hundeclared
    | some t => exact ⟨t, rfl, (readSettingsFile_of_text hnode hundeclared).1 h⟩
  · rintro ⟨t, hnode, hoverflow⟩
    exact (readSettingsFile_of_text hnode hundeclared).2 hoverflow

end Files

namespace Section

variable (behaviour : CallbackBehaviour) {readings : Readings} {fault : Fault}

/-- A fault that settings do not declare ends the poll in which they are read. -/
theorem pollOnce_undeclared_settings (e : Engine) (h : readings.thermal.settings = .error fault)
    (hundeclared : Source.settings.declares fault = false) :
    (pollOnce behaviour readings e).outcome = .error fault := by
  have hread : settingsFrom readings.thermal.settings = .error fault := by
    rw [h]
    cases fault with
    | settings problem => cases hundeclared
    | _ => rfl
  have hpoll : (poll readings e).outcome = .error fault := by
    rw [poll, outcome_bind, pollFirst_outcome, hread]
    rfl
  exact (pollOnce_of_error behaviour hpoll).1

end Section

/-- Readings with the given settings, a temperature of 50 degrees and no power state. -/
def Readings.ofSettings (answer : Except Fault WarningSettings) : Readings where
  thermal := ⟨.zero, answer, .ok 50, .ok .null⟩
  power := ⟨.zero, .ok none, ⟨.ok false, .ok (Binary64.infinity false)⟩⟩

theorem Readings.ofSettings_settings (answer : Except Fault WarningSettings) :
    (ofSettings answer).thermal.settings = answer := rfl

/-- A file of some characters. -/
def DeviceNode.ofList (cs : List Char) : DeviceNode := .file (String.ofList cs).toUTF8

theorem DeviceNode.text?_ofList (cs : List Char) :
    (some (ofList cs)).bind text? = some (cs.map CodePoint.ofChar) := by
  have hdecodes : String.fromUTF8? (String.ofList cs).toUTF8 = some (String.ofList cs) :=
    dif_pos (String.ofList cs).isValidUTF8
  rw [Option.bind_some, ofList, text?, decodeText, hdecodes, Option.map_some, Text.ofString,
    String.toList_ofList]

/-- A settings file that asks for a warning from 10^309 degrees on. -/
def hugeTemperature : List Char :=
  "\x7b\"warning_temperature\": 1".toList ++ List.replicate 309 '0' ++ ['\x7d']

theorem overflow_hugeTemperature :
    SettingsOverflow 990 (hugeTemperature.map CodePoint.ofChar) .numberTooLarge := by
  have hread : Value.ofJson 990 (hugeTemperature.map CodePoint.ofChar) =
      .ok (.mapping [("warning_temperature", .number (.integer (Decimal.tenPow 309)))]) := by
    decide +kernel
  have hlarge : Binary64.wholeCeiling ≤ (Decimal.tenPow 309 : Int).natAbs := by decide +kernel
  exact .number hread ⟨[], _, _, [], {}, .warningTemperature, rfl, rfl, by decide, rfl, hlarge⟩

/-- Whatever lies at the path of the settings file, reading it comes to settings or to a problem
with the settings, exactly if no text with one of the listed faults lies there. Otherwise it comes
to this fault, and every poll with these settings fails with it. -/
theorem readSettingsFile_total_iff (limit : Nat) (path : String) (node : Option DeviceNode)
    (defaults : WarningSettings) :
    ((∃ settings, readSettingsFile limit path node defaults = .ok settings) ∨
        (∃ problem, readSettingsFile limit path node defaults = .error (.settings problem)) ↔
      ¬∃ t fault, node.bind DeviceNode.text? = some t ∧ SettingsOverflow limit t fault) ∧
    ∀ t fault, node.bind DeviceNode.text? = some t → SettingsOverflow limit t fault →
      readSettingsFile limit path node defaults = .error fault ∧
        ∀ behaviour readings e,
          readings.thermal.settings = readSettingsFile limit path node defaults →
          (Section.pollOnce behaviour readings e).outcome = .error fault := by
  have hoverflow {t : Text} {fault : Fault} (hnode : node.bind DeviceNode.text? = some t)
      (h : SettingsOverflow limit t fault) :
      readSettingsFile limit path node defaults = .error fault :=
    (readSettingsFile_undeclared h.undeclared).2 ⟨t, hnode, h⟩
  refine ⟨⟨?_, fun hnone => ?_⟩, fun t fault hnode h => ⟨hoverflow hnode h, ?_⟩⟩
  · rintro hcontained ⟨t, fault, hnode, h⟩
    have hundeclared := h.undeclared
    rw [hoverflow hnode h] at hcontained
    rcases hcontained with ⟨settings, heq⟩ | ⟨problem, heq⟩
    · cases heq
    · obtain rfl := Except.error.inj heq
      cases hundeclared
  · cases hread : readSettingsFile limit path node defaults with
    | ok settings => exact .inl ⟨settings, rfl⟩
    | error fault =>
      by_cases hdeclared : Source.settings.declares fault = true
      · cases fault with
        | settings problem => exact .inr ⟨problem, rfl⟩
        | _ => cases hdeclared
      · obtain ⟨t, hnode, h⟩ :=
          (readSettingsFile_undeclared (Bool.eq_false_iff.2 hdeclared)).1 hread
        exact absurd ⟨t, fault, hnode, h⟩ hnone
  · intro behaviour readings e hsettings
    rw [hoverflow hnode h] at hsettings
    exact Section.pollOnce_undeclared_settings behaviour e hsettings h.undeclared

/-- With this file the first poll of a new engine fails. -/
theorem readSettingsFile_hugeTemperature :
    let answer := readSettingsFile 990 "settings.json" (some (.ofList hugeTemperature))
    answer = .error .numberTooLarge ∧
      (Section.pollOnce (fun _ _ => {}) (.ofSettings answer) (.new .zero)).outcome =
        .error .numberTooLarge := by
  obtain ⟨hfault, hpoll⟩ :=
    (readSettingsFile_total_iff 990 "settings.json" (some (.ofList hugeTemperature)) {}).2 _ _
      (DeviceNode.text?_ofList hugeTemperature) overflow_hugeTemperature
  exact ⟨hfault, hpoll _ _ _ (Readings.ofSettings_settings _)⟩

/-- It is not so that reading a settings file always comes to settings or to a problem with them. -/
theorem not_readSettingsFile_total :
    ¬∀ (path : String) (node : Option DeviceNode) (defaults : WarningSettings),
      (∃ settings, readSettingsFile 990 path node defaults = .ok settings) ∨
        ∃ problem, readSettingsFile 990 path node defaults = .error (.settings problem) := by
  intro h
  have hfails : readSettingsFile 990 "settings.json" (some (.ofList hugeTemperature)) =
      .error .numberTooLarge :=
    (readSettingsFile_undeclared rfl).2
      ⟨_, DeviceNode.text?_ofList hugeTemperature, overflow_hugeTemperature⟩
  rcases h "settings.json" (some (.ofList hugeTemperature)) {} with ⟨settings, heq⟩ | ⟨problem, heq⟩
  · cases hfails.symm.trans heq
  · cases hfails.symm.trans heq

end DeviceWarnings
