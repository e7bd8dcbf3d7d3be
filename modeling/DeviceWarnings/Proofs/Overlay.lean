import DeviceWarnings.Proofs.SettingsFile
import Mathlib.Data.List.Induction

/-!
# User settings lie over their defaults in any order

A mapping of user settings says of each setting what it is set to, if to anything: by the entry of
its name, unless that is null. Nothing else about the mapping matters to the settings that come of
it, neither the order of its entries nor what other entries it has. They are made exactly if each
value that is set means something for its setting, and are then what is set over what the defaults
say. The order decides only which of several values that mean nothing is the one reported: the
first.

What a value means is said without a look at how it is read: which words and numbers are flags,
which values are figures, and how policies are spelled. Each setting has a type of its own, so that
all of them can be spoken of at once.
-/

namespace DeviceWarnings

/-! ## What values mean -/

/-- The words for a flag. -/
def flagWords : Bool → List String
  | false => ["0", "false"]
  | true => ["1", "true"]

namespace Value

/-- What a value means as a flag: itself, if it is one; a number that is zero or one; or a word for
a flag, in any letter case and between blanks. -/
inductive MeansFlag : Value → Bool → Prop
  | flag (b : Bool) : MeansFlag (.flag b) b
  | number {n : Number} {b : Bool} (same : n.sameValue (if b then 1 else 0) = true) :
      MeansFlag (.number n) b
  | word {t : Text} {b : Bool} {word : String} (known : word ∈ flagWords b)
      (spelled : t.trim.smalls = Text.ofString word) : MeansFlag (.text t) b

/-- What a value means as a figure: the binary64 number that a number is or comes nearest to, or
that a numeral denotes. A flag is none. -/
inductive MeansFigure : Value → Binary64 → Prop
  | number {n : Number} {x : Binary64} (nearest : n.toBinary? = some x) :
      MeansFigure (.number n) x
  | numeral {t : Text} {x : Binary64} (denotes : t.number? = some x) : MeansFigure (.text t) x

/-- What a value means as a policy: the one that is spelled so, in any letter case and between
blanks. -/
inductive MeansPolicy : Value → ClearPolicy → Prop
  | name {t : Text} {policy : ClearPolicy} (spelled : t.trim.smalls = Text.ofString policy.name) :
      MeansPolicy (.text t) policy

/-- No number is both zero and one. -/
theorem not_sameValue_one {n : Number} (h : n.sameValue 0 = true) : n.sameValue 1 = false := by
  unfold Number.sameValue Number.related at h ⊢
  cases hn : n.position? with
  | none => rfl
  | some p =>
    rw [hn] at h
    have hzero : p = .point (0 * Binary64.one) := of_decide_eq_true h
    rw [hzero]
    decide

/-- A value is read as the flag that it means. -/
theorem asFlag?_eq_some {v : Value} {b : Bool} : v.asFlag? = some b ↔ v.MeansFlag b := by
  constructor
  · intro h
    cases v with
    | flag c =>
      obtain rfl := Option.some.inj h
      exact .flag c
    | number n =>
      simp only [asFlag?] at h
      split at h
      case isTrue hzero =>
        obtain rfl := Option.some.inj h
        exact .number hzero
      case isFalse =>
        split at h
        case isTrue hone =>
          obtain rfl := Option.some.inj h
          exact .number hone
        case isFalse => cases h
    | text t =>
      simp only [asFlag?] at h
      split at h
      case isTrue hword =>
        obtain rfl := Option.some.inj h
        rcases hword with hword | hword
        · exact .word (by simp [flagWords]) hword
        · exact .word (by simp [flagWords]) hword
      case isFalse =>
        split at h
        case isTrue hword =>
          obtain rfl := Option.some.inj h
          rcases hword with hword | hword
          · exact .word (by simp [flagWords]) hword
          · exact .word (by simp [flagWords]) hword
        case isFalse => cases h
    | _ => cases h
  · intro h
    cases h with
    | flag b => rfl
    | @number n b hsame =>
      cases b with
      | false => exact if_pos hsame
      | true =>
        have hzero : ¬n.sameValue 0 = true := by
          intro hzero
          cases hsame.symm.trans (not_sameValue_one hzero)
        exact (if_neg hzero).trans (if_pos hsame)
    | @word t b word hknown hspelled =>
      simp only [asFlag?, hspelled]
      cases b <;>
        · simp only [flagWords, List.mem_cons, List.not_mem_nil, or_false] at hknown
          rcases hknown with rfl | rfl <;> decide

/-- A value is read as the figure that it means. -/
theorem asBinary_eq_ok {v : Value} {refusal : Fault} {x : Binary64} :
    v.asBinary refusal = .ok x ↔ v.MeansFigure x := by
  constructor
  · intro h
    cases v with
    | number n =>
      cases hn : n.toBinary? with
      | none =>
        rw [asBinary, hn] at h
        cases h
      | some y =>
        rw [asBinary, hn] at h
        obtain rfl := Except.ok.inj h
        exact .number hn
    | text t =>
      cases ht : t.number? with
      | none =>
        rw [asBinary, ht] at h
        cases h
      | some y =>
        rw [asBinary, ht] at h
        obtain rfl := Except.ok.inj h
        exact .numeral ht
    | _ => cases h
  · rintro (hn | ht)
    · rw [asBinary, hn]
      rfl
    · rw [asBinary, ht]
      rfl

/-- A value is read as the policy that it means. -/
theorem asPolicy?_eq_some {v : Value} {policy : ClearPolicy} :
    v.asPolicy? = some policy ↔ v.MeansPolicy policy := by
  constructor
  · intro h
    cases v with
    | text t =>
      have hname : Text.ofString policy.name = t.trim.smalls := by
        simpa using List.find?_some h
      exact .name hname.symm
    | _ => cases h
  · rintro ⟨hspelled⟩
    rw [asPolicy?, hspelled]
    cases policy <;> decide

end Value

namespace SettingKey

/-- What the value of a setting is read as. -/
def Reading : SettingKey → Type
  | showTemperatureWarning => Bool
  | warningTemperature | warningTemperatureTolerance | thermalClearMargin => Binary64
  | thermalClearPolicy => ClearPolicy

/-- What a setting is in settings. -/
def Field : SettingKey → Type
  | showTemperatureWarning => Value
  | warningTemperature | warningTemperatureTolerance | thermalClearMargin => Value
  | thermalClearPolicy => ClearPolicy

/-- What the value of a setting means. -/
def Means : (key : SettingKey) → Value → key.Reading → Prop
  | showTemperatureWarning, v, b => v.MeansFlag b
  | warningTemperature, v, x => v.MeansFigure x
  | warningTemperatureTolerance, v, x => v.MeansFigure x
  | thermalClearPolicy, v, policy => v.MeansPolicy policy
  | thermalClearMargin, v, x => v.MeansFigure x

/-- What is wrong with a value that means nothing for a setting. -/
def problem : SettingKey → SettingKey → Value → SettingsProblem
  | showTemperatureWarning => .notFlag
  | thermalClearPolicy => .unknownPolicy
  | warningTemperature | warningTemperatureTolerance | thermalClearMargin => .notNumber

/-- Whether a value is too large for a setting: a whole number beyond binary64 for a figure. -/
def Exceeds (key : SettingKey) (v : Value) : Prop :=
  key.isFigure = true ∧
    ∃ n : Int, v = .number (.integer n) ∧ Binary64.wholeCeiling ≤ n.natAbs

/-- The faults with which a setting refuses a value: the value is too large, or it means nothing,
and the complaint about it names the setting and shows the value, if it can be written. -/
inductive Refuses (key : SettingKey) (v : Value) : Fault → Prop
  | tooLarge (exceeds : key.Exceeds v) : Refuses key v .numberTooLarge
  | meaningless (means : ∀ x, ¬key.Means v x) (fits : ¬key.Exceeds v) :
      Refuses key v (.concerning v (.settings (key.problem key v)))

/-- How the value of a setting is read. -/
def read : (key : SettingKey) → Value → Except Fault key.Reading
  | showTemperatureWarning, v =>
    v.asFlag?.elim (.error (UserChoices.refusal .notFlag .showTemperatureWarning v)) .ok
  | warningTemperature, v => v.asBinary (UserChoices.refusal .notNumber .warningTemperature v)
  | warningTemperatureTolerance, v =>
    v.asBinary (UserChoices.refusal .notNumber .warningTemperatureTolerance v)
  | thermalClearPolicy, v =>
    v.asPolicy?.elim (.error (UserChoices.refusal .unknownPolicy .thermalClearPolicy v)) .ok
  | thermalClearMargin, v => v.asBinary (UserChoices.refusal .notNumber .thermalClearMargin v)

/-- A value is read as what it means. -/
theorem read_eq_ok {key : SettingKey} {v : Value} {x : key.Reading} :
    key.read v = .ok x ↔ key.Means v x := by
  have helim {α : Type} {o : Option α} {fault : Fault} {a : α} :
      o.elim (.error fault) .ok = Except.ok a ↔ o = some a := by
    cases o <;> simp
  cases key with
  | showTemperatureWarning => exact helim.trans Value.asFlag?_eq_some
  | thermalClearPolicy => exact helim.trans Value.asPolicy?_eq_some
  | warningTemperature => exact Value.asBinary_eq_ok
  | warningTemperatureTolerance => exact Value.asBinary_eq_ok
  | thermalClearMargin => exact Value.asBinary_eq_ok

/-- A value that is too large is a fault of its own. -/
theorem read_of_exceeds {key : SettingKey} {v : Value} (h : key.Exceeds v) :
    key.read v = .error .numberTooLarge := by
  obtain ⟨hfigure, n, rfl, hlarge⟩ := h
  have hnone : (Number.integer n).toBinary? = none :=
    Number.toBinary?_eq_none.2 ⟨n, rfl, hlarge⟩
  have hread (refusal : Fault) :
      (Value.number (.integer n)).asBinary refusal = .error .numberTooLarge := by
    rw [Value.asBinary, hnone]
    rfl
  cases key with
  | showTemperatureWarning | thermalClearPolicy => cases hfigure
  | warningTemperature | warningTemperatureTolerance | thermalClearMargin =>
    simp only [read]
    exact hread _

/-- Any other fault of a value is the complaint about it. -/
theorem eq_of_read_eq_error {key : SettingKey} {v : Value} {fault : Fault}
    (h : key.read v = .error fault) (hfits : ¬key.Exceeds v) :
    fault = .concerning v (.settings (key.problem key v)) := by
  have helim {α : Type} {o : Option α} {refusal : Fault}
      (hfault : o.elim (.error refusal) .ok = Except.error fault) : fault = refusal := by
    cases o with
    | none => exact (Except.error.inj hfault).symm
    | some a => cases hfault
  have hfigure (hkey : key.isFigure = true) {refusal : Fault}
      (hfault : v.asBinary refusal = .error fault) : fault = refusal := by
    by_contra hother
    obtain ⟨-, hhuge⟩ := (Value.asBinary_eq_error (Ne.symm hother)).1 hfault
    exact hfits ⟨hkey, hhuge⟩
  cases key with
  | showTemperatureWarning | thermalClearPolicy => exact helim h
  | warningTemperature | warningTemperatureTolerance | thermalClearMargin => exact hfigure rfl h

/-- A value is refused with the fault that its setting has for it. -/
theorem read_eq_error {key : SettingKey} {v : Value} {fault : Fault} :
    key.read v = .error fault ↔ key.Refuses v fault := by
  constructor
  · intro h
    by_cases hexceeds : key.Exceeds v
    · obtain rfl := Except.error.inj ((read_of_exceeds hexceeds).symm.trans h)
      exact .tooLarge hexceeds
    · obtain rfl := eq_of_read_eq_error h hexceeds
      refine .meaningless (fun x hx => ?_) hexceeds
      cases h.symm.trans (read_eq_ok.2 hx)
  · rintro (hexceeds | ⟨hnone, hfits⟩)
    · exact read_of_exceeds hexceeds
    · cases hread : key.read v with
      | ok x => exact absurd (read_eq_ok.1 hread) (hnone x)
      | error other => rw [eq_of_read_eq_error hread hfits]

/-- The setting that a reading makes. -/
def field : (key : SettingKey) → key.Reading → key.Field
  | showTemperatureWarning, b => Value.flag b
  | warningTemperature, x => Value.number (.binary x)
  | warningTemperatureTolerance, x => Value.number (.binary x)
  | thermalClearPolicy, policy => policy
  | thermalClearMargin, x => Value.number (.binary x)

/-- A name is that of a setting exactly if it is looked up as such. -/
theorem ofText?_eq_some {name : Text} {key : SettingKey} :
    ofText? name = some key ↔ name = Text.ofString key.name := by
  constructor
  · intro h
    simpa [eq_comm] using List.find?_some h
  · rintro rfl
    cases key <;> decide

end SettingKey

/-- What a setting is. -/
def WarningSettings.get (s : WarningSettings) : (key : SettingKey) → key.Field
  | .showTemperatureWarning => s.showTemperatureWarning
  | .warningTemperature => s.warningTemperature
  | .warningTemperatureTolerance => s.warningTemperatureTolerance
  | .thermalClearPolicy => s.thermalClearPolicy
  | .thermalClearMargin => s.thermalClearMargin

/-- What a setting is where nothing is set: as it is, but of the flag its truth. -/
def WarningSettings.unset (s : WarningSettings) : (key : SettingKey) → key.Field
  | .showTemperatureWarning => Value.flag s.showTemperatureWarning.truth
  | key => s.get key

namespace UserChoices

/-- What has been chosen for a setting. -/
def get (choices : UserChoices) : (key : SettingKey) → Option key.Reading
  | .showTemperatureWarning => choices.showTemperatureWarning
  | .warningTemperature => choices.warningTemperature
  | .warningTemperatureTolerance => choices.warningTemperatureTolerance
  | .thermalClearPolicy => choices.thermalClearPolicy
  | .thermalClearMargin => choices.thermalClearMargin

/-- The choices with a reading chosen for a setting. -/
def put (choices : UserChoices) : (key : SettingKey) → key.Reading → UserChoices
  | .showTemperatureWarning, b => { choices with showTemperatureWarning := some b }
  | .warningTemperature, x => { choices with warningTemperature := some x }
  | .warningTemperatureTolerance, x => { choices with warningTemperatureTolerance := some x }
  | .thermalClearPolicy, policy => { choices with thermalClearPolicy := some policy }
  | .thermalClearMargin, x => { choices with thermalClearMargin := some x }

variable (choices : UserChoices)

theorem get_put (key : SettingKey) (x : key.Reading) : (choices.put key x).get key = some x := by
  cases key <;> rfl

theorem get_put_of_ne {key other : SettingKey} (h : other ≠ key) (x : key.Reading) :
    (choices.put key x).get other = choices.get other := by
  cases key <;> cases other <;> first | rfl | exact absurd rfl h

/-- A setting is chosen as its value is read. -/
theorem choose_eq (key : SettingKey) (v : Value) :
    choices.choose key v = (key.read v).map (choices.put key) := by
  cases key with
  | showTemperatureWarning =>
    rw [choose, SettingKey.read]
    cases v.asFlag? <;> rfl
  | thermalClearPolicy =>
    rw [choose, SettingKey.read]
    cases v.asPolicy? <;> rfl
  | _ => rfl

theorem choose_eq_error_iff_read {key : SettingKey} {v : Value} {fault : Fault} :
    choices.choose key v = .error fault ↔ key.read v = .error fault := by
  rw [choose_eq]
  cases key.read v <;> simp [Except.map]

/-- What is chosen lies over the defaults, setting by setting. -/
theorem get_overlay (defaults : WarningSettings) (key : SettingKey) :
    (defaults.overlay choices).get key = (choices.get key).elim (defaults.unset key) key.field := by
  obtain ⟨enabled, -, -, policy, -⟩ := choices
  cases key with
  | showTemperatureWarning => cases enabled <;> rfl
  | thermalClearPolicy => cases policy <;> rfl
  | _ => rfl

/-- The choice to show warnings is the user's exactly if it has been made. -/
theorem overlay_warningSource (defaults : WarningSettings) :
    (defaults.overlay choices).warningSource = .userSetting ↔
      (choices.get .showTemperatureWarning).isSome = true := by
  obtain ⟨enabled, -, -, -, -⟩ := choices
  cases enabled with
  | none => exact iff_of_false nofun nofun
  | some b => exact iff_of_true rfl rfl

end UserChoices

/-! ## What a mapping sets -/

/-- Whether a mapping sets a setting to a value. -/
def Mapping.Sets (user : Mapping) (key : SettingKey) (v : Value) : Prop :=
  (Text.ofString key.name, v) ∈ user ∧ v ≠ .null

/-- Whether all that a mapping sets means something. -/
def Mapping.IsReadable (user : Mapping) : Prop :=
  ∀ key v, user.Sets key v → ∃ x, key.Means v x

namespace Mapping

variable {before rest : Mapping} {name : Text} {key known other : SettingKey} {v w : Value}

theorem not_sets_nil : ¬Sets [] key w := fun h => List.not_mem_nil h.1

/-- An entry that has the name of a setting and is not null sets it. -/
theorem sets_cons_of_name (hname : SettingKey.ofText? name = some known) (hv : v ≠ .null) :
    Sets ((name, v) :: rest) key w ↔ (known = key ∧ v = w) ∨ rest.Sets key w := by
  have hkey : Text.ofString key.name = name ↔ known = key := by
    rw [eq_comm, ← SettingKey.ofText?_eq_some, hname, Option.some_inj]
  simp only [Sets, List.mem_cons, Prod.mk.injEq, hkey]
  constructor
  · rintro ⟨⟨hknown, rfl⟩ | hmem, hw⟩
    · exact .inl ⟨hknown, rfl⟩
    · exact .inr ⟨hmem, hw⟩
  · rintro (⟨hknown, rfl⟩ | ⟨hmem, hw⟩)
    · exact ⟨.inl ⟨hknown, rfl⟩, hv⟩
    · exact ⟨.inr hmem, hw⟩

/-- An entry that has no name of a setting, or is null, sets nothing. -/
theorem sets_cons_of_inert (h : SettingKey.ofText? name = none ∨ v = .null) :
    Sets ((name, v) :: rest) key w ↔ rest.Sets key w := by
  simp only [Sets, List.mem_cons, Prod.mk.injEq]
  refine and_congr_left fun hw => or_iff_right ?_
  rintro ⟨hname, rfl⟩
  rcases h with hnone | hnull
  · cases hnone.symm.trans (SettingKey.ofText?_eq_some.2 hname.symm)
  · exact hw hnull

/-- An entry sets what its name says, unless it is null. -/
theorem sets_concat :
    Sets (before ++ [(name, v)]) key w ↔
      before.Sets key w ∨ SettingKey.ofText? name = some key ∧ v = w ∧ w ≠ .null := by
  rw [SettingKey.ofText?_eq_some]
  simp only [Sets, List.mem_append, List.mem_singleton, Prod.mk.injEq]
  tauto

/-- The entry of a setting is the only one for it. -/
theorem not_sets_of_nodup (hkeys : ((before ++ [(name, v)]).map Prod.fst).Nodup)
    (hkey : SettingKey.ofText? name = some key) : ¬before.Sets key w := by
  rintro ⟨hmem, -⟩
  rw [List.map_append, List.nodup_append] at hkeys
  have hname : name = Text.ofString key.name := SettingKey.ofText?_eq_some.1 hkey
  exact hkeys.2.2 _ (List.mem_map_of_mem hmem) name (by simp) hname.symm

end Mapping

namespace UserChoices

variable {before user : Mapping} {choices next : UserChoices}

/-- What one entry of a mapping comes to: nothing if it is null or has no name of a setting, or else
what its value is read as. -/
theorem readEntry_cases (choices : UserChoices) (name : Text) (v : Value) :
    (readEntry choices (name, v) = .ok choices ∧
        ∀ key w, ¬(SettingKey.ofText? name = some key ∧ v = w ∧ w ≠ .null)) ∨
      ∃ key, SettingKey.ofText? name = some key ∧ v ≠ .null ∧
        readEntry choices (name, v) = (key.read v).map (choices.put key) := by
  cases hkey : SettingKey.ofText? name with
  | none => exact .inl ⟨by rw [readEntry, hkey], fun key w h => absurd h.1 nofun⟩
  | some key =>
    by_cases hv : v = .null
    · subst hv
      refine .inl ⟨by rw [readEntry, hkey], ?_⟩
      rintro other w ⟨-, rfl, hw⟩
      exact hw rfl
    · refine .inr ⟨key, rfl, hv, ?_⟩
      rw [← choose_eq, readEntry, hkey]
      cases v <;> first | rfl | exact absurd rfl hv

theorem ofMapping_concat (before : Mapping) (entry : Text × Value) :
    ofMapping (before ++ [entry]) =
      (ofMapping before).bind fun choices => readEntry choices entry := by
  rw [ofMapping, List.foldlM_append]
  change Except.bind _ _ = _
  congr 1
  funext choices
  rw [List.foldlM_cons]
  exact bind_pure _

/-- A mapping is read exactly if all that it sets means something. -/
theorem exists_ofMapping_eq_ok {user : Mapping} :
    (∃ choices, ofMapping user = .ok choices) ↔ user.IsReadable := by
  induction user using List.reverseRecOn with
  | nil => exact iff_of_true ⟨{}, rfl⟩ fun _ _ h => absurd h.1 List.not_mem_nil
  | append_singleton before entry ih =>
    obtain ⟨name, v⟩ := entry
    constructor
    · rintro ⟨next, hnext⟩
      rw [ofMapping_concat] at hnext
      obtain ⟨choices, hchoices, hentry⟩ := bind_eq_ok.1 hnext
      intro key w hsets
      rcases Mapping.sets_concat.1 hsets with hbefore | hnew
      · exact ih.1 ⟨choices, hchoices⟩ key w hbefore
      · obtain ⟨-, hinert⟩ | ⟨known, hknown, -, hread⟩ := readEntry_cases choices name v
        · exact absurd hnew (hinert key w)
        · obtain rfl := Option.some.inj (hknown.symm.trans hnew.1)
          obtain rfl := hnew.2.1
          obtain ⟨x, hx, -⟩ := map_eq_ok.1 (hread.symm.trans hentry)
          exact ⟨x, SettingKey.read_eq_ok.1 hx⟩
    · intro hreadable
      obtain ⟨choices, hchoices⟩ := ih.2 fun key w hsets =>
        hreadable key w (Mapping.sets_concat.2 (.inl hsets))
      rw [ofMapping_concat, hchoices]
      obtain ⟨hentry, -⟩ | ⟨key, hkey, hv, hread⟩ := readEntry_cases choices name v
      · exact ⟨choices, hentry⟩
      · obtain ⟨x, hx⟩ := hreadable key v (Mapping.sets_concat.2 (.inr ⟨hkey, rfl, hv⟩))
        exact ⟨choices.put key x, hread.trans (by rw [SettingKey.read_eq_ok.2 hx]; rfl)⟩

/-- A mapping fails at the first value that is set and refused. -/
theorem ofMapping_eq_error {user : Mapping} {fault : Fault} :
    ofMapping user = .error fault ↔
      ∃ (before : Mapping) (key : SettingKey) (v : Value) (after : Mapping),
        user = before ++ (Text.ofString key.name, v) :: after ∧
        Mapping.IsReadable before ∧ v ≠ .null ∧ key.Refuses v fault := by
  rw [ofMapping, foldlM_eq_error]
  constructor
  · rintro ⟨before, ⟨name, v⟩, after, choices, rfl, hbefore, hentry⟩
    obtain ⟨hv, key, hkey, hchoose⟩ := readEntry_eq_error.1 hentry
    obtain rfl := SettingKey.ofText?_eq_some.1 hkey
    exact ⟨before, key, v, after, rfl, exists_ofMapping_eq_ok.1 ⟨choices, hbefore⟩, hv,
      SettingKey.read_eq_error.1 ((choose_eq_error_iff_read choices).1 hchoose)⟩
  · rintro ⟨before, key, v, after, rfl, hreadable, hv, hread⟩
    obtain ⟨choices, hchoices⟩ := exists_ofMapping_eq_ok.2 hreadable
    refine ⟨before, (Text.ofString key.name, v), after, choices, rfl, hchoices, ?_⟩
    exact readEntry_eq_error.2 ⟨hv, key, SettingKey.ofText?_eq_some.2 rfl,
      (choose_eq_error_iff_read choices).2 (SettingKey.read_eq_error.2 hread)⟩

/-- Whether choices are what a mapping sets, setting by setting. -/
def Reflect (choices : UserChoices) (user : Mapping) : Prop :=
  ∀ key, (∀ v, user.Sets key v → ∃ x, key.Means v x ∧ choices.get key = some x) ∧
    ((∀ v, ¬user.Sets key v) → choices.get key = none)

/-- One more entry is read as what it sets, if there is none with its name before. -/
theorem Reflect.readEntry {name : Text} {v : Value} (h : choices.Reflect before)
    (hkeys : ((before ++ [(name, v)]).map Prod.fst).Nodup)
    (hentry : choices.readEntry (name, v) = .ok next) :
    next.Reflect (before ++ [(name, v)]) := by
  intro key
  obtain ⟨hsame, hinert⟩ | ⟨known, hknown, hv, hread⟩ := readEntry_cases choices name v
  · obtain rfl := Except.ok.inj (hsame.symm.trans hentry)
    have hsets (w : Value) :
        Mapping.Sets (before ++ [(name, v)]) key w ↔ before.Sets key w := by
      rw [Mapping.sets_concat, or_iff_left (hinert key w)]
    simpa only [hsets] using h key
  · obtain ⟨x, hx, rfl⟩ := map_eq_ok.1 (hread.symm.trans hentry)
    by_cases hkey : key = known
    -- No earlier entry has set this one, since its name stands only once.
    · subst hkey
      have hsets (w : Value) : Mapping.Sets (before ++ [(name, v)]) key w ↔ v = w := by
        rw [Mapping.sets_concat, or_iff_right (Mapping.not_sets_of_nodup hkeys hknown)]
        exact ⟨fun hnew => hnew.2.1, fun hw => ⟨hknown, hw, hw ▸ hv⟩⟩
      simp only [hsets, get_put]
      have hmeans := SettingKey.read_eq_ok.1 hx
      exact ⟨fun w hw => ⟨x, hw ▸ hmeans, rfl⟩, fun hnone => absurd rfl (hnone v)⟩
    · have hsets (w : Value) :
          Mapping.Sets (before ++ [(name, v)]) key w ↔ before.Sets key w := by
        rw [Mapping.sets_concat, or_iff_left]
        rintro ⟨hname, -⟩
        exact hkey (Option.some.inj (hname.symm.trans hknown))
      rw [get_put_of_ne _ hkey]
      simpa only [hsets] using h key

/-- What is read of a mapping with one entry for each key is what it sets. -/
theorem reflect_ofMapping (hkeys : (user.map Prod.fst).Nodup) (h : ofMapping user = .ok choices) :
    choices.Reflect user := by
  induction user using List.reverseRecOn generalizing choices with
  | nil =>
    obtain rfl := Except.ok.inj h
    exact fun key => ⟨fun v hsets => absurd hsets.1 List.not_mem_nil, fun _ => by cases key <;> rfl⟩
  | append_singleton before entry ih =>
    rw [ofMapping_concat] at h
    obtain ⟨earlier, hearlier, hentry⟩ := bind_eq_ok.1 h
    have hbefore : (before.map Prod.fst).Nodup := by
      rw [List.map_append] at hkeys
      exact hkeys.of_append_left
    exact (ih hbefore hearlier).readEntry hkeys hentry

end UserChoices

/-! ## What settings come of it -/

/-- Whether settings are what a mapping sets over what the defaults say. -/
structure WarningSettings.IsOverlay (s defaults : WarningSettings) (user : Mapping) : Prop where
  set : ∀ key v, user.Sets key v → ∃ x, key.Means v x ∧ s.get key = key.field x
  unset : ∀ key, (∀ v, ¬user.Sets key v) → s.get key = defaults.unset key
  source : s.warningSource = .userSetting ↔ ∃ v, user.Sets .showTemperatureWarning v
  bucket : s.warningBucketThreshold = defaults.warningBucketThreshold
  standardTime : s.standardTimeThreshold = defaults.standardTimeThreshold
  hybridTime : s.hybridTimeThreshold = defaults.hybridTimeThreshold

namespace WarningSettings

variable {s t defaults : WarningSettings} {user : Mapping}

theorem isOverlay_of_reflect {choices : UserChoices} (h : choices.Reflect user) :
    (defaults.overlay choices).IsOverlay defaults user where
  set := by
    intro key v hsets
    obtain ⟨x, hx, hget⟩ := (h key).1 v hsets
    exact ⟨x, hx, by rw [choices.get_overlay, hget]; rfl⟩
  unset := by
    intro key hnone
    rw [choices.get_overlay, (h key).2 hnone]
    rfl
  source := by
    rw [choices.overlay_warningSource]
    constructor
    · intro hsome
      by_contra hnone
      rw [(h _).2 fun v hsets => hnone ⟨v, hsets⟩] at hsome
      cases hsome
    · rintro ⟨v, hsets⟩
      obtain ⟨x, -, hget⟩ := (h _).1 v hsets
      rw [hget]
      rfl
  bucket := rfl
  standardTime := rfl
  hybridTime := rfl

/-- Settings are known by what each of them is. -/
theorem eq_of_get (hget : ∀ key, s.get key = t.get key)
    (hsource : s.warningSource = t.warningSource)
    (hbucket : s.warningBucketThreshold = t.warningBucketThreshold)
    (hstandard : s.standardTimeThreshold = t.standardTimeThreshold)
    (hhybrid : s.hybridTimeThreshold = t.hybridTimeThreshold) : s = t := by
  have henabled := hget .showTemperatureWarning
  have htemperature := hget .warningTemperature
  have htolerance := hget .warningTemperatureTolerance
  have hpolicy := hget .thermalClearPolicy
  have hmargin := hget .thermalClearMargin
  cases s
  cases t
  simp only [get] at henabled htemperature htolerance hpolicy hmargin
  subst henabled htemperature htolerance hpolicy hmargin hsource hbucket hstandard hhybrid
  rfl

/-- There is only one overlay. -/
theorem IsOverlay.eq (hs : s.IsOverlay defaults user) (ht : t.IsOverlay defaults user) : s = t := by
  have hget (key : SettingKey) : s.get key = t.get key := by
    by_cases hsets : ∃ v, user.Sets key v
    · obtain ⟨v, hv⟩ := hsets
      obtain ⟨x, hx, hsx⟩ := hs.set key v hv
      obtain ⟨y, hy, hty⟩ := ht.set key v hv
      have hsame := (SettingKey.read_eq_ok.2 hx).symm.trans (SettingKey.read_eq_ok.2 hy)
      obtain rfl := Except.ok.inj hsame
      exact hsx.trans hty.symm
    · have hnone (v : Value) : ¬user.Sets key v := fun hv => hsets ⟨v, hv⟩
      exact (hs.unset key hnone).trans (ht.unset key hnone).symm
  -- There are two sources, so it is known from when it is the user.
  have hsource : s.warningSource = t.warningSource := by
    have hiff := hs.source.trans ht.source.symm
    generalize s.warningSource = first at hiff
    generalize t.warningSource = second at hiff
    cases first <;> cases second <;> simp at hiff ⊢
  exact eq_of_get hget hsource (hs.bucket.trans ht.bucket.symm)
    (hs.standardTime.trans ht.standardTime.symm) (hs.hybridTime.trans ht.hybridTime.symm)

/-- An overlay depends on nothing but what is set. -/
theorem IsOverlay.congr {other : Mapping} (h : ∀ key v, user.Sets key v ↔ other.Sets key v) :
    s.IsOverlay defaults user ↔ s.IsOverlay defaults other := by
  have hsets : user.Sets = other.Sets := by
    funext key v
    exact propext (h key v)
  constructor <;> rintro ⟨hset, hunset, hsource, hbucket, hstandard, hhybrid⟩
  · exact ⟨hsets ▸ hset, hsets ▸ hunset, hsets ▸ hsource, hbucket, hstandard, hhybrid⟩
  · exact ⟨hsets ▸ hset, hsets ▸ hunset, hsets ▸ hsource, hbucket, hstandard, hhybrid⟩

end WarningSettings

variable {user : Mapping} {defaults s : WarningSettings}

/-- Settings come of a mapping exactly if it can be read. -/
theorem exists_resolveSettings :
    (∃ s, resolveSettings user defaults = .ok s) ↔ user.IsReadable := by
  rw [← UserChoices.exists_ofMapping_eq_ok]
  constructor
  · rintro ⟨s, hs⟩
    obtain ⟨choices, hchoices, -⟩ := bind_eq_ok.1 hs
    exact ⟨choices, hchoices⟩
  · rintro ⟨choices, hchoices⟩
    exact ⟨defaults.overlay choices, bind_eq_ok.2 ⟨choices, hchoices, rfl⟩⟩

/-- Settings come of a mapping exactly if they are its overlay. -/
theorem resolveSettings_eq_ok (hkeys : (user.map Prod.fst).Nodup) :
    resolveSettings user defaults = .ok s ↔ s.IsOverlay defaults user := by
  have hoverlay {made : WarningSettings} (h : resolveSettings user defaults = .ok made) :
      made.IsOverlay defaults user := by
    obtain ⟨choices, hchoices, hmade⟩ := bind_eq_ok.1 h
    obtain rfl := Except.ok.inj hmade
    exact WarningSettings.isOverlay_of_reflect (UserChoices.reflect_ofMapping hkeys hchoices)
  refine ⟨hoverlay, fun hs => ?_⟩
  obtain ⟨made, hmade⟩ : ∃ made, resolveSettings user defaults = .ok made := by
    refine exists_resolveSettings.2 fun key v hv => ?_
    obtain ⟨x, hx, -⟩ := hs.set key v hv
    exact ⟨x, hx⟩
  rw [hmade, (hoverlay hmade).eq hs]

/-- The settings that come of a mapping, if there are any, are what it sets over what the defaults
say. There are some exactly if all that is set means something, and otherwise the fault is that of
the first value that is refused. So another mapping that sets the same comes to the same settings,
or to none either, whatever the order of its entries and whatever else is in it. -/
theorem resolveSettings_overlay (hkeys : (user.map Prod.fst).Nodup) :
    (∀ s, resolveSettings user defaults = .ok s ↔ s.IsOverlay defaults user) ∧
      ((∃ s, resolveSettings user defaults = .ok s) ↔ user.IsReadable) ∧
      (∀ fault, resolveSettings user defaults = .error fault ↔
        ∃ (before : Mapping) (key : SettingKey) (v : Value) (after : Mapping),
          user = before ++ (Text.ofString key.name, v) :: after ∧
          Mapping.IsReadable before ∧ v ≠ .null ∧ key.Refuses v fault) ∧
      ∀ other : Mapping, (other.map Prod.fst).Nodup →
        (∀ key v, user.Sets key v ↔ other.Sets key v) →
        (resolveSettings user defaults).toOption = (resolveSettings other defaults).toOption := by
  refine ⟨fun s => resolveSettings_eq_ok hkeys, exists_resolveSettings, fun fault => ?_,
    fun other hother hsame => ?_⟩
  · rw [resolveSettings_eq_error, UserChoices.ofMapping_eq_error]
  · have hiff (s : WarningSettings) :
        resolveSettings user defaults = .ok s ↔ resolveSettings other defaults = .ok s := by
      rw [resolveSettings_eq_ok hkeys, resolveSettings_eq_ok hother,
        WarningSettings.IsOverlay.congr hsame]
    cases huser : resolveSettings user defaults with
    | ok s => rw [(hiff s).1 huser]
    | error fault =>
      cases hresolved : resolveSettings other defaults with
      | ok s => exact absurd (huser.symm.trans ((hiff s).2 hresolved)) nofun
      | error later => rfl

/-- Zero is a margin like any other and a word for a flag counts in any letter case; a null, an
unknown name and the order do not matter. Without a choice what counts of the default is its truth.
Two is no flag, and this is what is reported, although a later entry cannot be read either. -/
theorem resolveSettings_overlay_zero :
    let user : Mapping :=
      [("thermal_clear_margin", 0), ("colour", .text "red"), ("warning_temperature", .null),
        ("show_temperature_warning", .text " True")]
    let other : Mapping :=
      [("show_temperature_warning", .text " True"), ("thermal_clear_margin", 0)]
    let refused : Mapping :=
      [("thermal_clear_margin", 0), ("show_temperature_warning", 2),
        ("warning_temperature", .flag true)]
    let defaults : WarningSettings :=
      { showTemperatureWarning := 0, warningTemperature := 45, thermalClearMargin := 2 }
    (∃ s, resolveSettings user defaults = .ok s ∧ s.showTemperatureWarning = .flag true ∧
        s.warningSource = .userSetting ∧ s.thermalClearMargin = Binary64.zero ∧
        s.warningTemperature = 45 ∧ (resolveSettings other defaults).toOption = some s) ∧
      (∃ s, resolveSettings [] defaults = .ok s ∧ s.showTemperatureWarning = .flag false) ∧
      resolveSettings refused defaults =
        .error (.settings (.notFlag .showTemperatureWarning 2)) := by
  intro user other refused defaults
  have hmargin : SettingKey.ofText? "thermal_clear_margin" = some .thermalClearMargin := by decide
  have hshow : SettingKey.ofText? "show_temperature_warning" = some .showTemperatureWarning := by
    decide
  have hcolour : SettingKey.ofText? "colour" = none := by decide
  have hzero : (0 : Value) ≠ .null := nofun
  have htrue : Value.text " True" ≠ .null := nofun
  have huser (key : SettingKey) (v : Value) : Mapping.Sets user key v ↔
      (.thermalClearMargin = key ∧ 0 = v) ∨ .showTemperatureWarning = key ∧ .text " True" = v := by
    rw [Mapping.sets_cons_of_name hmargin hzero, Mapping.sets_cons_of_inert (.inl hcolour),
      Mapping.sets_cons_of_inert (.inr rfl), Mapping.sets_cons_of_name hshow htrue,
      or_iff_left Mapping.not_sets_nil]
  have hother (key : SettingKey) (v : Value) : Mapping.Sets other key v ↔
      (.showTemperatureWarning = key ∧ .text " True" = v) ∨ .thermalClearMargin = key ∧ 0 = v := by
    rw [Mapping.sets_cons_of_name hshow htrue, Mapping.sets_cons_of_name hmargin hzero,
      or_iff_left Mapping.not_sets_nil]
  obtain ⟨hoverlay, hreadable, -, hsame⟩ := @resolveSettings_overlay user defaults (by decide)
  refine ⟨?_, ?_, ?_⟩
  · obtain ⟨s, hs⟩ := hreadable.2 fun key v hv => by
      rcases (huser key v).1 hv with ⟨rfl, rfl⟩ | ⟨rfl, rfl⟩
      · exact ⟨Binary64.zero, .number rfl⟩
      · exact ⟨true, @Value.MeansFlag.word _ _ "true" (by simp [flagWords]) (by decide)⟩
    obtain ⟨hset, hunset, hsource, -, -, -⟩ := (hoverlay s).1 hs
    have hshown := (huser _ _).2 (.inr ⟨rfl, rfl⟩)
    obtain ⟨b, hb, hflag⟩ := hset _ _ hshown
    obtain ⟨x, ⟨hnearest⟩, hmade⟩ := hset _ _ ((huser _ _).2 (.inl ⟨rfl, rfl⟩))
    have hword : (Value.text " True").asFlag? = some true := by decide +kernel
    have hnaught : Number.toBinary? 0 = some Binary64.zero := by decide +kernel
    obtain rfl := Option.some.inj (hword.symm.trans (Value.asFlag?_eq_some.2 hb))
    obtain rfl := Option.some.inj (hnaught.symm.trans hnearest)
    refine ⟨s, hs, hflag, hsource.2 ⟨_, hshown⟩, hmade, ?_, ?_⟩
    · exact hunset .warningTemperature fun v hv => by simpa using (huser _ v).1 hv
    · rw [← hsame other (by decide) fun key v => by rw [huser, hother, or_comm], hs]
      rfl
  · obtain ⟨hnothing, hsome, -, -⟩ := @resolveSettings_overlay [] defaults (by simp)
    obtain ⟨s, hs⟩ := hsome.2 fun _ _ h => absurd h Mapping.not_sets_nil
    exact ⟨s, hs, ((hnothing s).1 hs).unset .showTemperatureWarning fun _ => Mapping.not_sets_nil⟩
  · obtain ⟨-, -, hrefused, -⟩ := @resolveSettings_overlay refused defaults (by decide)
    have htold : Fault.concerning 2 (.settings (.notFlag .showTemperatureWarning 2)) =
        .settings (.notFlag .showTemperatureWarning 2) :=
      if_pos (Value.isWritable_integer (by decide +kernel))
    rw [← htold]
    refine (hrefused _).2 ⟨[("thermal_clear_margin", 0)], .showTemperatureWarning, 2,
      [("warning_temperature", .flag true)], rfl, fun key v hv => ?_, nofun,
      .meaningless (fun b hb => ?_) (fun hlarge => ?_)⟩
    · rw [Mapping.sets_cons_of_name hmargin hzero, or_iff_left Mapping.not_sets_nil] at hv
      obtain ⟨rfl, rfl⟩ := hv
      exact ⟨Binary64.zero, .number rfl⟩
    · cases hb with
      | number hsame =>
        revert hsame
        cases b <;> decide
    · cases hlarge.1

end DeviceWarnings
