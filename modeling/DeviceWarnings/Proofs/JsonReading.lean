import DeviceWarnings.Json.Reader
import DeviceWarnings.Proofs.Decisions
import Mathlib.Data.Nat.Digits.Lemmas

/-!
# Limits of reading JSON

A text is read token after token, and the reading ends at the first token that cannot follow. It
ends with a number of too many digits exactly at such a number where a value may stand, and with a
list or mapping that is too deep exactly at the start of one inside 990 others. Whole numbers in
what is read have 4300 digits at most, so all that is read can be written again; this is carried
from the tokens to the open lists and mappings, and from there to the value.
-/

namespace DeviceWarnings

section Loops

variable {ε α σ : Type} {step : σ → α → Except ε σ} {s s' : σ} {items : List α} {fault : ε}

/-- A loop fails where one of its steps fails after those before it. -/
theorem foldlM_eq_error :
    items.foldlM step s = .error fault ↔
      ∃ before item after s', items = before ++ item :: after ∧
        before.foldlM step s = .ok s' ∧ step s' item = .error fault := by
  constructor
  · intro h
    induction items generalizing s with
    | nil => cases h
    | cons first rest ih =>
      rw [List.foldlM_cons] at h
      cases hfirst : step s first with
      | error other =>
        rw [hfirst] at h
        obtain rfl : other = fault := Except.error.inj h
        exact ⟨[], first, rest, s, rfl, rfl, hfirst⟩
      | ok next =>
        rw [hfirst] at h
        obtain ⟨before, item, after, s', rfl, hbefore, hitem⟩ := ih h
        refine ⟨first :: before, item, after, s', rfl, ?_, hitem⟩
        rw [List.foldlM_cons, hfirst]
        exact hbefore
  · rintro ⟨before, item, after, s', rfl, hbefore, hitem⟩
    rw [List.foldlM_append, hbefore]
    change List.foldlM step s' (item :: after) = _
    rw [List.foldlM_cons, hitem]
    rfl

/-- What every step of a loop keeps holds at its end. -/
theorem foldlM_keeps {P : σ → Prop}
    (hstep : ∀ a ∈ items, ∀ s s', P s → step s a = .ok s' → P s') (hs : P s)
    (h : items.foldlM step s = .ok s') : P s' := by
  induction items generalizing s with
  | nil =>
    obtain rfl : s = s' := Except.ok.inj h
    exact hs
  | cons first rest ih =>
    rw [List.foldlM_cons] at h
    obtain ⟨next, hfirst, hrest⟩ := bind_eq_ok.1 h
    exact ih (fun a ha => hstep a (List.mem_cons_of_mem _ ha))
      (hstep first (by simp) s next hs hfirst) hrest

end Loops

/-! ## Where the reading ends -/

/-- The kind of what a token starts, if that is a list or a mapping. -/
def JsonToken.opens? : JsonToken → Option Kind
  | openList => some .list
  | openMapping => some .mapping
  | _ => none

namespace JsonReader

variable {limit : Nat} {reader : JsonReader} {frames : List JsonFrame} {token : JsonToken}
  {kind : Kind} {count : Nat}

/-- Whether a value may stand next. -/
def ExpectsValue (reader : JsonReader) : Prop := reader.stage = .value ∨ reader.stage = .listStart

/-- How many lists and mappings are open. -/
def depth (reader : JsonReader) : Nat :=
  match reader.stage with
  | .value | .done _ => reader.frames.length
  | _ => reader.frames.length + 1

theorem enter_ne_tooManyDigits (stage : JsonStage) :
    enter limit frames kind stage ≠ .error (.tooManyDigits count) := by
  unfold enter
  split <;> simp

theorem enter_eq_tooDeep {other : Kind} {stage : JsonStage} :
    enter limit frames other stage = .error (.tooDeep kind) ↔
      other = kind ∧ limit ≤ frames.length := by
  unfold enter
  split <;> simp <;> omega

/-- A value has too many digits exactly if it is such a number. -/
theorem beginValue_eq_tooManyDigits :
    beginValue limit frames token = .error (.tooManyDigits count) ↔ token = .longNumber count := by
  cases token <;> simp [beginValue, enter_ne_tooManyDigits]

/-- A value is too deep exactly if it is a list or a mapping inside as many as there may be. -/
theorem beginValue_eq_tooDeep :
    beginValue limit frames token = .error (.tooDeep kind) ↔
      token.opens? = some kind ∧ limit ≤ frames.length := by
  cases token <;> simp [beginValue, enter_eq_tooDeep, JsonToken.opens?]

/-- A step ends the reading with a number of too many digits exactly at such a number where a value
may stand. -/
theorem step_eq_tooManyDigits :
    step limit reader token = .error (.tooManyDigits count) ↔
      reader.ExpectsValue ∧ token = .longNumber count := by
  obtain ⟨frames, stage⟩ := reader
  cases stage <;> cases token <;>
    simp [step, ExpectsValue, beginValue_eq_tooManyDigits]

/-- A step ends the reading with a list or mapping that is too deep exactly at the start of one
inside as many as there may be. -/
theorem step_eq_tooDeep :
    step limit reader token = .error (.tooDeep kind) ↔
      reader.ExpectsValue ∧ token.opens? = some kind ∧ limit ≤ reader.depth := by
  obtain ⟨frames, stage⟩ := reader
  cases stage <;> cases token <;>
    simp [step, ExpectsValue, beginValue_eq_tooDeep, JsonToken.opens?, depth]

end JsonReader

/-- A reading that fails for another reason than being malformed fails at a token. -/
theorem Value.ofJson_eq_error {limit : Nat} {t : Text} {defect : JsonDefect}
    (h : defect ≠ .malformed) :
    Value.ofJson limit t = .error defect ↔
      ∃ before token after reader, JsonToken.tokens t = before ++ token :: after ∧
        before.foldlM (JsonReader.step limit) {} = .ok reader ∧
        JsonReader.step limit reader token = .error defect := by
  rw [← foldlM_eq_error, Value.ofJson]
  cases hread : (JsonToken.tokens t).foldlM (JsonReader.step limit) {} with
  | error other => simp [bind, Except.bind]
  | ok reader =>
    change reader.result = _ ↔ _
    unfold JsonReader.result
    split <;> simp [h.symm]

/-- A text has too many digits exactly if the reading comes to such a number where a value may
stand. -/
theorem Value.ofJson_eq_tooManyDigits {limit : Nat} {t : Text} {count : Nat} :
    Value.ofJson limit t = .error (.tooManyDigits count) ↔
      ∃ before after reader, JsonToken.tokens t = before ++ .longNumber count :: after ∧
        before.foldlM (JsonReader.step limit) {} = .ok reader ∧ reader.ExpectsValue := by
  rw [Value.ofJson_eq_error (by simp)]
  constructor
  · rintro ⟨before, token, after, reader, htokens, hread, hstep⟩
    obtain ⟨hvalue, rfl⟩ := JsonReader.step_eq_tooManyDigits.1 hstep
    exact ⟨before, after, reader, htokens, hread, hvalue⟩
  · rintro ⟨before, after, reader, htokens, hread, hvalue⟩
    exact ⟨before, _, after, reader, htokens, hread,
      JsonReader.step_eq_tooManyDigits.2 ⟨hvalue, rfl⟩⟩

/-- A text is too deep exactly if the reading comes to a list or mapping inside as many as there
may be. -/
theorem Value.ofJson_eq_tooDeep {limit : Nat} {t : Text} {kind : Kind} :
    Value.ofJson limit t = .error (.tooDeep kind) ↔
      ∃ before token after reader, JsonToken.tokens t = before ++ token :: after ∧
        before.foldlM (JsonReader.step limit) {} = .ok reader ∧ reader.ExpectsValue ∧
        token.opens? = some kind ∧ limit ≤ reader.depth := by
  rw [Value.ofJson_eq_error (by simp)]
  simp only [JsonReader.step_eq_tooDeep]

/-- What in a text is too large to be read as JSON, with a limit of lists and mappings in one
another. -/
inductive JsonOverflow (limit : Nat) (t : Text) : Fault → Prop
  /-- A number of too many digits stands where a value may stand. -/
  | digits {before after : List JsonToken} {reader : JsonReader} {count : Nat}
      (tokens : JsonToken.tokens t = before ++ .longNumber count :: after)
      (read : before.foldlM (JsonReader.step limit) {} = .ok reader)
      (expected : reader.ExpectsValue) : JsonOverflow limit t (.tooManyDigits count)
  /-- A list or a mapping lies in as many others as there may be. -/
  | depth {before after : List JsonToken} {token : JsonToken} {reader : JsonReader} {kind : Kind}
      (tokens : JsonToken.tokens t = before ++ token :: after)
      (read : before.foldlM (JsonReader.step limit) {} = .ok reader)
      (expected : reader.ExpectsValue) (opens : token.opens? = some kind)
      (deep : limit ≤ reader.depth) : JsonOverflow limit t (.tooDeep kind)

/-- What is too large to be read is what the reading says to be so. -/
theorem jsonOverflow_iff {limit : Nat} {t : Text} {fault : Fault} :
    JsonOverflow limit t fault ↔
      (∃ count, fault = .tooManyDigits count ∧
        Value.ofJson limit t = .error (.tooManyDigits count)) ∨
      ∃ kind, fault = .tooDeep kind ∧ Value.ofJson limit t = .error (.tooDeep kind) := by
  constructor
  · rintro (⟨htokens, hread, hvalue⟩ | ⟨htokens, hread, hvalue, hopens, hdeep⟩)
    · exact .inl ⟨_, rfl, Value.ofJson_eq_tooManyDigits.2 ⟨_, _, _, htokens, hread, hvalue⟩⟩
    · exact .inr ⟨_, rfl,
        Value.ofJson_eq_tooDeep.2 ⟨_, _, _, _, htokens, hread, hvalue, hopens, hdeep⟩⟩
  · rintro (⟨count, rfl, hjson⟩ | ⟨kind, rfl, hjson⟩)
    · obtain ⟨_, _, _, htokens, hread, hvalue⟩ := Value.ofJson_eq_tooManyDigits.1 hjson
      exact .digits htokens hread hvalue
    · obtain ⟨_, _, _, _, htokens, hread, hvalue, hopens, hdeep⟩ := Value.ofJson_eq_tooDeep.1 hjson
      exact .depth htokens hread hvalue hopens hdeep

/-! ## Digits -/

theorem Decimal.tenPow_le_tenPow {m n : Nat} (h : m ≤ n) : tenPow m ≤ tenPow n :=
  Nat.pow_le_pow_right (by decide) h

/-- Digits stand for a number below the power of ten of their count. -/
theorem Numeral.ofDigits_lt {digits : List Nat} (h : ∀ d ∈ digits, d < 10) :
    Numeral.ofDigits digits < Decimal.tenPow digits.length := by
  have hmathlib : Numeral.ofDigits digits = Nat.ofDigits 10 digits.reverse := by
    rw [Nat.ofDigits_eq_foldr, List.foldr_reverse, Numeral.ofDigits]
    simp [Nat.add_comm]
  rw [hmathlib, ← List.length_reverse]
  exact Nat.ofDigits_lt_base_pow_length (by simp) (by simpa using h)

namespace JsonToken

/-- Whether a token keeps to the limit of digits: its value can be written, or it says that a number
has too many digits. -/
def KeepsLimit : JsonToken → Prop
  | scalar value => value.isWritable = true
  | longNumber count => digitLimit < count
  | _ => True

theorem digit?_lt {c : CodePoint} {d : Nat} (h : digit? c = some d) : d < 10 := by
  unfold digit? at h
  split at h
  · rename_i hrange
    have hhigh : c.val ≤ 0x39 := hrange.2
    have hd : c.val - 0x30 = d := Option.some.inj h
    omega
  · cases h

theorem leadingDigits_lt (t : Text) : ∀ d ∈ leadingDigits t, d < 10 := by
  induction t with
  | nil => simp [leadingDigits]
  | cons c rest ih =>
    rw [leadingDigits]
    cases hdigit : digit? c with
    | none => simp
    | some first =>
      simp only [List.mem_cons, forall_eq_or_imp]
      exact ⟨digit?_lt hdigit, ih⟩

theorem scanWhole_lt (t : Text) : ∀ d ∈ scanWhole t, d < 10 := by
  unfold scanWhole
  split
  · simp
  · exact leadingDigits_lt t

/-- A number that is read has no more digits than can be written. -/
theorem keepsLimit_scanNumber (negative : Bool) (t : Text) :
    (scanNumber negative t).1.KeepsLimit := by
  unfold scanNumber
  dsimp only
  split
  · split
    · rfl
    · trivial
  · split
    · split
      · assumption
      · rename_i hlength
        have hdigits := Numeral.ofDigits_lt (scanWhole_lt t)
        have hpow := Decimal.tenPow_le_tenPow (Nat.le_of_not_lt hlength)
        simp only [KeepsLimit, Value.isWritable, decide_eq_true_eq]
        refine Nat.lt_of_lt_of_le ?_ hpow
        cases negative <;> simpa [Numeral.toInt] using hdigits
    · rfl

theorem keepsLimit_scanWord (t : Text) : (scanWord t).1.KeepsLimit := by
  unfold scanWord
  split
  · rename_i word value hword
    have hwords : ∀ word ∈ words, word.2.isWritable = true := by
      simp [words, Value.isWritable]
    exact hwords _ (List.mem_of_find?_eq_some hword)
  · trivial

theorem keepsLimit_scan (c : CodePoint) (rest : Text) : (scan c rest).1.KeepsLimit := by
  unfold scan
  iterate 6 (split; · trivial)
  split
  · split <;> trivial
  · split
    · exact keepsLimit_scanNumber true rest
    · split
      · exact keepsLimit_scanNumber false (c :: rest)
      · exact keepsLimit_scanWord _

/-- Every token of a text keeps to the limit of digits. -/
theorem keepsLimit_tokens (t : Text) : ∀ token ∈ tokens t, token.KeepsLimit := by
  induction t using tokens.induct with
  | case1 => simp [tokens]
  | case2 c rest hspacing ih =>
    rw [tokens, if_pos hspacing]
    exact ih
  | case3 c rest hspacing ih =>
    rw [tokens, if_neg hspacing]
    simp only [List.mem_cons, forall_eq_or_imp]
    exact ⟨keepsLimit_scan c rest, ih⟩

end JsonToken

/-- A number of too many digits has more than there may be. -/
theorem Value.digitLimit_lt_of_ofJson {limit : Nat} {t : Text} {count : Nat}
    (h : Value.ofJson limit t = .error (.tooManyDigits count)) : digitLimit < count := by
  obtain ⟨before, after, reader, htokens, -⟩ := Value.ofJson_eq_tooManyDigits.1 h
  exact JsonToken.keepsLimit_tokens t (.longNumber count) (by simp [htokens])

/-! ## Values that can be written -/

namespace Value

theorem areWritable_iff {items : List Value} :
    areWritable items = true ↔ ∀ v ∈ items, v.isWritable = true := by
  induction items with
  | nil => simp [areWritable]
  | cons v rest ih => simp [areWritable, ih]

theorem areEntriesWritable_iff {entries : Mapping} :
    areEntriesWritable entries = true ↔ ∀ entry ∈ entries, entry.2.isWritable = true := by
  induction entries with
  | nil => simp [areEntriesWritable]
  | cons entry rest ih => simp [areEntriesWritable, ih]

end Value

/-- A mapping holds what was set last and what it held. -/
theorem Mapping.mem_set {entries : Mapping} {key : Text} {value : Value} {entry : Text × Value}
    (h : entry ∈ entries.set key value) : entry = (key, value) ∨ entry ∈ entries := by
  induction entries with
  | nil => exact .inl (List.mem_singleton.1 h)
  | cons first rest ih =>
    rw [Mapping.set] at h
    split at h
    · rcases List.mem_cons.1 h with rfl | hrest
      · exact .inl rfl
      · exact .inr (List.mem_cons_of_mem _ hrest)
    · rcases List.mem_cons.1 h with rfl | hrest
      · exact .inr (List.mem_cons_self ..)
      · exact (ih hrest).imp_right (List.mem_cons_of_mem _)

/-- Whether all that a list or mapping holds so far can be written. -/
def JsonFrame.IsWritable : JsonFrame → Prop
  | list items => (Value.list items).isWritable = true
  | mapping entries _ => (Value.mapping entries).isWritable = true

/-- Whether all that is held between two tokens can be written. -/
def JsonStage.IsWritable : JsonStage → Prop
  | afterItem items => (Value.list items).isWritable = true
  | key entries | afterKey entries _ | afterEntry entries =>
    (Value.mapping entries).isWritable = true
  | done v => v.isWritable = true
  | value | listStart | mappingStart => True

namespace JsonReader

/-- Whether all that a reader holds can be written. -/
structure IsWritable (reader : JsonReader) : Prop where
  frames : ∀ frame ∈ reader.frames, frame.IsWritable
  stage : reader.stage.IsWritable

variable {limit : Nat} {reader next : JsonReader} {frames : List JsonFrame} {token : JsonToken}
  {v : Value}

theorem isWritable_initial : ({} : JsonReader).IsWritable := ⟨by simp, trivial⟩

/-- A value that can be written is put into what is open. -/
theorem isWritable_complete (hframes : ∀ frame ∈ frames, frame.IsWritable)
    (hv : v.isWritable = true) : (complete v frames).IsWritable := by
  cases frames with
  | nil => exact ⟨hframes, hv⟩
  | cons frame rest =>
    obtain ⟨hframe, hrest⟩ := List.forall_mem_cons.1 hframes
    refine ⟨?_, ?_⟩
    · cases frame <;> exact hrest
    · cases frame with
      | list items =>
        have hitems := Value.areWritable_iff.1 hframe
        exact Value.areWritable_iff.2 (List.forall_mem_cons.2 ⟨hv, hitems⟩)
      | mapping entries key =>
        refine Value.areEntriesWritable_iff.2 fun entry hentry => ?_
        rcases Mapping.mem_set hentry with rfl | hold
        · exact hv
        · exact Value.areEntriesWritable_iff.1 hframe entry hold

theorem enter_eq_ok {kind : Kind} {stage : JsonStage}
    (h : enter limit frames kind stage = .ok next) : next = ⟨frames, stage⟩ := by
  unfold enter at h
  split at h
  · exact (Except.ok.inj h).symm
  · cases h

theorem isWritable_beginValue (hframes : ∀ frame ∈ frames, frame.IsWritable)
    (htoken : token.KeepsLimit) (h : beginValue limit frames token = .ok next) :
    next.IsWritable := by
  cases token with
  | scalar value =>
    obtain rfl := Except.ok.inj h
    exact isWritable_complete hframes htoken
  | text t =>
    obtain rfl := Except.ok.inj h
    exact isWritable_complete hframes rfl
  | openList =>
    obtain rfl := enter_eq_ok h
    exact ⟨hframes, trivial⟩
  | openMapping =>
    obtain rfl := enter_eq_ok h
    exact ⟨hframes, trivial⟩
  | _ => cases h

/-- A token that keeps to the limit of digits adds nothing that cannot be written. -/
theorem IsWritable.step (hreader : reader.IsWritable) (htoken : token.KeepsLimit)
    (h : reader.step limit token = .ok next) : next.IsWritable := by
  obtain ⟨frames, stage⟩ := reader
  obtain ⟨hframes, hstage⟩ := hreader
  cases stage with
  | value => exact isWritable_beginValue hframes htoken h
  | listStart =>
    have hopen : ∀ frame ∈ JsonFrame.list [] :: frames, frame.IsWritable := by
      simpa [JsonFrame.IsWritable, Value.isWritable, Value.areWritable] using hframes
    cases token with
    | closeList =>
      obtain rfl := Except.ok.inj h
      exact isWritable_complete hframes rfl
    | _ => exact @isWritable_beginValue limit _ _ _ hopen htoken h
  | afterItem items =>
    cases token with
    | comma =>
      obtain rfl := Except.ok.inj h
      exact ⟨List.forall_mem_cons.2 ⟨hstage, hframes⟩, trivial⟩
    | closeList =>
      obtain rfl := Except.ok.inj h
      have hitems := Value.areWritable_iff.1 hstage
      exact isWritable_complete hframes (Value.areWritable_iff.2 (by simpa using hitems))
    | _ => cases h
  | mappingStart =>
    cases token with
    | closeMapping =>
      obtain rfl := Except.ok.inj h
      exact isWritable_complete hframes rfl
    | text t =>
      obtain rfl := Except.ok.inj h
      exact ⟨hframes, rfl⟩
    | _ => cases h
  | key entries =>
    cases token with
    | text t =>
      obtain rfl := Except.ok.inj h
      exact ⟨hframes, hstage⟩
    | _ => cases h
  | afterKey entries t =>
    cases token with
    | colon =>
      obtain rfl := Except.ok.inj h
      exact ⟨List.forall_mem_cons.2 ⟨hstage, hframes⟩, trivial⟩
    | _ => cases h
  | afterEntry entries =>
    cases token with
    | comma =>
      obtain rfl := Except.ok.inj h
      exact ⟨hframes, hstage⟩
    | closeMapping =>
      obtain rfl := Except.ok.inj h
      exact isWritable_complete hframes hstage
    | _ => cases h
  | done v => cases h

end JsonReader

/-- What is read from a JSON text can be written. -/
theorem Value.isWritable_ofJson {limit : Nat} {t : Text} {v : Value}
    (h : Value.ofJson limit t = .ok v) :
    v.isWritable = true := by
  obtain ⟨reader, hread, hresult⟩ := bind_eq_ok.1 h
  have hreader : reader.IsWritable :=
    foldlM_keeps (fun token htoken _ _ hold hstep =>
      hold.step (JsonToken.keepsLimit_tokens t token htoken) hstep)
      JsonReader.isWritable_initial hread
  obtain ⟨frames, stage⟩ := reader
  cases stage with
  | done w =>
    obtain rfl : w = v := Except.ok.inj hresult
    exact hreader.stage
  | _ => cases hresult

end DeviceWarnings
