import DeviceWarnings.Device.Commands
import DeviceWarnings.Proofs.Completion
import DeviceWarnings.Proofs.Reports
import DeviceWarnings.Proofs.SettingsFile

/-!
# What the power commands can do to a poll

However the battery command ends and whatever it prints, reading the power state comes to a power
state or to none, and then the poll goes on. There are three exceptions, all of them about size: the
reading of the output comes to a number of too many digits, or to a list or mapping that is too
deep; or the report names a whole percentage beyond binary64 after a status and a state of health
that can be read. The command for the power saver is never the reason for a fault. All it decides is
whether the power state says that power is being saved.
-/

namespace DeviceWarnings

/-! ## Battery reports -/

/-- Whether a report with such a fault is merely no usable report. -/
def Fault.isExcused : Fault → Bool
  | noMember .. | unavailable _ => true
  | _ => false

/-- Whether a reported value can be read as a status: there is none, it is a text, or it counts as
no. -/
def BatteryStatus.IsReadable (reported : Option Value) : Prop :=
  ∀ v ∈ reported, (∃ t, v = .text t) ∨ v.truth = false

/-- A status is read, or the reported value has no text to read it from. -/
theorem BatteryStatus.ofReported_cases (reported : Option Value) :
    (IsReadable reported ∧ ∃ status, ofReported reported = .ok status) ∨
      (¬IsReadable reported ∧ ∃ kind, ofReported reported = .error (.noMember kind "strip")) := by
  cases reported with
  | none => exact .inl ⟨by simp [IsReadable], _, rfl⟩
  | some v =>
    cases v with
    | text t => exact .inl ⟨by simp [IsReadable], _, rfl⟩
    | _ =>
      simp only [IsReadable, ofReported, Option.mem_some_iff, forall_eq', reduceCtorEq,
        exists_false, false_or]
      split <;> simp_all

section Reports

variable {reported : Option Value} {entries : Mapping} {report powerSaver : Value} {fault : Fault}

/-- A percentage that can be written comes to a fault that is not excused exactly if it is a whole
number beyond binary64. -/
theorem percentageOf_eq_error (hreported : ∀ v ∈ reported, v.isWritable = true)
    (hfault : fault.isExcused = false) :
    percentageOf reported = .error fault ↔ fault = .numberTooLarge ∧
      ∃ n : Int, reported = some (.number (.integer n)) ∧ Binary64.wholeCeiling ≤ n.natAbs := by
  have hunavailable (outage : Outage) : .unavailable outage ≠ fault := by
    rintro rfl
    cases hfault
  have hmissing {v : Value} (hv : v.isWritable = true) :
      Fault.concerning v (.unavailable (.percentageMissing v)) ≠ fault := by
    rw [Fault.concerning, if_pos hv]
    exact hunavailable _
  cases reported with
  | none => simp [percentageOf, hmissing (v := .null) rfl]
  | some v =>
    cases v with
    | number a =>
      have hhuge : (∃ n : Int, some (Value.number a) = some (.number (.integer n)) ∧
          Binary64.wholeCeiling ≤ n.natAbs) ↔ a.toBinary? = none := by
        simp [Number.toBinary?_eq_none]
      rw [hhuge, percentageOf]
      split
      case h_1 hfits => simp [hfits, eq_comm]
      case h_2 x percentage hfits _ => simp [hfits]
      case h_3 x hfits _ => simp [hunavailable, hfits]
    | _ => simp [percentageOf, hmissing (hreported _ rfl)]

/-- Whether a report names a whole percentage beyond binary64, after a status and a state of health
that can be read. -/
def Mapping.HasHugePercentage (entries : Mapping) : Prop :=
  BatteryStatus.IsReadable (entries.get? "status") ∧
    BatteryStatus.IsReadable (entries.get? "health") ∧
    ∃ n : Int, entries.get? "percentage" = some (.number (.integer n)) ∧
      Binary64.wholeCeiling ≤ n.natAbs

/-- Below the default levels every percentage has a bucket, so that a report which can be written
comes to a fault that is not excused exactly if its percentage is too large. -/
theorem PowerState.ofEntries_eq_error (hentries : ∀ entry ∈ entries, entry.2.isWritable = true)
    (hfault : fault.isExcused = false) :
    ofEntries entries defaultWarningLevels defaultCloseOffset powerSaver = .error fault ↔
      fault = .numberTooLarge ∧ entries.HasHugePercentage := by
  have hmember (kind : Kind) (member : String) : .noMember kind member ≠ fault := by
    rintro rfl
    cases hfault
  have hpercentage : ∀ v ∈ entries.get? "percentage", v.isWritable = true := by
    intro v hv
    obtain ⟨entry, hentry, rfl⟩ := Option.map_eq_some_iff.1 hv
    exact hentries entry (List.mem_of_find?_eq_some hentry)
  rw [Mapping.HasHugePercentage]
  rcases BatteryStatus.ofReported_cases (entries.get? "status") with
    ⟨hstatus, status, hread⟩ | ⟨hstatus, kind, hread⟩
  · rcases BatteryStatus.ofReported_cases (entries.get? "health") with
      ⟨hhealth, health, hfit⟩ | ⟨hhealth, kind, hfit⟩
    · rw [and_iff_right hstatus, and_iff_right hhealth,
        ← percentageOf_eq_error hpercentage hfault]
      cases hnumber : percentageOf (entries.get? "percentage") with
      | error other => simp [ofEntries, hread, hfit, hnumber, bind, Except.bind]
      | ok percentage =>
        obtain ⟨bucket, hbucket, -⟩ := bucketOf_default percentage
        rw [ofEntries, hread, hfit, hnumber]
        change (bucketOf (.number (.integer percentage)) defaultWarningLevels 20 >>=
          fun found => Except.ok _) = .error fault ↔ _
        rw [bind_ok_eq_error, hbucket]
        simp
    · simp [ofEntries, hread, hfit, hhealth, hmember, bind, Except.bind]
  · simp [ofEntries, hread, hstatus, hmember, bind, Except.bind]

/-- A report comes to a fault exactly if it describes no power state for a reason that is not
excused. -/
theorem usableReport_eq_error {saves : Bool} :
    usableReport report saves = .error fault ↔ fault.isExcused = false ∧
      PowerState.ofReport report defaultWarningLevels defaultCloseOffset (.flag saves) =
        .error fault := by
  cases hreport : PowerState.ofReport report defaultWarningLevels defaultCloseOffset
      (.flag saves) with
  | ok power => simp [usableReport, hreport]
  | error other =>
    have hread : usableReport report saves =
        if other.isExcused then .ok none else .error other := by
      rw [usableReport, hreport]
      cases other <;> rfl
    rw [hread]
    cases hother : other.isExcused with
    | true =>
      simp only [if_true, reduceCtorEq, Except.error.injEq, false_iff, not_and]
      rintro hfault rfl
      rw [hother] at hfault
      cases hfault
    | false =>
      simp only [Bool.false_eq_true, if_false, Except.error.injEq, iff_and_self]
      rintro rfl
      exact hother

end Reports

/-! ## Commands -/

/-- What in the output of the battery command is a fault of its own. -/
inductive ReportOverflow (limit : Nat) (t : Text) : Fault → Prop
  /-- The output is too large to be read. -/
  | reading {fault : Fault} (overflow : JsonOverflow limit t fault) : ReportOverflow limit t fault
  /-- The percentage is too large. -/
  | percentage {entries : Mapping} (read : Value.ofJson limit t = .ok (.mapping entries))
      (huge : entries.HasHugePercentage) : ReportOverflow limit t .numberTooLarge

section Commands

variable {limit : Nat} {battery saver : CommandOutcome} {t : Text} {fault : Fault}

/-- None of these faults is one that a power source declares. -/
theorem ReportOverflow.undeclared (h : ReportOverflow limit t fault) :
    Source.power.declares fault = false := by
  rcases h with hoverflow | _
  · cases hoverflow <;> rfl
  · rfl

/-- What is printed as a report comes to a fault exactly if it is one of the listed faults. -/
theorem usableReport_of_json {report : Value} (hjson : Value.ofJson limit t = .ok report)
    {saves : Bool} :
    usableReport report saves = .error fault ↔ ReportOverflow limit t fault := by
  have hwritable := Value.isWritable_ofJson hjson
  rw [usableReport_eq_error]
  constructor
  · rintro ⟨hexcused, hfault⟩
    cases report with
    | mapping entries =>
      have hentries := Value.areEntriesWritable_iff.1 hwritable
      obtain ⟨rfl, hhuge⟩ := (PowerState.ofEntries_eq_error hentries hexcused).1 hfault
      exact .percentage hjson hhuge
    | _ =>
      obtain rfl := Except.error.inj hfault
      cases hexcused
  · rintro (hoverflow | ⟨hread, hhuge⟩)
    · rw [jsonOverflow_iff, hjson] at hoverflow
      simp at hoverflow
    · obtain rfl := Except.ok.inj (hjson.symm.trans hread)
      have hentries := Value.areEntriesWritable_iff.1 hwritable
      exact ⟨rfl, (PowerState.ofEntries_eq_error hentries rfl).2 ⟨rfl, hhuge⟩⟩

/-- Reading the power state comes to a fault exactly if the battery command has printed a text with
one of the listed faults; the other command is not the reason. -/
theorem readPowerState_eq_error :
    readPowerState limit battery saver = .error fault ↔
      ∃ t, battery.text? = some t ∧ ReportOverflow limit t fault := by
  rw [readPowerState]
  cases battery.text? with
  | none => simp
  | some t =>
    simp only [Option.some.injEq, exists_eq_left']
    cases hjson : Value.ofJson limit t with
    | ok report => exact usableReport_of_json hjson
    | error defect =>
      have hoverflow : ReportOverflow limit t fault ↔ JsonOverflow limit t fault := by
        refine ⟨?_, .reading⟩
        rintro (hoverflow | ⟨hread, -⟩)
        · exact hoverflow
        · cases hjson.symm.trans hread
      rw [hoverflow, jsonOverflow_iff, hjson]
      cases defect <;> simp [eq_comm]

/-- The command for the power saver says that power is being saved exactly if it ends in time, with
success, and with a text that is 1 between blanks. -/
theorem savesPower_iff :
    savesPower saver = true ↔ ∃ output t,
      saver = .finished 0 output ∧ decodeText output = some t ∧ t.trim = ("1" : Text) := by
  cases saver with
  | finished exitCode output =>
    simp only [savesPower, CommandOutcome.text?, CommandOutcome.finished.injEq]
    split <;> simp_all [Option.any_eq_true]
  | missing => simp [savesPower, CommandOutcome.text?]
  | timedOut => simp [savesPower, CommandOutcome.text?]

/-- A report describes the same power state, whatever is said about the power saver. -/
theorem PowerState.ofReport_saver (report : Value) (levels : List Value)
    (closeOffset saves other : Value) :
    ofReport report levels closeOffset other =
      (ofReport report levels closeOffset saves).map fun power =>
        { power with powerSaver := other } := by
  cases report with
  | mapping entries =>
    change ofEntries _ _ _ _ =
      (fun power => { power with powerSaver := other }) <$> ofEntries _ _ _ _
    simp only [ofEntries, map_bind, map_pure]
  | _ => rfl

/-- Another command for the power saver leaves all of the power state as it was but whether power is
being saved. -/
theorem readPowerState_saver (limit : Nat) (battery saver other : CommandOutcome) :
    readPowerState limit battery other = (readPowerState limit battery saver).map
      (Option.map fun power => { power with powerSaver := .flag (savesPower other) }) := by
  have hreport (report : Value) : usableReport report (savesPower other) =
      (usableReport report (savesPower saver)).map
        (Option.map fun power => { power with powerSaver := .flag (savesPower other) }) := by
    rw [usableReport, PowerState.ofReport_saver _ _ _ (.flag (savesPower saver)), usableReport]
    cases PowerState.ofReport report defaultWarningLevels defaultCloseOffset
        (.flag (savesPower saver)) with
    | ok power => rfl
    | error fault => cases fault <;> rfl
  rw [readPowerState, readPowerState]
  cases battery.text? with
  | none => rfl
  | some t =>
    dsimp only
    cases Value.ofJson limit t with
    | ok report => exact hreport report
    | error defect => cases defect <;> rfl

end Commands

namespace Section

variable (behaviour : CallbackBehaviour) {readings : Readings} {fault : Fault}

/-- A fault that a power source does not declare ends every poll that its first half has not ended
already. -/
theorem pollOnce_undeclared_power (e : Engine) (h : readings.power.power = .error fault)
    (hundeclared : Source.power.declares fault = false) :
    (pollOnce behaviour readings e).outcome =
      (pollFirst readings.thermal e).outcome >>= fun _ => .error fault := by
  have hread : powerFrom readings.power.power = .error fault := by
    rw [h]
    cases fault with
    | unavailable outage => cases hundeclared
    | timeout => cases hundeclared
    | _ => rfl
  have hpoll : (poll readings e).outcome =
      (pollFirst readings.thermal e).outcome >>= fun _ => .error fault := by
    rw [poll, outcome_bind]
    congr 1
    funext first
    rw [(pollSecond_eq _ _ _ _).1, (pollBattery_spec _ _ _).1, decideBattery, hread]
    rfl
  cases hfirst : (pollFirst readings.thermal e).outcome with
  | error other =>
    rw [hfirst] at hpoll
    exact (pollOnce_of_error behaviour hpoll).1
  | ok first =>
    rw [hfirst] at hpoll
    exact (pollOnce_of_error behaviour hpoll).1

end Section

/-- A temperature of 50 degrees under default settings. -/
def ThermalReadings.mild : ThermalReadings := ⟨.zero, .ok {}, .ok 50, .ok .null⟩

/-- Readings with a mild temperature and the given power state. -/
def Readings.ofPower (answer : Except Fault (Option PowerState)) : Readings where
  thermal := .mild
  power := ⟨.zero, answer, ⟨.ok false, .ok (Binary64.infinity false)⟩⟩

theorem Readings.ofPower_power (answer : Except Fault (Option PowerState)) :
    (ofPower answer).power.power = answer := rfl

/-- The battery command has ended in time, with success, and with some characters as its output. -/
def CommandOutcome.ofList (cs : List Char) : CommandOutcome :=
  .finished 0 (String.ofList cs).toUTF8

theorem CommandOutcome.text?_ofList (cs : List Char) :
    (ofList cs).text? = some (cs.map CodePoint.ofChar) := DeviceNode.text?_ofList cs

/-- A battery report with a charge of 10^309 percent. -/
def hugePercentage : List Char :=
  "\x7b\"percentage\": 1".toList ++ List.replicate 309 '0' ++ ['\x7d']

theorem overflow_hugePercentage :
    ReportOverflow 990 (hugePercentage.map CodePoint.ofChar) .numberTooLarge := by
  have hread : Value.ofJson 990 (hugePercentage.map CodePoint.ofChar) =
      .ok (.mapping [("percentage", .number (.integer (Decimal.tenPow 309)))]) := by
    decide +kernel
  have hlarge : Binary64.wholeCeiling ≤ (Decimal.tenPow 309 : Int).natAbs := by decide +kernel
  exact .percentage hread ⟨nofun, nofun, _, rfl, hlarge⟩

/-- Whatever the two commands do, and whatever the limit of lists in one another is, reading the
power state comes to a power state or to none, exactly if the battery command has not printed a text
with one of the listed faults. If it has, the reading comes to this fault, and every poll with it
fails. The command for the power saver changes nothing but whether power is being saved, which is so
exactly if it ends in time, with success, and with a text that is 1 between blanks. -/
theorem readPowerState_contained_iff (limit : Nat) (battery saver : CommandOutcome) :
    ((∃ answer, readPowerState limit battery saver = .ok answer) ↔
      ¬∃ t fault, battery.text? = some t ∧ ReportOverflow limit t fault) ∧
    (∀ t fault, battery.text? = some t → ReportOverflow limit t fault →
      readPowerState limit battery saver = .error fault ∧
        ∀ behaviour readings e, readings.power.power = readPowerState limit battery saver →
          (Section.pollOnce behaviour readings e).outcome =
            (Section.pollFirst readings.thermal e).outcome >>= fun _ => .error fault) ∧
    (∀ other, readPowerState limit battery other = (readPowerState limit battery saver).map
      (Option.map fun power => { power with powerSaver := .flag (savesPower other) })) ∧
    ∀ power, readPowerState limit battery saver = .ok (some power) →
      ∃ saves, power.powerSaver = .flag saves ∧ (saves = true ↔ ∃ output t,
        saver = .finished 0 output ∧ decodeText output = some t ∧ t.trim = ("1" : Text)) := by
  have hoverflow {t : Text} {fault : Fault} (htext : battery.text? = some t)
      (h : ReportOverflow limit t fault) : readPowerState limit battery saver = .error fault :=
    readPowerState_eq_error.2 ⟨t, htext, h⟩
  refine ⟨⟨?_, fun hnone => ?_⟩, fun t fault htext h => ⟨hoverflow htext h, ?_⟩,
    readPowerState_saver limit battery saver,
    fun power hpower => ⟨savesPower saver, ?_, savesPower_iff⟩⟩
  · rintro ⟨answer, hanswer⟩ ⟨t, fault, htext, h⟩
    cases hanswer.symm.trans (hoverflow htext h)
  · cases hread : readPowerState limit battery saver with
    | ok answer => exact ⟨answer, rfl⟩
    | error fault =>
      obtain ⟨t, htext, h⟩ := readPowerState_eq_error.1 hread
      exact absurd ⟨t, fault, htext, h⟩ hnone
  · intro behaviour readings e hpower
    rw [hoverflow htext h] at hpower
    exact Section.pollOnce_undeclared_power behaviour e hpower h.undeclared
  · have hsame := readPowerState_saver limit battery saver saver
    rw [hpower] at hsame
    exact congrArg PowerState.powerSaver (Option.some.inj (Except.ok.inj hsame))

/-- After this report the first poll of a new engine fails. -/
theorem readPowerState_hugePercentage :
    let answer := readPowerState 990 (.ofList hugePercentage) .missing
    answer = .error .numberTooLarge ∧
      (Section.pollOnce (fun _ _ => {}) (.ofPower answer) (.new .zero)).outcome =
        .error .numberTooLarge := by
  obtain ⟨-, hfails, -⟩ := readPowerState_contained_iff 990 (.ofList hugePercentage) .missing
  obtain ⟨hfault, hpoll⟩ :=
    hfails _ _ (CommandOutcome.text?_ofList hugePercentage) overflow_hugePercentage
  refine ⟨hfault, ?_⟩
  have hends : (Section.pollFirst .mild (.new .zero)).outcome.isOk = true := by decide +kernel
  rw [hpoll _ _ _ (Readings.ofPower_power _)]
  change (Section.pollFirst .mild (.new .zero)).outcome >>= _ = _
  cases hfirst : (Section.pollFirst .mild (.new .zero)).outcome with
  | ok first => rfl
  | error fault =>
    rw [hfirst] at hends
    cases hends

/-- It is not so that reading the power state always comes to a power state or to none. -/
theorem not_readPowerState_total :
    ¬∀ battery saver, ∃ answer, readPowerState 990 battery saver = .ok answer := by
  intro h
  obtain ⟨answer, hanswer⟩ := h (.ofList hugePercentage) .missing
  have hfails : readPowerState 990 (.ofList hugePercentage) .missing = .error .numberTooLarge :=
    readPowerState_eq_error.2
      ⟨_, CommandOutcome.text?_ofList hugePercentage, overflow_hugePercentage⟩
  cases hfails.symm.trans hanswer

end DeviceWarnings
