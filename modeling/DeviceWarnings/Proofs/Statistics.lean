import DeviceWarnings.Proofs.Completion
import DeviceWarnings.Proofs.Temperatures

/-!
# Temperature statistics

A poll does two things to the statistics, both while it still gathers its readings: it adds the
temperature that it gets to keep, and then it resets them once the interval is over, which tells of
the samples in one line. All other sections leave the statistics alone, so a poll that is ended
later is seen no differently, and one that is ended earlier is not seen at all. What is seen of a
poll therefore depends on nothing but its readings and the time of the last reset.
-/

namespace DeviceWarnings

/-! ## Lines -/

/-- How statistics lines begin. -/
def statisticsPrefix : Text := "Skin temps over "

/-- The statistics line that an effect is, if it is one. -/
def Effect.statistics? : Effect → Option Text
  | log record =>
    if record.level = .info ∧ statisticsPrefix.isPrefixOf record.message then some record.message
    else none
  | _ => none

/-- The statistics lines among some effects, in order. -/
def statisticsLines (effects : List Effect) : List Text := effects.filterMap Effect.statistics?

@[simp] theorem statisticsLines_append (first second : List Effect) :
    statisticsLines (first ++ second) = statisticsLines first ++ statisticsLines second :=
  List.filterMap_append

theorem Text.ofString_append (s t : String) : ofString (s ++ t) = ofString s ++ ofString t := by
  simp only [ofString, String.toList_append, List.map_append]

theorem statistics?_line (summary : TemperatureSummary) :
    (Effect.log ⟨.info, .engine, summary.line⟩).statistics? = some (summary.line : Text) := by
  obtain ⟨rest, hline⟩ : ∃ rest, Text.ofString summary.line = statisticsPrefix ++ rest := by
    unfold TemperatureSummary.line
    simp only [String.append_assoc]
    exact ⟨_, Text.ofString_append _ _⟩
  have hbegins : statisticsPrefix.isPrefixOf (Text.ofString summary.line) = true :=
    List.isPrefixOf_iff_prefix.2 ⟨rest, hline.symm⟩
  simp only [Effect.statistics?, hbegins, and_self, if_true]

theorem statistics?_problem (record : LogRecord) (h : record.level ≠ .info) :
    (Effect.log record).statistics? = none := if_neg fun hline => h hline.1

theorem statistics?_event (channel : Channel) (action : WarningAction) (description : Text) :
    (Effect.log ⟨.info, .engine,
      channel.name ++ " warning " ++ action.name ++ ": " ++ description⟩).statistics? = none := by
  cases channel <;> rfl

theorem statistics?_request (e : Engine) (change : CallbackRequest) :
    ∀ record ∈ e.requestLog change, (Effect.log record).statistics? = none := by
  intro record hrecord
  cases change with
  | register callback =>
    rw [Engine.requestLog] at hrecord
    split at hrecord
    · cases hrecord
    · rcases List.mem_cons.1 hrecord with rfl | hfull
      · rfl
      · split at hfull
        · obtain rfl := List.mem_singleton.1 hfull
          rfl
        · cases hfull
  | unregister callback =>
    rw [Engine.requestLog] at hrecord
    split at hrecord
    · obtain rfl := List.mem_singleton.1 hrecord
      rfl
    · cases hrecord
  | clear => cases hrecord

/-- What an engine has for its statistics: the kept temperatures, and the time of the last reset. -/
def Engine.gauge (e : Engine) : TemperatureHistory × Binary64 := (e.temperatures, e.lastStatistics)

namespace Section

variable {α β : Type} {first : Section α} {next : α → Section β}

/-- What is seen of the statistics after a section: what the engine has for them, and the lines that
were logged. -/
def seen (progress : Progress α) : (TemperatureHistory × Binary64) × List Text :=
  (progress.engine.gauge, statisticsLines progress.effects)

/-- A section that leaves the statistics alone. -/
structure Still (s : Section α) : Prop where
  keeps : Keeps Engine.gauge s
  emits : Emits (fun effect => effect.statistics? = none) s

theorem Still.seen_eq {s : Section α} (h : Still s) (e : Engine) : seen (s e) = (e.gauge, []) :=
  Prod.ext (h.keeps e) (List.filterMap_eq_nil_iff.2 (h.emits e))

theorem Still.bind (hfirst : Still first) (hnext : ∀ a, Still (next a)) :
    Still (first >>= next) where
  keeps := hfirst.keeps.bind fun a => (hnext a).keeps
  emits := hfirst.emits.bind fun a => (hnext a).emits

theorem still_pure (a : α) : Still (Pure.pure a : Section α) := ⟨keeps_pure a, emits_pure a⟩

theorem still_ofExcept (outcome : Except Fault α) : Still (ofExcept outcome) :=
  ⟨keeps_ofExcept outcome, emits_ofExcept outcome⟩

/-- What is seen after two sections is the engine of the second, and the lines of both. -/
theorem seen_bind {e : Engine} {a : α} (h : (first e).outcome = .ok a) (next : α → Section β) :
    seen ((first >>= next) e) = ((next a (first e).engine).engine.gauge,
      statisticsLines (first e).effects ++ statisticsLines (next a (first e).engine).effects) := by
  rw [bind_apply_of_ok h, seen, statisticsLines_append]

/-- After a still section the rest is seen as from the start. -/
theorem Still.seen_bind_of_ok (hfirst : Still first) {e : Engine} {a : α}
    (h : (first e).outcome = .ok a) (next : α → Section β) :
    seen ((first >>= next) e) = seen (next a (first e).engine) ∧
      (first e).engine.gauge = e.gauge := by
  have hnone : statisticsLines (first e).effects = [] := congrArg Prod.snd (hfirst.seen_eq e)
  exact ⟨by rw [seen_bind h, hnone, List.nil_append, seen], hfirst.keeps e⟩

/-- After a fault in a still section nothing more is seen. -/
theorem Still.seen_bind_of_error (hfirst : Still first) {e : Engine} {fault : Fault}
    (h : (first e).outcome = .error fault) (next : α → Section β) :
    seen ((first >>= next) e) = (e.gauge, []) := by
  rw [bind_apply_of_error h]
  exact hfirst.seen_eq e

/-- What still sections do afterwards is not seen. -/
theorem seen_bind_of_still (first : Section α) (hnext : ∀ a, Still (next a)) (e : Engine) :
    seen ((first >>= next) e) = seen (first e) := by
  cases h : (first e).outcome with
  | error fault => rw [bind_apply_of_error h]; rfl
  | ok a =>
    have hrest := (hnext a).seen_eq (first e).engine
    have hgauge : (next a (first e).engine).engine.gauge = (first e).engine.gauge :=
      congrArg Prod.fst hrest
    have hnone : statisticsLines (next a (first e).engine).effects = [] := congrArg Prod.snd hrest
    rw [seen_bind h, hgauge, hnone, List.append_nil, seen]

theorem still_readSettings (answer : Except Fault WarningSettings) : Still (readSettings answer) :=
  ⟨keeps_readSettings answer, emits_readSettings statistics?_problem answer⟩

theorem still_readTemperature (answer : Except Fault Value) : Still (readTemperature answer) :=
  ⟨keeps_readTemperature (fun _ _ => rfl) answer, emits_readTemperature answer⟩

theorem still_readShutdown (settings : WarningSettings) (readings : ThermalReadings) :
    Still (readShutdown settings readings) :=
  ⟨keeps_readShutdown (fun _ _ => rfl) settings readings, emits_readShutdown settings readings⟩

theorem still_warnThreshold (threshold : Except ThresholdProblem ThermalThreshold) :
    Still (warnThreshold threshold) :=
  ⟨keeps_warnThreshold threshold, emits_warnThreshold statistics?_problem threshold⟩

theorem still_concludeThermal (settings : WarningSettings) (readings : ThermalReadings)
    (gathered : Value × Except ThresholdProblem ThermalThreshold) :
    Still (concludeThermal settings readings gathered) :=
  ⟨keeps_concludeThermal (fun _ _ => rfl) (fun _ _ => rfl) settings readings gathered,
    emits_concludeThermal statistics?_problem (fun _ _ => rfl) statistics?_event settings readings
      gathered⟩

theorem still_pollSecond (settings : WarningSettings) (thermal : ThermalDecision)
    (readings : PowerReadings) : Still (pollSecond settings thermal readings) :=
  ⟨keeps_pollSecond (fun _ _ => rfl) (fun _ _ => rfl) (fun _ _ => rfl) (fun _ _ => rfl) settings
      thermal readings,
    emits_pollSecond (fun _ _ => rfl) statistics?_event settings thermal readings⟩

theorem still_runCallbacks (behaviour : CallbackBehaviour) (report : PollReport) :
    Still (runCallbacks behaviour report) where
  keeps := keeps_runCallbacks (fun _ _ => rfl) behaviour report
  emits := by
    refine emits_engine.bind fun e => emits_forM _ fun callback => ?_
    refine Emits.bind (emits_perform (by rfl)) fun _ => Emits.bind ?_ fun _ => ?_
    · refine emits_forM _ fun change e effect heffect => ?_
      obtain ⟨record, hrecord, rfl⟩ := List.mem_map.1 heffect
      exact statistics?_request e change record hrecord
    · split
      · exact emits_ofExcept _
      · exact emits_optionForM _ fun _ => emits_perform (statistics?_problem _ (by simp))

end Section

/-! ## One poll -/

/-- The statistics line of some samples, if it can be told. -/
def statisticsLine (samples : List Value) : Option Text :=
  match TemperatureSummary.ofValues samples with
  | .ok (some summary) => some summary.line
  | _ => none

namespace ThermalReadings

/-- The temperature that a poll gets to keep, and whether it is missing. It does not get so far if
the settings, the temperature or, where it is read, the shutdown temperature end the poll before. -/
def measured (readings : ThermalReadings) : Except Fault (Value × Bool) := do
  let settings ← Section.settingsFrom readings.settings
  let current ← Section.temperatureFrom readings.current
  let _ ← Section.shutdownFrom settings readings
  return (current, ← current.isMissing)

/-- The sample that a poll adds: the temperature that it gets to keep, unless that is missing. -/
def sample (readings : ThermalReadings) : Option Value :=
  match readings.measured with
  | .ok (current, false) => some current
  | _ => none

/-- Whether a poll resets the statistics: it gets to keep a temperature, be it NaN, and its clock is
not within the interval from the last reset. -/
def resets (readings : ThermalReadings) (since : Binary64) : Bool :=
  match readings.measured with
  | .ok (current, _) =>
    current ≠ .null && !decide (((readings.clock - since : Binary64) : Number) < statisticsInterval)
  | .error _ => false

/-- What is seen of the statistics after a poll: the sample is added to the window of all since the
last reset, and a reset tells of the window and empties it. -/
def noted (readings : ThermalReadings) (capacity : Option Nat) (window : List Value)
    (since : Binary64) : (TemperatureHistory × Binary64) × List Text :=
  let kept := keepLast capacity (window ++ readings.sample.toList)
  if readings.resets since then ((⟨capacity, []⟩, readings.clock), (statisticsLine kept).toList)
  else ((⟨capacity, kept⟩, since), [])

theorem sample_toList {readings : ThermalReadings} {current : Value} {missing : Bool}
    (h : readings.measured = .ok (current, missing)) :
    readings.sample.toList = if missing then [] else [current] := by
  rw [sample, h]
  cases missing <;> rfl

/-- A poll that does not get to keep a temperature leaves the statistics as they are. -/
theorem noted_of_error {readings : ThermalReadings} {fault : Fault}
    (h : readings.measured = .error fault) {e : Engine} {capacity : Option Nat}
    {window : List Value} (hwindow : e.temperatures = ⟨capacity, keepLast capacity window⟩) :
    readings.noted capacity window e.lastStatistics = (e.gauge, []) := by
  simp [noted, sample, resets, h, Engine.gauge, hwindow]

/-- Neither does one that finds none change them. -/
theorem noted_of_null {readings : ThermalReadings} (h : readings.measured = .ok (.null, true))
    {e : Engine} {capacity : Option Nat} {window : List Value}
    (hwindow : e.temperatures = ⟨capacity, keepLast capacity window⟩) :
    readings.noted capacity window e.lastStatistics = (e.gauge, []) := by
  simp [noted, sample, resets, h, Engine.gauge, hwindow]

end ThermalReadings

namespace Section

/-- Logging the statistics is seen as a line, if there is anything to tell, once the interval is
over. -/
theorem logStatistics_seen (clock : Binary64) {e : Engine} (h : e.temperatures.HasFigures) :
    seen (logStatistics clock e) =
      if ((clock - e.lastStatistics : Binary64) : Number) < statisticsInterval then (e.gauge, [])
      else ((e.temperatures.clear, clock), (statisticsLine e.temperatures.samples).toList) := by
  rw [logStatistics, engine_bind]
  split
  · rfl
  · obtain ⟨summary, hsummary⟩ := h.summary
    have hvalues : TemperatureSummary.ofValues e.temperatures.samples = .ok summary := hsummary
    rw [hsummary, ofExcept_ok_bind, statisticsLine, hvalues]
    cases summary with
    | none => rfl
    | some summary =>
      have hlog : ((some summary).forM fun summary => log .info .engine summary.line :
          Section Unit) e = ⟨e, [.log ⟨.info, .engine, summary.line⟩], .ok ()⟩ := rfl
      have hline : statisticsLines [.log ⟨.info, .engine, summary.line⟩] =
          [(summary.line : Text)] := List.filterMap_cons_some (statistics?_line summary)
      rw [seen_bind (congrArg Progress.outcome hlog), hlog, hline]
      rfl

variable {readings : ThermalReadings} {e : Engine} {capacity : Option Nat} {window : List Value}

/-- What is no temperature is not kept. -/
theorem noteTemperature_of_error (clock : Binary64) {current : Value} {fault : Fault}
    (h : current.isMissing = .error fault) (e : Engine) :
    noteTemperature clock current e = ⟨e, [], .error fault⟩ := by
  have hpresent : current ≠ .null := by
    rintro rfl
    cases h
  have happend : e.temperatures.append current = .error fault := by
    rw [TemperatureHistory.append, h]
    rfl
  rw [noteTemperature, if_neg hpresent, engine_bind, happend]
  rfl

/-- Keeping a number is seen as the statistics of its poll. -/
theorem noteTemperature_number {n : Number} {missing : Bool}
    (hmeasured : readings.measured = .ok ((n : Value), missing))
    (hmissing : (n : Value).isMissing = .ok missing) (hfigures : e.temperatures.HasFigures)
    (hwindow : e.temperatures = ⟨capacity, keepLast capacity window⟩) :
    seen (noteTemperature readings.clock n e) =
      readings.noted capacity window e.lastStatistics := by
  let after : TemperatureHistory :=
    ⟨capacity, keepLast capacity (window ++ readings.sample.toList)⟩
  obtain ⟨happend, hafter⟩ : e.temperatures.append n = .ok after ∧ after.HasFigures := by
    simp only [after, ThermalReadings.sample_toList hmeasured]
    exact hfigures.append_window hwindow hmissing
  have hmodify : (modify fun e => { e with temperatures := after } : Section Unit) e =
      ⟨{ e with temperatures := after }, [], .ok ()⟩ := rfl
  have hlogged := logStatistics_seen readings.clock (e := { e with temperatures := after }) hafter
  rw [noteTemperature, if_neg (by simp), engine_bind, happend, ofExcept_ok_bind,
    seen_bind (congrArg Progress.outcome hmodify), hmodify]
  refine hlogged.trans ?_
  rw [ThermalReadings.noted, ThermalReadings.resets, hmeasured]
  by_cases hrecent : ((readings.clock - e.lastStatistics : Binary64) : Number) <
      statisticsInterval
  · simp [hrecent, Engine.gauge, after]
  · simp [hrecent, TemperatureHistory.clear, after]

/-- Keeping a temperature, or failing to, is seen as the statistics of its poll. -/
theorem noteTemperature_seen {current : Value} (hcurrent : current.IsTemperature)
    (hmeasured : readings.measured = current.isMissing.map (current, ·))
    (hfigures : e.temperatures.HasFigures)
    (hwindow : e.temperatures = ⟨capacity, keepLast capacity window⟩) :
    seen (noteTemperature readings.clock current e) =
      readings.noted capacity window e.lastStatistics := by
  cases hmissing : current.isMissing with
  | error fault =>
    rw [hmissing] at hmeasured
    rw [noteTemperature_of_error _ hmissing, ThermalReadings.noted_of_error hmeasured hwindow]
    rfl
  | ok missing =>
    rw [hmissing] at hmeasured
    rcases hcurrent with rfl | ⟨n, rfl⟩
    · obtain rfl : true = missing := Except.ok.inj hmissing
      rw [ThermalReadings.noted_of_null hmeasured hwindow]
      rfl
    · exact noteTemperature_number hmeasured hmissing hfigures hwindow

/-- The part of the thermal section that comes before its decision is seen as the statistics of its
poll. -/
theorem gatherThermal_seen (hnumeric : readings.IsNumeric) (hfigures : e.temperatures.HasFigures)
    (hwindow : e.temperatures = ⟨capacity, keepLast capacity window⟩)
    {settings : WarningSettings} (hsettings : settingsFrom readings.settings = .ok settings) :
    seen (gatherThermal settings readings e) =
      readings.noted capacity window e.lastStatistics := by
  have hmeasured : readings.measured = (do
      let current ← temperatureFrom readings.current
      let _ ← shutdownFrom settings readings
      return (current, ← current.isMissing)) := by
    rw [ThermalReadings.measured, hsettings]
    rfl
  have hread := readTemperature_outcome readings.current e
  rw [gatherThermal]
  cases hcurrent : temperatureFrom readings.current with
  | error fault =>
    rw [hcurrent] at hmeasured hread
    rw [(still_readTemperature _).seen_bind_of_error hread,
      ThermalReadings.noted_of_error hmeasured hwindow]
  | ok current =>
    rw [hcurrent] at hmeasured hread
    have hbefore := (still_readTemperature readings.current).keeps e
    rw [((still_readTemperature _).seen_bind_of_ok hread _).1]
    generalize (readTemperature readings.current e).engine = before at hbefore ⊢
    have hlimit := readShutdown_outcome settings readings before
    cases hshutdown : shutdownFrom settings readings with
    | error fault =>
      rw [hshutdown] at hmeasured hlimit
      rw [(still_readShutdown _ _).seen_bind_of_error hlimit, hbefore,
        ThermalReadings.noted_of_error hmeasured hwindow]
    | ok shutdown =>
      rw [hshutdown] at hmeasured hlimit
      have hafter := ((still_readShutdown settings readings).keeps before).trans hbefore
      rw [((still_readShutdown _ _).seen_bind_of_ok hlimit _).1]
      generalize (readShutdown settings readings before).engine = after at hafter ⊢
      have htemperatures : after.temperatures = e.temperatures := congrArg Prod.fst hafter
      have hsince : after.lastStatistics = e.lastStatistics := congrArg Prod.snd hafter
      rw [seen_bind_of_still _ fun _ => (still_ofExcept _).bind fun threshold =>
        (still_warnThreshold threshold).bind fun _ => still_pure _, ← hsince]
      exact noteTemperature_seen (isTemperature_of_temperatureFrom hnumeric hcurrent) hmeasured
        (htemperatures ▸ hfigures) (htemperatures.trans hwindow)

/-- A poll with its callbacks, completed or not, is seen as the statistics of its readings. -/
theorem pollOnce_seen {readings : Readings} (behaviour : CallbackBehaviour)
    (hnumeric : readings.thermal.IsNumeric) (hfigures : e.temperatures.HasFigures)
    (hwindow : e.temperatures = ⟨capacity, keepLast capacity window⟩) :
    seen (pollOnce behaviour readings e) =
      readings.thermal.noted capacity window e.lastStatistics := by
  have hread := readSettings_outcome readings.thermal.settings e
  rw [pollOnce, seen_bind_of_still _ fun report =>
      (still_runCallbacks behaviour report).bind fun _ => still_pure _,
    poll, seen_bind_of_still _ fun first => still_pollSecond _ _ _, pollFirst]
  cases hsettings : settingsFrom readings.thermal.settings with
  | error fault =>
    have hmeasured : readings.thermal.measured = .error fault := by
      rw [ThermalReadings.measured, hsettings]
      rfl
    rw [hsettings] at hread
    rw [(still_readSettings _).seen_bind_of_error hread,
      ThermalReadings.noted_of_error hmeasured hwindow]
  | ok settings =>
    rw [hsettings] at hread
    rw [((still_readSettings _).seen_bind_of_ok hread _).1, readSettings_engine,
      seen_bind_of_still _ fun _ => still_pure _, pollThermal_eq,
      seen_bind_of_still _ fun gathered => still_concludeThermal _ _ gathered]
    exact gatherThermal_seen hnumeric hfigures hwindow hsettings

end Section

end DeviceWarnings
