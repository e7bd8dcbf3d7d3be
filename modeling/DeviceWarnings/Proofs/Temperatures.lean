import DeviceWarnings.Proofs.Frame
import DeviceWarnings.Proofs.Rounding
import DeviceWarnings.Proofs.Run

/-!
# Polls with numeric temperatures

The history of temperatures stands between a reading and the decision on it: a reading that cannot
be kept, or kept temperatures that cannot be summed up, cut a poll off before it decides. This does
not happen as long as the temperature source answers numbers. What is kept then are figures, whose
statistics can always be told, and so the first half of a poll is a function of its readings and
of the state of the overheating warning alone.
-/

namespace DeviceWarnings

/-- Whether a temperature is missing or a number. -/
def Value.IsTemperature (v : Value) : Prop := v = .null ∨ ∃ n : Number, v = n

/-- Whether the temperature source of a poll answers a temperature, if it answers. -/
def ThermalReadings.IsNumeric (readings : ThermalReadings) : Prop :=
  ∀ v, readings.current = .ok v → v.IsTemperature

/-! ## Figures -/

namespace Binary64

/-- A whole number that fits into a machine word has a nearest number of the format. -/
theorem isFinite_ofInt_of_fitsWord {n : Int} (h : fitsWord n = true) :
    (ofInt n).isFinite = true := by
  have hround {negative : Bool} {units : Nat} (hle : units ≤ (1 <<< 64) * one) :
      (round negative units 1).isFinite = true := by
    have hgrid : OnGrid ((1 <<< 64) * one) := by decide +kernel
    rw [round, dif_pos (Nat.lt_of_le_of_lt (nearest_le_of_le hgrid hle) hgrid.1)]
    rfl
  obtain ⟨hlow, hhigh⟩ : -((1 <<< 63 : Nat) : Int) ≤ n ∧ n < ((1 <<< 64 : Nat) : Int) := by
    simpa [fitsWord] using h
  have hdouble : 1 <<< 64 = 2 * (1 <<< 63) := one_shiftLeft_add 1 63
  have hword : n.natAbs ≤ 1 <<< 64 := by omega
  rw [ofInt, ofUnits]
  split
  · exact hround (Nat.zero_le _)
  · apply hround
    rw [Int.natAbs_mul, Int.natAbs_natCast]
    exact Nat.mul_le_mul_right _ hword

end Binary64

/-- Whether a number counts as a binary64 figure. -/
def Number.IsFigure (n : Number) : Prop := ∃ x, n.toBinary? = some x

/-- A figure counts as the binary64 number that is nearest to it. -/
theorem Number.IsFigure.toBinary?_eq {n : Number} (h : n.IsFigure) :
    n.toBinary? = some n.toBinary := by
  obtain ⟨x, hx⟩ := h
  cases n with
  | binary y => rfl
  | integer i =>
    rw [toBinary?] at hx ⊢
    split at hx
    case isTrue hfinite => rw [if_pos hfinite, toBinary]
    case isFalse => cases hx

/-- A number that is a temperature, present or NaN, counts as a figure. -/
theorem Number.isFigure_of_isMissing {n : Number} {missing : Bool}
    (h : (n : Value).isMissing = .ok missing) : n.IsFigure := by
  cases n with
  | binary x => exact ⟨x, rfl⟩
  | integer i =>
    have hfits : fitsWord i = true := by
      change (if fitsWord i then Except.ok false else .error Fault.notTemperature) = _ at h
      by_contra hfits
      rw [if_neg hfits] at h
      cases h
    exact ⟨Binary64.ofInt i, if_pos (Binary64.isFinite_ofInt_of_fitsWord hfits)⟩

namespace TemperatureHistory

/-- Whether all kept temperatures are figures. -/
def HasFigures (h : TemperatureHistory) : Prop :=
  ∃ ns : List Number, h.samples = ns.map .number ∧ ∀ n ∈ ns, n.IsFigure

/-- Numbers that are figures are figures of a list. -/
theorem mapM_figure {ns : List Number} (h : ∀ n ∈ ns, n.IsFigure) :
    (ns.map Value.number).mapM Value.figure = .ok (ns.map Number.toBinary) := by
  induction ns with
  | nil => rfl
  | cons n rest ih =>
    have hfigure : Value.figure n = .ok n.toBinary := by
      change n.toBinary?.elim _ _ = _
      rw [(h n (by simp)).toBinary?_eq]
      rfl
    rw [List.map_cons, List.mapM_cons, hfigure, ih fun m hm => h m (List.mem_cons_of_mem _ hm)]
    rfl

/-- Figures can be summed up, each of them once. -/
theorem ofValues_figures {ns : List Number} (h : ∀ n ∈ ns, n.IsFigure) :
    TemperatureSummary.ofValues (ns.map .number) =
      .ok (TemperatureSummary.ofList (ns.map Number.toBinary)) := by
  rw [TemperatureSummary.ofValues, Value.tabulated_numbers]
  change (do return TemperatureSummary.ofList (← (ns.map Value.number).mapM Value.figure)) = _
  rw [mapM_figure h]
  rfl

variable {history : TemperatureHistory}

/-- Kept figures can be summed up. -/
theorem HasFigures.summary (h : history.HasFigures) : ∃ summary, history.summary = .ok summary := by
  obtain ⟨ns, hsamples, hfigures⟩ := h
  rw [TemperatureHistory.summary, hsamples]
  exact ⟨_, ofValues_figures hfigures⟩

theorem hasFigures_clear (history : TemperatureHistory) : history.clear.HasFigures :=
  ⟨[], rfl, by simp⟩

/-- A temperature is kept as a figure, or not at all. -/
theorem HasFigures.append (h : history.HasFigures) {n : Number} :
    (∃ fault, (n : Value).isMissing = .error fault ∧ history.append n = .error fault) ∨
      ∃ missing after, (n : Value).isMissing = .ok missing ∧ history.append n = .ok after ∧
        after.HasFigures := by
  rw [TemperatureHistory.append]
  cases hmissing : (n : Value).isMissing with
  | error fault => exact .inl ⟨fault, rfl, rfl⟩
  | ok missing =>
    refine .inr ⟨missing, ?_⟩
    cases missing with
    | true => exact ⟨history, rfl, rfl, h⟩
    | false =>
      obtain ⟨ns, hsamples, hfigures⟩ := h
      refine ⟨_, rfl, rfl, keepLast history.capacity (ns ++ [n]), ?_, ?_⟩
      · rw [hsamples, map_keepLast, List.map_append]
        rfl
      · intro m hm
        rcases List.mem_append.1 ((keepLast_suffix _ _).subset hm) with hold | hnew
        · exact hfigures m hold
        · obtain rfl : m = n := by simpa using hnew
          exact Number.isFigure_of_isMissing hmissing

/-- A reading that is known to be missing or not leaves the window of all readings that were added,
or prolongs it. -/
theorem append_of_window {capacity : Option Nat} {window : List Value}
    (hwindow : history = ⟨capacity, keepLast capacity window⟩) {reading : Value} {missing : Bool}
    (hmissing : reading.isMissing = .ok missing) :
    history.append reading =
      .ok ⟨capacity, keepLast capacity (window ++ if missing then [] else [reading])⟩ := by
  rw [TemperatureHistory.append, hmissing, hwindow]
  cases missing with
  | true =>
    rw [if_pos rfl, List.append_nil]
    rfl
  | false =>
    rw [if_neg (by decide), ← keepLast_append capacity window]
    rfl

/-- A number that is known to be missing or not leaves a window of figures, or prolongs it. -/
theorem HasFigures.append_window (h : history.HasFigures) {capacity : Option Nat}
    {window : List Value} (hwindow : history = ⟨capacity, keepLast capacity window⟩) {n : Number}
    {missing : Bool} (hmissing : (n : Value).isMissing = .ok missing) :
    let after : TemperatureHistory :=
      ⟨capacity, keepLast capacity (window ++ if missing then [] else [(n : Value)])⟩
    history.append n = .ok after ∧ after.HasFigures := by
  intro after
  have happend : history.append n = .ok after := append_of_window hwindow hmissing
  rcases h.append (n := n) with ⟨fault, hfault, -⟩ | ⟨-, kept, -, hkept, hfigures⟩
  · rw [hmissing] at hfault
    cases hfault
  · obtain rfl : after = kept := Except.ok.inj (happend.symm.trans hkept)
    exact ⟨happend, hfigures⟩

end TemperatureHistory

namespace Section

/-! ## The first half of a poll -/

/-- Kept figures never stand in the way of the statistics. -/
theorem logStatistics_spec (clock : Binary64) {e : Engine} (h : e.temperatures.HasFigures) :
    (logStatistics clock e).outcome = .ok () ∧
      (logStatistics clock e).engine.temperatures.HasFigures := by
  rw [logStatistics, engine_bind]
  split
  · exact ⟨rfl, h⟩
  · obtain ⟨summary, hsummary⟩ := h.summary
    rw [hsummary, ofExcept_ok_bind]
    cases summary with
    | none => exact ⟨rfl, TemperatureHistory.hasFigures_clear _⟩
    | some summary => exact ⟨rfl, TemperatureHistory.hasFigures_clear _⟩

/-- Keeping a temperature fails exactly if it is no temperature. -/
theorem noteTemperature_spec (clock : Binary64) {reading : Value} (hreading : reading.IsTemperature)
    {e : Engine} (h : e.temperatures.HasFigures) :
    (noteTemperature clock reading e).outcome = reading.isMissing.map (fun _ => ()) ∧
      (noteTemperature clock reading e).engine.temperatures.HasFigures := by
  rcases hreading with rfl | ⟨n, rfl⟩
  · exact ⟨rfl, h⟩
  · rw [noteTemperature, if_neg (by simp), engine_bind]
    rcases h.append (n := n) with ⟨fault, hmissing, happend⟩ |
      ⟨missing, after, hmissing, happend, hafter⟩
    · rw [hmissing, happend]
      exact ⟨rfl, h⟩
    · rw [hmissing, happend, ofExcept_ok_bind]
      exact logStatistics_spec clock hafter

theorem warnThreshold_outcome (threshold : Except ThresholdProblem ThermalThreshold) (e : Engine) :
    (warnThreshold threshold e).outcome = .ok () := by
  cases threshold with
  | error problem => cases problem <;> rfl
  | ok limit => rfl

/-- A numeric temperature source comes to a temperature, if to anything. -/
theorem isTemperature_of_temperatureFrom {readings : ThermalReadings}
    (hnumeric : readings.IsNumeric) {v : Value} (h : temperatureFrom readings.current = .ok v) :
    v.IsTemperature := by
  unfold temperatureFrom at h
  split at h
  · exact .inl (Except.ok.inj h).symm
  · exact hnumeric v h

/-- What the thermal section gathers from its readings. -/
def gathered (settings : WarningSettings) (readings : ThermalReadings) :
    Except Fault (Value × Except ThresholdProblem ThermalThreshold) := do
  let current ← temperatureFrom readings.current
  let shutdown ← shutdownFrom settings readings
  let _ ← current.isMissing
  let threshold ← (ThermalEvaluator.ofSettings settings).threshold shutdown
  return (current, threshold)

/-- What is gathered is a temperature with the threshold for it, if neither is at fault. -/
theorem gathered_eq_ok {settings : WarningSettings} {readings : ThermalReadings} {current : Value}
    {threshold : Except ThresholdProblem ThermalThreshold} :
    gathered settings readings = .ok (current, threshold) ↔
      temperatureFrom readings.current = .ok current ∧
        thresholdFrom settings readings = .ok threshold ∧
        ∃ missing, current.isMissing = .ok missing := by
  rw [gathered, thresholdFrom, bind_eq_ok]
  constructor
  · rintro ⟨current', hcurrent, h⟩
    obtain ⟨shutdown, hshutdown, h⟩ := bind_eq_ok.1 h
    obtain ⟨missing, hmissing, h⟩ := bind_eq_ok.1 h
    obtain ⟨threshold', hthreshold, h⟩ := bind_eq_ok.1 h
    obtain ⟨rfl, rfl⟩ := Prod.mk.inj (Except.ok.inj h)
    exact ⟨hcurrent, bind_eq_ok.2 ⟨shutdown, hshutdown, hthreshold⟩, missing, hmissing⟩
  · rintro ⟨hcurrent, hresolved, missing, hmissing⟩
    obtain ⟨shutdown, hshutdown, hthreshold⟩ := bind_eq_ok.1 hresolved
    refine ⟨current, hcurrent, bind_eq_ok.2 ⟨shutdown, hshutdown, ?_⟩⟩
    refine bind_eq_ok.2 ⟨missing, hmissing, bind_eq_ok.2 ⟨threshold, hthreshold, rfl⟩⟩

variable {readings : ThermalReadings}

/-- With figures kept and a numeric source, the thermal section gathers what its readings come
to. -/
theorem gatherThermal_outcome (settings : WarningSettings)
    (hnumeric : readings.IsNumeric) {e : Engine}
    (h : e.temperatures.HasFigures) :
    (gatherThermal settings readings e).outcome = gathered settings readings := by
  simp only [gatherThermal, gathered, outcome_bind, readTemperature_outcome, readShutdown_outcome]
  cases htemperature : temperatureFrom readings.current with
  | error fault => rfl
  | ok current =>
    have hreading := isTemperature_of_temperatureFrom hnumeric htemperature
    cases shutdownFrom settings readings with
    | error fault => rfl
    | ok shutdown =>
      have hread : (readTemperature readings.current e).engine.temperatures = e.temperatures :=
        keeps_readTemperature (fun _ _ => rfl) _ e
      have hshutdown : (readShutdown settings readings
          (readTemperature readings.current e).engine).engine.temperatures = e.temperatures :=
        (keeps_readShutdown (fun _ _ => rfl) _ _ _).trans hread
      obtain ⟨hnote, -⟩ := noteTemperature_spec readings.clock hreading (hshutdown ▸ h)
      change (noteTemperature readings.clock current _).outcome >>= _ = (current.isMissing >>=
        fun _ => (ThermalEvaluator.ofSettings settings).threshold shutdown >>= fun threshold =>
          Pure.pure (current, threshold))
      rw [hnote]
      cases current.isMissing with
      | error fault => rfl
      | ok missing =>
        change ((ThermalEvaluator.ofSettings settings).threshold shutdown >>= _) =
          ((ThermalEvaluator.ofSettings settings).threshold shutdown >>= _)
        congr 1
        funext threshold
        rw [warnThreshold_outcome]
        rfl

/-- With a numeric source, the thermal section keeps figures only. -/
theorem maintains_gatherThermal (settings : WarningSettings)
    (hnumeric : readings.IsNumeric) :
    Maintains (fun e => e.temperatures.HasFigures) (gatherThermal settings readings) := by
  have hkeeps {α : Type} {s : Section α} (hs : Keeps Engine.temperatures s) :
      Maintains (fun e => e.temperatures.HasFigures) s := hs.maintains _
  refine (hkeeps (keeps_readTemperature (fun _ _ => rfl) _)).bind fun current e hread => ?_
  refine (hkeeps (keeps_readShutdown (fun _ _ => rfl) _ _)).bind fun shutdown _ _ => ?_
  refine Maintains.bind ?_ fun _ _ _ => ?_
  · intro e he
    rw [readTemperature_outcome] at hread
    exact (noteTemperature_spec _ (isTemperature_of_temperatureFrom hnumeric hread) he).2
  · refine (hkeeps (keeps_ofExcept _)).bind fun threshold _ _ => ?_
    exact (hkeeps (keeps_warnThreshold _)).bind fun _ _ _ => hkeeps (keeps_pure _)

/-- With a numeric source, a poll with its callbacks keeps figures only. -/
theorem maintains_pollOnce {t : Tick}
    (hnumeric : t.readings.thermal.IsNumeric) :
    Maintains (fun e => e.temperatures.HasFigures) (pollOnce t.behaviour t.readings) := by
  have hkeeps {α : Type} {s : Section α} (hs : Keeps Engine.temperatures s) :
      Maintains (fun e => e.temperatures.HasFigures) s := hs.maintains _
  refine Maintains.bind ?_ fun report _ _ => ?_
  · refine Maintains.bind ?_ fun first _ _ => ?_
    · refine (hkeeps (keeps_readSettings _)).bind fun settings _ _ => ?_
      refine Maintains.bind ?_ fun _ _ _ => hkeeps (keeps_pure _)
      rw [pollThermal_eq]
      refine (maintains_gatherThermal settings hnumeric).bind fun _ _ _ => ?_
      exact hkeeps (keeps_concludeThermal (fun _ _ => rfl) (fun _ _ => rfl) _ _ _)
    · exact hkeeps (keeps_pollSecond (fun _ _ => rfl) (fun _ _ => rfl) (fun _ _ => rfl)
        (fun _ _ => rfl) _ _ _)
  · refine (hkeeps (keeps_runCallbacks (fun _ _ => rfl) _ _)).bind fun _ _ _ => ?_
    exact hkeeps (keeps_pure _)

end Section

/-- In a run of a new engine with numeric sources, what is kept of temperatures are figures. -/
theorem Engine.fresh_run_hasFigures (clock : Binary64) (callbacks : List Callback)
    {ticks : List Tick} (hnumeric : ∀ t ∈ ticks, t.readings.thermal.IsNumeric) :
    ((fresh clock callbacks).run ticks).engine.temperatures.HasFigures :=
  run_induction (motive := fun _ run => run.engine.temperatures.HasFigures)
    (TemperatureHistory.hasFigures_clear { capacity := some temperatureCapacity })
    fun _ run t ht h => Section.maintains_pollOnce (hnumeric t ht) run.engine h

/-! ## Resolutions -/

/-- What a poll that resolves a threshold acts on: its settings, the temperature and the
threshold. -/
structure Resolution where
  settings : WarningSettings
  current : Value
  threshold : ThermalThreshold

/-- What a poll acts on, if it resolves a threshold. -/
def ThermalReadings.resolution? (readings : ThermalReadings) : Option Resolution :=
  match Section.settingsFrom readings.settings with
  | .error _ => none
  | .ok settings =>
    match Section.gathered settings readings with
    | .ok (current, .ok threshold) => some ⟨settings, current, threshold⟩
    | _ => none

/-- The change of the overheating warning that a resolution calls for in a state. -/
def Resolution.action (resolution : Resolution) (state : WarningState) : Option WarningAction :=
  ((ThermalEvaluator.ofSettings resolution.settings).decision resolution.current
    (some resolution.threshold) state).toOption.bind ThermalDecision.action

/-- A poll with a resolution has read its settings and gathered the rest. -/
theorem ThermalReadings.gathered_of_resolution {readings : ThermalReadings} {r : Resolution}
    (h : readings.resolution? = some r) :
    Section.settingsFrom readings.settings = .ok r.settings ∧
      Section.gathered r.settings readings = .ok (r.current, .ok r.threshold) := by
  unfold resolution? at h
  split at h
  case h_1 => cases h
  case h_2 settings hsettings =>
    split at h
    case h_1 current threshold hgathered =>
      obtain rfl := Option.some.inj h
      exact ⟨hsettings, hgathered⟩
    case h_2 => cases h

/-- With figures kept and a numeric source, what a poll does about overheating is what its
resolution calls for; without one it does nothing. -/
theorem Section.thermalAction_eq_resolution {readings : ThermalReadings}
    (hnumeric : readings.IsNumeric) {e : Engine} (h : e.temperatures.HasFigures) :
    thermalAction readings e =
      readings.resolution?.bind fun r => r.action e.state.thermalWarning := by
  rw [thermalAction, pollFirst_outcome, ThermalReadings.resolution?]
  cases settingsFrom readings.settings with
  | error fault => rfl
  | ok settings =>
    change ((pollThermal settings readings e).outcome.map _).toOption.bind _ = _
    rw [pollThermal_outcome, gatherThermal_outcome settings hnumeric h]
    dsimp only
    cases gathered settings readings with
    | error fault => rfl
    | ok pair =>
      obtain ⟨current, threshold⟩ := pair
      cases threshold with
      | error problem =>
        change (((ThermalEvaluator.ofSettings settings).decision current none
          e.state.thermalWarning).map (settings, ·)).toOption.bind _ = none
        rw [ThermalEvaluator.decision_of_missing (.inr rfl)]
        rfl
      | ok threshold =>
        change (((ThermalEvaluator.ofSettings settings).decision current (some threshold)
            e.state.thermalWarning).map (settings, ·)).toOption.bind _ =
          ((ThermalEvaluator.ofSettings settings).decision current (some threshold)
            e.state.thermalWarning).toOption.bind _
        cases (ThermalEvaluator.ofSettings settings).decision current (some threshold)
          e.state.thermalWarning <;> rfl

end DeviceWarnings
