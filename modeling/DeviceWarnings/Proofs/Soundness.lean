import DeviceWarnings.Proofs.Run
import DeviceWarnings.Proofs.Temperatures

/-!
# Polls with sound sources

A source is sound if it answers values of the kind that it declares, and fails only in the way that
it declares. Every rule comes to a decision on sound values, and every read of a sound source comes
to a value, so a poll of sound sources is completed. That the state it starts in is sound as well is
kept by all polls, completed or not: what is carried was part of a sound power state once, and what
is kept of temperatures are figures.
-/

namespace DeviceWarnings

/-- Whether a computation comes to a value. -/
def Succeeds {α : Type} (x : Except Fault α) : Prop := ∃ a, x = .ok a

section Sequences

variable {α β : Type}

theorem succeeds_ok (a : α) : Succeeds (.ok a) := ⟨a, rfl⟩

/-- A sequence comes to a value if its parts do. -/
theorem Succeeds.bind {x : Except Fault α} {next : α → Except Fault β} (hx : Succeeds x)
    (hnext : ∀ a, x = .ok a → Succeeds (next a)) : Succeeds (x >>= next) := by
  obtain ⟨a, ha⟩ := hx
  obtain ⟨b, hb⟩ := hnext a ha
  exact ⟨b, bind_eq_ok.2 ⟨a, ha, hb⟩⟩

theorem Succeeds.map {x : Except Fault α} (hx : Succeeds x) (f : α → β) : Succeeds (x.map f) := by
  obtain ⟨a, rfl⟩ := hx
  exact ⟨f a, rfl⟩

end Sequences

/-! ## Sound values -/

namespace Value

/-- Whether a value is a number. -/
def IsNumber (v : Value) : Prop := ∃ n : Number, v = n

/-- Whether a value is a number that fits into binary64. -/
def IsFigure (v : Value) : Prop := ∃ n : Number, v = n ∧ n.IsFigure

/-- Whether a value is a temperature that can be told from a missing one. -/
def IsDegrees (v : Value) : Prop := v.IsTemperature ∧ Succeeds v.isMissing

variable {v : Value}

theorem IsFigure.isNumber (h : v.IsFigure) : v.IsNumber := by
  obtain ⟨n, rfl, -⟩ := h
  exact ⟨n, rfl⟩

theorem isNumber_binary (x : Binary64) : IsNumber x := ⟨x, rfl⟩

theorem isDegrees_null : IsDegrees null := ⟨.inl rfl, succeeds_ok true⟩

theorem isWritable_null : null.isWritable = true := rfl

/-- A temperature that is not missing is a number. -/
theorem IsDegrees.isNumber (h : v.IsDegrees) (hpresent : v.isMissing = .ok false) :
    v.IsNumber := by
  rcases h.1 with rfl | hnumber
  · cases hpresent
  · exact hnumber

theorem IsDegrees.figure (h : v.IsDegrees) : Succeeds v.figure := by
  obtain ⟨rfl | ⟨n, rfl⟩, missing, hmissing⟩ := h
  · exact succeeds_ok _
  · obtain ⟨x, hx⟩ := Number.isFigure_of_isMissing hmissing
    refine ⟨x, ?_⟩
    change n.toBinary?.elim _ _ = _
    rw [hx]
    rfl

/-- An estimate that is a figure, or null, can be told from a missing one. -/
theorem succeeds_isKnown (h : v = null ∨ v.IsFigure) : Succeeds v.isKnown := by
  rcases h with rfl | ⟨n, rfl, x, hx⟩
  · exact succeeds_ok false
  · refine ⟨!n.isNaN, ?_⟩
    change (if n.toBinary?.isNone then _ else _) = _
    rw [hx]
    rfl

/-- A figure has a form with a fixed count of places. -/
theorem IsFigure.fixed (h : v.IsFigure) (places : Nat) : Succeeds (v.fixed places) := by
  obtain ⟨n, rfl, x, hx⟩ := h
  refine ⟨x.fixed places, ?_⟩
  change (n.toBinary?.map _).elim _ _ = _
  rw [hx]
  rfl

/-- A figure can be taken away from a binary64 number. -/
theorem IsFigure.minus (h : v.IsFigure) (x : Binary64) :
    ∃ difference : Number, (x : Value).minus v = .ok difference := by
  obtain ⟨n, rfl, y, hy⟩ := h
  refine ⟨(x - y : Binary64), ?_⟩
  have hsub : (x : Number).sub? n = some ((x - y : Binary64) : Number) := by
    cases n with
    | integer i =>
      change (do return Number.binary ((← some x) - (← (Number.integer i).toBinary?))) = _
      rw [hy]
      rfl
    | binary z =>
      obtain rfl : z = y := Option.some.inj hy
      rfl
  change ((x : Number).sub? n).elim _ _ = _
  rw [hsub]
  rfl

end Value

/-- Numbers can be compared. -/
theorem Comparison.succeeds_holds (comparison : Comparison) {a b : Value} (ha : a.IsNumber)
    (hb : b.IsNumber) : Succeeds (comparison.holds a b) := by
  obtain ⟨m, rfl⟩ := ha
  obtain ⟨n, rfl⟩ := hb
  exact ⟨_, holds_number comparison m n⟩

/-- Whether the settings that the rules work with are of the kinds that are declared. -/
structure WarningSettings.IsSound (settings : WarningSettings) : Prop where
  temperature : settings.warningTemperature.IsDegrees
  tolerance : settings.warningTemperatureTolerance.IsDegrees
  margin : settings.thermalClearMargin.IsFigure
  bucket : settings.warningBucketThreshold.IsNumber
  standardTime : settings.standardTimeThreshold.IsNumber
  hybridTime : settings.hybridTimeThreshold.IsNumber

/-- Whether the bucket of a power reading is a number, and what is carried of it can be told. -/
structure PreviousPower.IsSound (previous : PreviousPower) : Prop where
  bucket : previous.bucket.IsNumber
  bucket_isWritable : previous.bucket.isWritable = true
  plugged_isWritable : previous.plugged.isWritable = true

/-- Whether a power state is of the kinds that are declared, and all of it that messages show can be
written. -/
structure PowerState.IsSound (power : PowerState) : Prop where
  left : power.left.IsSound
  level_isWritable : power.level.isWritable = true
  powerSaver_isWritable : power.powerSaver.isWritable = true
  timeRemaining : power.timeRemaining = .null ∨ power.timeRemaining.IsFigure

/-- Whether a hybrid estimate is of the kinds that are declared. -/
structure HybridEstimate.IsSound (hybrid : HybridEstimate) : Prop where
  enabled_isWritable : hybrid.enabled.isWritable = true
  timeRemaining : hybrid.timeRemaining.IsFigure

theorem WarningSettings.isSound_default : ({} : WarningSettings).IsSound where
  temperature := ⟨.inr ⟨.integer (-1), rfl⟩, false, by decide⟩
  tolerance := ⟨.inr (Value.isNumber_binary _), _, Value.isMissing_binary _⟩
  margin := ⟨.binary _, rfl, _, rfl⟩
  bucket := ⟨.integer (-1), rfl⟩
  standardTime := Value.isNumber_binary _
  hybridTime := Value.isNumber_binary _

theorem PreviousPower.isSound_default : ({} : PreviousPower).IsSound where
  bucket := ⟨1, rfl⟩
  bucket_isWritable := Value.isWritable_integer (by decide +kernel)
  plugged_isWritable := rfl

/-! ## The overheating rules -/

theorem succeeds_isUsable {v : Value} (h : v.IsDegrees) : Succeeds (isUsable v) := by
  refine h.2.bind fun missing hmissing => ?_
  cases missing with
  | true => exact succeeds_ok _
  | false =>
    refine (Comparison.less.succeeds_holds (h.isNumber hmissing) ⟨0, rfl⟩).bind fun _ _ => ?_
    exact succeeds_ok _

theorem succeeds_resolveThreshold {configured shutdown tolerance : Value}
    (hconfigured : configured.IsDegrees) (hshutdown : shutdown.IsDegrees)
    (htolerance : tolerance.IsDegrees) :
    Succeeds (resolveThreshold configured shutdown tolerance) := by
  unfold resolveThreshold
  split
  · refine hshutdown.2.bind fun missing _ => ?_
    cases missing with
    | true => exact succeeds_ok _
    | false =>
      refine (succeeds_isUsable htolerance).bind fun usable _ => ?_
      cases usable with
      | true =>
        exact hshutdown.figure.bind fun _ _ => htolerance.figure.bind fun _ _ => succeeds_ok _
      | false => exact succeeds_ok _
  · refine (succeeds_isUsable hconfigured).bind fun usable _ => ?_
    cases usable with
    | true => exact hconfigured.figure.bind fun _ _ => succeeds_ok _
    | false => exact succeeds_ok _

theorem succeeds_overheats {current : Value} (h : current.IsDegrees)
    (threshold : Option ThermalThreshold) (enabled : Bool) :
    Succeeds (overheats current (threshold.map ThermalThreshold.limit) enabled) := by
  cases enabled with
  | false => exact succeeds_ok _
  | true =>
    cases threshold with
    | none => exact succeeds_ok _
    | some threshold =>
      refine h.2.bind fun missing hmissing => ?_
      cases missing with
      | true => exact succeeds_ok _
      | false =>
        exact Comparison.atLeast.succeeds_holds (h.isNumber hmissing) (Value.isNumber_binary _)

/-- A margin that is a figure counts as a figure. -/
theorem atLeastZero_figure {margin : Value} (h : margin.IsFigure) :
    ∃ counted : Value, atLeastZero margin = .ok counted ∧ counted.IsFigure := by
  have hzero : (Binary64.zero : Value).IsFigure := ⟨_, rfl, _, rfl⟩
  obtain ⟨negative, hnegative⟩ := Comparison.greater.succeeds_holds hzero.isNumber h.isNumber
  cases negative with
  | true => exact ⟨_, bind_eq_ok.2 ⟨true, hnegative, rfl⟩, hzero⟩
  | false => exact ⟨_, bind_eq_ok.2 ⟨false, hnegative, rfl⟩, h⟩

theorem succeeds_hasCooled {current margin : Value} (h : current.IsDegrees)
    (hmargin : margin.IsFigure) (threshold : Option ThermalThreshold) (policy : ClearPolicy) :
    Succeeds (hasCooled current (threshold.map ThermalThreshold.limit) policy margin) := by
  cases policy with
  | manual => exact succeeds_ok _
  | onCooldown =>
    cases threshold with
    | none => exact succeeds_ok _
    | some threshold =>
      refine h.2.bind fun missing hmissing => ?_
      cases missing with
      | true => exact succeeds_ok _
      | false =>
        obtain ⟨counted, hcounted, hfigure⟩ := atLeastZero_figure hmargin
        obtain ⟨difference, hdifference⟩ := hfigure.minus threshold.value
        obtain ⟨cooled, hcooled⟩ :=
          Comparison.less.succeeds_holds (h.isNumber hmissing) ⟨difference, rfl⟩
        exact ⟨cooled, bind_eq_ok.2 ⟨counted, hcounted, bind_eq_ok.2 ⟨_, hdifference, hcooled⟩⟩⟩

namespace ThermalEvaluator

/-- With a margin that is a figure every temperature is decided on. -/
theorem succeeds_decision {evaluator : ThermalEvaluator} (hmargin : evaluator.margin.IsFigure)
    {current : Value} (h : current.IsDegrees) (threshold : Option ThermalThreshold)
    (state : WarningState) : Succeeds (evaluator.decision current threshold state) := by
  cases state with
  | hidden => exact (succeeds_overheats h threshold _).bind fun _ _ => succeeds_ok _
  | shown => exact (succeeds_hasCooled h hmargin threshold _).bind fun _ _ => succeeds_ok _

theorem succeeds_readsShutdown {settings : WarningSettings} (hsettings : settings.IsSound) :
    Succeeds (ofSettings settings).readsShutdown := by
  unfold readsShutdown
  split
  · exact succeeds_ok _
  · rename_i hconfigured
    rcases hsettings.temperature.1 with hnull | hnumber
    · exact absurd hnull hconfigured
    · exact Comparison.less.succeeds_holds hnumber ⟨0, rfl⟩

end ThermalEvaluator

/-! ## The battery rules -/

section Estimates

variable {time threshold : Value}

/-- An estimate that is missing, or fits into binary64, can be compared where it is known. -/
theorem succeeds_compareKnown (comparison : Comparison) (htime : time = .null ∨ time.IsFigure)
    (hthreshold : threshold.IsNumber) :
    Succeeds (do if ← time.isKnown then comparison.holds time threshold else return false) := by
  refine (Value.succeeds_isKnown htime).bind fun known hknown => ?_
  cases known with
  | false => exact succeeds_ok _
  | true =>
    rcases htime with rfl | hfigure
    · cases hknown
    · exact comparison.succeeds_holds hfigure.isNumber hthreshold

theorem succeeds_timeBelow (htime : time = .null ∨ time.IsFigure)
    (hthreshold : threshold.IsNumber) : Succeeds (timeBelow time threshold) := by
  refine (Comparison.less.succeeds_holds hthreshold ⟨0, rfl⟩).bind fun off _ => ?_
  cases off with
  | true => exact succeeds_ok _
  | false => exact succeeds_compareKnown .less htime hthreshold

theorem succeeds_timeRecovered (htime : time = .null ∨ time.IsFigure)
    (hthreshold : threshold.IsNumber) : Succeeds (timeRecovered time threshold) := by
  refine (Comparison.less.succeeds_holds hthreshold ⟨0, rfl⟩).bind fun off _ => ?_
  cases off with
  | true => exact succeeds_ok _
  | false => exact succeeds_compareKnown .greater htime hthreshold

end Estimates

section Buckets

variable {old new threshold : Value}

theorem succeeds_entersWarning (hold : old.IsNumber) (hnew : new.IsNumber)
    (hthreshold : threshold.IsNumber) : Succeeds (entersWarning old new threshold) := by
  refine (Comparison.greater.succeeds_holds hold hthreshold).bind fun above _ => ?_
  cases above with
  | true => exact Comparison.atMost.succeeds_holds hnew hthreshold
  | false => exact succeeds_ok _

theorem succeeds_leavesWarning (hold : old.IsNumber) (hnew : new.IsNumber)
    (hthreshold : threshold.IsNumber) : Succeeds (leavesWarning old new threshold) := by
  refine (Comparison.atMost.succeeds_holds hold hthreshold).bind fun inWarning _ => ?_
  cases inWarning with
  | true => exact Comparison.greater.succeeds_holds hnew hthreshold
  | false => exact succeeds_ok _

end Buckets

namespace BatteryThresholds

variable {thresholds : BatteryThresholds} {settings : WarningSettings} {previous : PreviousPower}
  {power : PowerState} {hybrid : HybridEstimate}

theorem succeeds_raiseVerdict (hsettings : settings.IsSound) (hprevious : previous.IsSound)
    (hpower : power.IsSound) (hhybrid : hybrid.IsSound) :
    Succeeds ((ofSettings settings).raiseVerdict previous power hybrid) := by
  have hstandard : Succeeds ((ofSettings settings).standardSignal previous power) := by
    refine (Comparison.atMost.succeeds_holds hpower.left.bucket hsettings.bucket).bind
      fun inWarning _ => ?_
    refine (succeeds_entersWarning hprevious.bucket hpower.left.bucket hsettings.bucket).bind
      fun enters _ => ?_
    cases enters with
    | true => exact succeeds_ok _
    | false =>
      change Succeeds (if (previous.plugged.truth && inWarning) = true then _ else _)
      split
      · exact succeeds_ok _
      · exact succeeds_timeBelow hpower.timeRemaining hsettings.standardTime
  have hsignal : Succeeds ((ofSettings settings).hybridSignal hybrid) := by
    unfold hybridSignal
    split
    · exact (succeeds_timeBelow (.inr hhybrid.timeRemaining) hsettings.hybridTime).map _
    · exact succeeds_ok _
  unfold raiseVerdict
  split
  · exact succeeds_ok _
  · exact hstandard.bind fun _ _ => hsignal.bind fun _ _ => succeeds_ok _

theorem succeeds_shouldDismiss (hsettings : settings.IsSound) (hprevious : previous.IsSound)
    (hpower : power.IsSound) (hhybrid : hybrid.IsSound) :
    Succeeds ((ofSettings settings).shouldDismiss previous power hybrid) := by
  unfold shouldDismiss
  split
  · exact succeeds_ok _
  · refine (succeeds_leavesWarning hprevious.bucket hpower.left.bucket hsettings.bucket).bind
      fun leaves _ => ?_
    cases leaves with
    | false => exact succeeds_ok _
    | true =>
      change Succeeds (if hybrid.enabled.truth = true then _ else _)
      split
      · exact succeeds_timeRecovered (.inr hhybrid.timeRemaining) hsettings.hybridTime
      · exact succeeds_ok _

/-- Values that are writable all pass. -/
theorem forM_checkWritable {values : List Value} (h : ∀ v ∈ values, v.isWritable = true) :
    values.forM Value.checkWritable = .ok () := by
  induction values with
  | nil => rfl
  | cons v rest ih =>
    have hfirst : v.checkWritable = .ok () := by
      rw [Value.checkWritable, if_pos (h v (by simp))]
    exact bind_eq_ok.2 ⟨(), hfirst, ih fun w hw => h w (List.mem_cons_of_mem v hw)⟩

/-- What a decision on sound readings rests on can be told. -/
theorem checkTold_eq (hprevious : previous.IsSound) (hpower : power.IsSound)
    (hhybrid : hybrid.IsSound) : checkTold previous power hybrid = .ok () := by
  obtain ⟨seconds, hseconds⟩ := hhybrid.timeRemaining.fixed 0
  have hvalues : [previous.bucket, power.bucket, power.plugged, power.powerSaver,
      hybrid.enabled].forM Value.checkWritable = .ok () := by
    apply forM_checkWritable
    simp only [List.mem_cons, List.not_mem_nil, or_false]
    rintro v (rfl | rfl | rfl | rfl | rfl)
    · exact hprevious.bucket_isWritable
    · exact hpower.left.bucket_isWritable
    · exact hpower.left.plugged_isWritable
    · exact hpower.powerSaver_isWritable
    · exact hhybrid.enabled_isWritable
  exact bind_eq_ok.2 ⟨(), hvalues, bind_eq_ok.2 ⟨seconds, hseconds, rfl⟩⟩

/-- Under sound settings sound readings are decided on, whatever the state. -/
theorem succeeds_evaluate (hsettings : settings.IsSound) (hprevious : previous.IsSound)
    (hpower : power.IsSound) (hhybrid : hybrid.IsSound) (state : WarningState) :
    Succeeds ((ofSettings settings).evaluate previous power hybrid state) := by
  have htold := checkTold_eq hprevious hpower hhybrid
  cases state with
  | hidden =>
    refine ((succeeds_raiseVerdict hsettings hprevious hpower hhybrid).map _).bind fun _ _ => ?_
    exact Succeeds.bind ⟨(), htold⟩ fun _ _ => succeeds_ok _
  | shown =>
    refine ((succeeds_shouldDismiss hsettings hprevious hpower hhybrid).map _).bind fun _ _ => ?_
    exact Succeeds.bind ⟨(), htold⟩ fun _ _ => succeeds_ok _

end BatteryThresholds

/-! ## Sound sources -/

/-- What a poll reads. -/
inductive Source where
  | settings
  | current
  | shutdown
  | power
  | hybridSwitch
  | hybridTime
  deriving DecidableEq

/-- Whether a source declares that it may fail so, in which case the poll goes on without it. -/
def Source.declares : Source → Fault → Bool
  | settings, .settings _ => true
  | power, .timeout => true
  | current, .unavailable _ | shutdown, .unavailable _ | power, .unavailable _ => true
  | hybridSwitch, .unavailable _ | hybridTime, .unavailable _ => true
  | _, _ => false

/-- The fault that an answer is, if it is one. -/
def faultOf {α : Type} : Except Fault α → Option Fault
  | .error fault => some fault
  | .ok _ => none

/-- The fault with which a source fails in a poll, if it does. -/
def Readings.fault? (readings : Readings) : Source → Option Fault
  | .settings => faultOf readings.thermal.settings
  | .current => faultOf readings.thermal.current
  | .shutdown => faultOf readings.thermal.shutdown
  | .power => faultOf readings.power.power
  | .hybridSwitch => faultOf readings.power.hybrid.enabled
  | .hybridTime => faultOf readings.power.hybrid.time

/-- Whether both temperature sources of a poll come to temperatures, missing ones included. -/
structure ThermalReadings.HasSensors (readings : ThermalReadings) : Prop where
  current : ∃ v, Section.temperatureFrom readings.current = .ok v ∧ v.IsDegrees
  shutdown : ∃ v, Section.temperatureFrom readings.shutdown = .ok v ∧ v.IsDegrees

namespace Readings

/-- Whether the sources that answer in a poll answer as they declare, and messages can show what
they tell of the power supply. -/
structure IsSound (readings : Readings) : Prop where
  settings : ∀ settings, readings.thermal.settings = .ok settings → settings.IsSound
  current : ∀ v, readings.thermal.current = .ok v → v.IsDegrees
  shutdown : ∀ v, readings.thermal.shutdown = .ok v → v.IsDegrees
  power : ∀ power, readings.power.power = .ok (some power) → power.IsSound
  time : ∀ v, readings.power.hybrid.time = .ok v → v.IsFigure

/-- Whether the sources that fail in a poll fail as they declare. -/
def IsContained (readings : Readings) : Prop :=
  ∀ source fault, readings.fault? source = some fault → source.declares fault = true

variable {readings : Readings}

theorem IsSound.isNumeric (h : readings.IsSound) : readings.thermal.IsNumeric :=
  fun v hv => (h.current v hv).1

/-- Sound settings are read, or the defaults in their place. -/
theorem settingsFrom_isSound (hsound : readings.IsSound) (hcontained : readings.IsContained) :
    ∃ settings, Section.settingsFrom readings.thermal.settings = .ok settings ∧
      settings.IsSound := by
  cases h : readings.thermal.settings with
  | ok settings => exact ⟨settings, rfl, hsound.settings settings h⟩
  | error fault =>
    have hdeclared := hcontained .settings fault (by rw [fault?, h]; rfl)
    cases fault with
    | settings problem => exact ⟨{}, rfl, WarningSettings.isSound_default⟩
    | _ => cases hdeclared

theorem temperatureFrom_isDegrees {answer : Except Fault Value}
    (hanswer : ∀ v, answer = .ok v → v.IsDegrees)
    (hfault : ∀ fault, answer = .error fault → ∃ outage, fault = .unavailable outage) :
    ∃ v, Section.temperatureFrom answer = .ok v ∧ v.IsDegrees := by
  cases answer with
  | ok v => exact ⟨v, rfl, hanswer v rfl⟩
  | error fault =>
    obtain ⟨outage, rfl⟩ := hfault fault rfl
    exact ⟨.null, rfl, Value.isDegrees_null⟩

theorem hasSensors (hsound : readings.IsSound) (hcontained : readings.IsContained) :
    readings.thermal.HasSensors where
  current := by
    refine temperatureFrom_isDegrees hsound.current fun fault h => ?_
    have hdeclared := hcontained .current fault (by rw [fault?, h]; rfl)
    cases fault with
    | unavailable outage => exact ⟨outage, rfl⟩
    | _ => cases hdeclared
  shutdown := by
    refine temperatureFrom_isDegrees hsound.shutdown fun fault h => ?_
    have hdeclared := hcontained .shutdown fault (by rw [fault?, h]; rfl)
    cases fault with
    | unavailable outage => exact ⟨outage, rfl⟩
    | _ => cases hdeclared

/-- A sound power state is read, or none. -/
theorem powerFrom_isSound (hsound : readings.IsSound) (hcontained : readings.IsContained) :
    ∃ answer, Section.powerFrom readings.power.power = .ok answer ∧
      ∀ power ∈ answer, power.IsSound := by
  cases h : readings.power.power with
  | ok answer =>
    refine ⟨answer, rfl, fun power hpower => ?_⟩
    obtain rfl : answer = some power := hpower
    exact hsound.power power h
  | error fault =>
    have hdeclared := hcontained .power fault (by rw [fault?, h]; rfl)
    cases fault with
    | unavailable outage => exact ⟨none, rfl, by simp⟩
    | timeout => exact ⟨none, rfl, by simp⟩
    | _ => cases hdeclared

/-- The hybrid estimate is sound, whether it is enabled or not, and known or not. -/
theorem estimate_isSound (hsound : readings.IsSound) (hcontained : readings.IsContained) :
    ∃ hybrid, readings.power.hybrid.estimate = .ok hybrid ∧ hybrid.IsSound := by
  have hfigure (x : Binary64) : (x : Value).IsFigure := ⟨x, rfl, x, rfl⟩
  unfold HybridReadings.estimate
  cases hswitch : readings.power.hybrid.enabled with
  | error fault =>
    have hdeclared := hcontained .hybridSwitch fault (by rw [fault?, hswitch]; rfl)
    cases fault with
    | unavailable outage => exact ⟨_, rfl, rfl, hfigure _⟩
    | _ => cases hdeclared
  | ok enabled =>
    cases enabled with
    | false => exact ⟨{}, rfl, rfl, hfigure _⟩
    | true =>
      cases htime : readings.power.hybrid.time with
      | ok time => exact ⟨_, rfl, rfl, hsound.time time htime⟩
      | error fault =>
        have hdeclared := hcontained .hybridTime fault (by rw [fault?, htime]; rfl)
        cases fault with
        | unavailable outage => exact ⟨_, rfl, rfl, hfigure _⟩
        | _ => cases hdeclared

end Readings

/-! ## Sound states -/

/-- Whether the kept temperatures are figures, and the carried power reading is sound. -/
structure Engine.IsSound (e : Engine) : Prop where
  figures : e.temperatures.HasFigures
  previous : e.state.previous.IsSound

namespace Section

/-- What the first half of a poll decides under its settings. -/
def decideThermal (settings : WarningSettings) (readings : ThermalReadings) (state : WarningState) :
    Except Fault ThermalDecision := do
  let (current, threshold) ← gathered settings readings
  (ThermalEvaluator.ofSettings settings).decision current threshold.toOption state

variable {readings : Readings} {e : Engine}

theorem pollFirst_eq_decideThermal (hsound : readings.IsSound) (he : e.IsSound) :
    (pollFirst readings.thermal e).outcome =
      settingsFrom readings.thermal.settings >>= fun settings =>
        (decideThermal settings readings.thermal e.state.thermalWarning).map (settings, ·) := by
  rw [pollFirst_outcome]
  congr 1
  funext settings
  rw [pollThermal_outcome, gatherThermal_outcome settings hsound.isNumeric he.figures]
  rfl

/-- Under sound settings, sources that come to temperatures are enough to gather from. -/
theorem succeeds_gathered {settings : WarningSettings} (hsettings : settings.IsSound)
    {readings : ThermalReadings} (h : readings.HasSensors) :
    ∃ current threshold, gathered settings readings = .ok (current, threshold) ∧
      current.IsDegrees := by
  obtain ⟨current, hcurrent, hdegrees⟩ := h.current
  obtain ⟨shutdown, hshutdown, hlimit⟩ :
      ∃ v, shutdownFrom settings readings = .ok v ∧ v.IsDegrees := by
    obtain ⟨reads, hreads⟩ := ThermalEvaluator.succeeds_readsShutdown hsettings
    rw [shutdownFrom, hreads]
    cases reads with
    | true => exact h.shutdown
    | false => exact ⟨.null, rfl, Value.isDegrees_null⟩
  obtain ⟨threshold, hthreshold⟩ :=
    succeeds_resolveThreshold hsettings.temperature hlimit hsettings.tolerance
  have hresolved : thresholdFrom settings readings = .ok threshold :=
    bind_eq_ok.2 ⟨shutdown, hshutdown, hthreshold⟩
  exact ⟨current, threshold, gathered_eq_ok.2 ⟨hcurrent, hresolved, hdegrees.2⟩, hdegrees⟩

/-- The first half of a poll of sound sources comes to a decision. -/
theorem succeeds_decideThermal {settings : WarningSettings} (hsettings : settings.IsSound)
    (hsound : readings.IsSound) (hcontained : readings.IsContained) (state : WarningState) :
    Succeeds (decideThermal settings readings.thermal state) := by
  obtain ⟨current, threshold, hgathered, hdegrees⟩ :=
    succeeds_gathered hsettings (Readings.hasSensors hsound hcontained)
  rw [decideThermal, hgathered]
  exact ThermalEvaluator.succeeds_decision hsettings.margin hdegrees _ _

/-- The second half of a poll of sound sources comes to a decision, or finds no power state. -/
theorem succeeds_decideBattery {settings : WarningSettings} (hsettings : settings.IsSound)
    (hsound : readings.IsSound) (hcontained : readings.IsContained) {state : PollState}
    (hprevious : state.previous.IsSound) :
    Succeeds (decideBattery settings readings.power state) := by
  obtain ⟨answer, hanswer, hpower⟩ := Readings.powerFrom_isSound hsound hcontained
  rw [decideBattery, hanswer]
  cases answer with
  | none => exact succeeds_ok _
  | some power =>
    obtain ⟨hybrid, hhybrid, hestimate⟩ := Readings.estimate_isSound hsound hcontained
    obtain ⟨decision, hdecision⟩ := BatteryThresholds.succeeds_evaluate hsettings hprevious
      (hpower power rfl) hestimate state.batteryWarning
    have hmade : batteryDecision settings readings.power.hybrid power state = .ok decision :=
      bind_eq_ok.2 ⟨hybrid, hhybrid, hdecision⟩
    dsimp only
    rw [hmade]
    refine ⟨some (power, decision), bind_eq_ok.2 ⟨decision, rfl, if_pos fun _ => ?_⟩⟩
    exact (hpower power rfl).level_isWritable

/-- A poll both of whose halves come to a decision is completed with them. -/
theorem poll_eq_ok {settings : WarningSettings} {thermal : ThermalDecision}
    {battery : Option (PowerState × BatteryDecision)}
    (hfirst : (pollFirst readings.thermal e).outcome = .ok (settings, thermal))
    (hbattery : decideBattery settings readings.power e.state = .ok battery) :
    (poll readings e).outcome =
        .ok ⟨(poll readings e).engine.state, thermal, battery.map Prod.snd⟩ ∧
      (poll readings e).engine.state =
        afterBattery (e.state.change .thermal thermal.action) (.ok battery) ∧
      pollShown readings e .thermal = thermal.action ∧
      pollShown readings e .battery = batteryAction (.ok battery) := by
  have hthermal : thermalAction readings.thermal e = thermal.action := by
    rw [thermalAction, hfirst]
    rfl
  have hoverall : batteryOutcome readings e = .ok battery := by
    rw [batteryOutcome, hfirst]
    exact hbattery
  have hshown : pollShown readings e .battery = batteryAction (.ok battery) := by
    rw [pollShown, hfirst]
    exact batteryShown_of_decideBattery hbattery
  have hstate := (poll_spec readings e).1
  rw [hthermal, hoverall] at hstate
  refine ⟨?_, hstate, hthermal, hshown⟩
  obtain ⟨hsecond, hafter, -⟩ := pollSecond_eq settings thermal readings.power
    (pollFirst readings.thermal e).engine
  have hdecided := (pollBattery_spec settings readings.power
    (pollFirst readings.thermal e).engine).1
  have hchanged : decideBattery settings readings.power
      (pollFirst readings.thermal e).engine.state = .ok battery := by
    rw [(pollFirst_spec readings.thermal e).1]
    exact hbattery
  rw [hchanged] at hdecided
  rw [hdecided, ← hafter] at hsecond
  rw [poll, bind_apply_of_ok hfirst]
  exact hsecond

/-- A poll of sound sources decides in both halves. -/
theorem decides_of_isSound (hsound : readings.IsSound) (hcontained : readings.IsContained)
    (he : e.IsSound) :
    ∃ settings thermal battery,
      settingsFrom readings.thermal.settings = .ok settings ∧ settings.IsSound ∧
      decideThermal settings readings.thermal e.state.thermalWarning = .ok thermal ∧
      (pollFirst readings.thermal e).outcome = .ok (settings, thermal) ∧
      decideBattery settings readings.power e.state = .ok battery := by
  obtain ⟨settings, hread, hsettings⟩ := Readings.settingsFrom_isSound hsound hcontained
  obtain ⟨thermal, hthermal⟩ :=
    succeeds_decideThermal hsettings hsound hcontained e.state.thermalWarning
  obtain ⟨battery, hbattery⟩ := succeeds_decideBattery hsettings hsound hcontained he.previous
  refine ⟨settings, thermal, battery, hread, hsettings, hthermal, ?_, hbattery⟩
  rw [pollFirst_eq_decideThermal hsound he, hread]
  change (decideThermal settings readings.thermal e.state.thermalWarning).map _ = _
  rw [hthermal]
  rfl

/-- What a poll carries of the battery is what was carried before, or sound power that was read. -/
theorem maintains_isSound {t : Tick} (hsound : t.readings.IsSound) :
    Maintains Engine.IsSound (pollOnce t.behaviour t.readings) := by
  intro e he
  refine ⟨maintains_pollOnce hsound.isNumeric e he.figures, ?_⟩
  rw [(pollOnce_changes t.behaviour t.readings e).1, (poll_spec t.readings e).1]
  unfold afterBattery
  split
  case h_1 power decision houtcome =>
    obtain ⟨settings, thermal, -, hpower, -⟩ := batteryOutcome_eq_some.1 houtcome
    exact (hsound.power power (powerFrom_eq_some.1 hpower)).left
  case h_2 => exact he.previous

end Section

/-- Every run of a new engine leads to sound states, as long as what its sources answer is sound,
and however they fail. -/
theorem Engine.fresh_run_isSound (clock : Binary64) (callbacks : List Callback) {ticks : List Tick}
    (hsound : ∀ t ∈ ticks, t.readings.IsSound) :
    ((fresh clock callbacks).run ticks).engine.IsSound := by
  apply run_induction (motive := fun _ run => run.engine.IsSound)
  · exact ⟨⟨[], rfl, by simp⟩, PreviousPower.isSound_default⟩
  · intro _ run t ht he
    exact Section.maintains_isSound (hsound t ht) run.engine he

end DeviceWarnings
