import DeviceWarnings.Battery.Rules
import DeviceWarnings.Thermal.Rules

/-!
# Decisions by state

A hidden warning may be raised and a shown one dismissed, and each decision says by which rule. A
decision that was made can also be told: its estimate has a form in whole seconds.
-/

namespace DeviceWarnings

/-- A sequence of two outcomes is a value exactly if both are, the second for the first. -/
theorem bind_eq_ok {ε α β : Type} {first : Except ε α} {next : α → Except ε β} {b : β} :
    (first >>= next) = .ok b ↔ ∃ a, first = .ok a ∧ next a = .ok b := by
  cases first with
  | error fault => simp [bind, Except.bind]
  | ok a => simp [bind, Except.bind]

/-- A value that is changed further is a value exactly if it is one to begin with. -/
theorem map_eq_ok {ε α β : Type} {f : α → β} {x : Except ε α} {b : β} :
    x.map f = .ok b ↔ ∃ a, x = .ok a ∧ f a = b := by
  cases x with
  | error fault => simp [Except.map]
  | ok a => simp [Except.map]

/-- A value that is changed further is a fault exactly if it is one to begin with. -/
theorem bind_ok_eq_error {ε α β : Type} {x : Except ε α} {f : α → β} {fault : ε} :
    (x >>= fun a => .ok (f a)) = .error fault ↔ x = .error fault := by
  cases x with
  | error other => simp [bind, Except.bind]
  | ok a => simp [bind, Except.bind]

/-- The state in which a warning may be changed so. -/
def WarningState.before : WarningAction → WarningState
  | .raise => hidden
  | .dismiss => shown

/-- A rule that makes one change only has been met, and has made this change, if there is one. -/
theorem WarningAction.eq_of_rule {made : Option WarningAction} {change action : WarningAction}
    {met : Bool} (hmade : made = if met then some change else none) (h : made = some action) :
    met = true ∧ action = change := by
  rw [h] at hmade
  cases met with
  | false => cases hmade
  | true => exact ⟨rfl, Option.some.inj hmade⟩

/-- What a power state leaves behind for the next. -/
def PowerState.left (power : PowerState) : PreviousPower := ⟨power.bucket, power.plugged⟩

/-- Whether the event of a decision can be told: it tells the level when a warning is raised. -/
def BatteryDecision.IsTellable (decision : BatteryDecision) (power : PowerState) : Prop :=
  decision.action = some .raise → power.level.isWritable = true

instance (decision : BatteryDecision) (power : PowerState) :
    Decidable (decision.IsTellable power) :=
  inferInstanceAs (Decidable (decision.action = some .raise → power.level.isWritable = true))

/-- A missing temperature, or one without a limit, does not overheat. -/
theorem overheats_of_missing {current : Value} {limit : Option Value} (enabled : Bool)
    (h : current.isMissing = .ok true ∨ limit = none) :
    overheats current limit enabled = .ok false := by
  cases limit with
  | none => cases enabled <;> rfl
  | some limit =>
    have hmissing : current.isMissing = .ok true := by simpa using h
    cases enabled with
    | false => rfl
    | true => rw [overheats, hmissing]; rfl

/-- A missing temperature, or one without a limit, has not cooled. -/
theorem hasCooled_of_missing {current margin : Value} {limit : Option Value} (policy : ClearPolicy)
    (h : current.isMissing = .ok true ∨ limit = none) :
    hasCooled current limit policy margin = .ok false := by
  cases limit with
  | none => cases policy <;> rfl
  | some limit =>
    have hmissing : current.isMissing = .ok true := by simpa using h
    cases policy with
    | manual => rfl
    | onCooldown => rw [hasCooled, hmissing]; rfl

namespace ThermalEvaluator

variable {evaluator : ThermalEvaluator} {current : Value} {threshold : Option ThermalThreshold}
  {state : WarningState} {made : ThermalDecision}

/-- A decision about overheating raises only a hidden warning, for a temperature that overheats,
and clears only a shown one, for a temperature that has cooled. -/
theorem decision_cases
    (h : evaluator.decision current threshold state = .ok made) :
    made.threshold = threshold ∧
      match state with
      | .hidden => ∃ hot, overheats current (threshold.map ThermalThreshold.limit)
          evaluator.enabled = .ok hot ∧ made.action = if hot then some .raise else none
      | .shown => ∃ cooled, hasCooled current (threshold.map ThermalThreshold.limit)
          evaluator.policy evaluator.margin = .ok cooled ∧
            made.action = if cooled then some .dismiss else none := by
  cases state with
  | hidden =>
    obtain ⟨hot, hhot, hmade⟩ := bind_eq_ok.1 h
    obtain rfl := Except.ok.inj hmade
    exact ⟨rfl, hot, hhot, rfl⟩
  | shown =>
    obtain ⟨cooled, hcooled, hmade⟩ := bind_eq_ok.1 h
    obtain rfl := Except.ok.inj hmade
    exact ⟨rfl, cooled, hcooled, rfl⟩

/-- Without a temperature or a threshold nothing is done. -/
theorem decision_of_missing (h : current.isMissing = .ok true ∨ threshold = none)
    (state : WarningState) :
    evaluator.decision current threshold state = .ok ⟨none, threshold⟩ := by
  have hlimit : current.isMissing = .ok true ∨ threshold.map ThermalThreshold.limit = none := by
    simpa using h
  cases state with
  | hidden => rw [decision, overheats_of_missing _ hlimit]; rfl
  | shown => rw [decision, hasCooled_of_missing _ hlimit]; rfl

/-- A change of the overheating warning fits the state that it starts in. -/
theorem state_of_action (h : evaluator.decision current threshold state = .ok made)
    {action : WarningAction} (haction : made.action = some action) : state = .before action := by
  obtain ⟨-, hmade⟩ := decision_cases h
  cases state with
  | hidden =>
    obtain ⟨hot, -, hmade⟩ := hmade
    obtain ⟨-, rfl⟩ := WarningAction.eq_of_rule hmade haction
    rfl
  | shown =>
    obtain ⟨cooled, -, hmade⟩ := hmade
    obtain ⟨-, rfl⟩ := WarningAction.eq_of_rule hmade haction
    rfl

/-- Without a threshold no warning is raised. -/
theorem threshold_of_raise
    (h : evaluator.decision current threshold state = .ok made)
    (hraise : made.action = some .raise) : ∃ limit, made.threshold = some limit := by
  obtain ⟨hthreshold, hmade⟩ := decision_cases h
  cases state with
  | shown =>
    obtain ⟨cooled, -, hmade⟩ := hmade
    obtain ⟨-, hnever⟩ := WarningAction.eq_of_rule hmade hraise
    cases hnever
  | hidden =>
    obtain ⟨hot, hhot, hmade⟩ := hmade
    obtain ⟨rfl, -⟩ := WarningAction.eq_of_rule hmade hraise
    cases threshold with
    | some limit => exact ⟨limit, hthreshold⟩
    | none =>
      change overheats current none evaluator.enabled = _ at hhot
      rw [overheats_of_missing _ (.inr rfl)] at hhot
      cases hhot

end ThermalEvaluator

namespace BatteryThresholds

variable {thresholds : BatteryThresholds} {previous : PreviousPower} {power : PowerState}
  {hybrid : HybridEstimate} {state : WarningState} {decision : BatteryDecision}

/-- A warning that nothing suppresses is to be raised if one of the two signals calls for it, and
both have to come to a verdict. -/
theorem shouldRaise_eq_ok {raises : Bool} :
    thresholds.shouldRaise previous power hybrid = .ok raises ↔
      if power.plugged.truth ∨ power.powerSaver.truth ∨ ¬power.status.isTrustworthy then
        raises = false
      else
        ∃ standard verdict, thresholds.standardSignal previous power = .ok standard ∧
          thresholds.hybridSignal hybrid = .ok verdict ∧ raises = (standard || verdict.truth) := by
  rw [shouldRaise, raiseVerdict]
  split
  · constructor
    · intro h
      exact (Except.ok.inj h).symm
    · rintro rfl
      rfl
  · rw [map_eq_ok]
    constructor
    · rintro ⟨_, hverdict, rfl⟩
      obtain ⟨standard, hstandard, h⟩ := bind_eq_ok.1 hverdict
      obtain ⟨verdict, hhybrid, h⟩ := bind_eq_ok.1 h
      obtain rfl := Except.ok.inj h
      exact ⟨standard, verdict, hstandard, hhybrid, by cases standard <;> rfl⟩
    · rintro ⟨standard, verdict, hstandard, hhybrid, rfl⟩
      refine ⟨_, bind_eq_ok.2 ⟨standard, hstandard, bind_eq_ok.2 ⟨verdict, hhybrid, rfl⟩⟩, ?_⟩
      cases standard <;> rfl

/-- A decision about a low battery raises only a hidden warning and dismisses only a shown one,
each by its own rule, and can be told. -/
theorem evaluate_cases (h : thresholds.evaluate previous power hybrid state = .ok decision) :
    checkTold previous power hybrid = .ok () ∧
      match state with
      | .hidden => ∃ raises, thresholds.shouldRaise previous power hybrid = .ok raises ∧
          decision.action = if raises then some .raise else none
      | .shown => ∃ dismisses, thresholds.shouldDismiss previous power hybrid = .ok dismisses ∧
          decision.action = if dismisses then some .dismiss else none := by
  cases state with
  | hidden =>
    simp only [evaluate] at h
    obtain ⟨made, hmade, h⟩ := bind_eq_ok.1 h
    obtain ⟨_, htold, h⟩ := bind_eq_ok.1 h
    obtain rfl := Except.ok.inj h
    refine ⟨htold, ?_⟩
    obtain ⟨verdict, hverdict, rfl⟩ := map_eq_ok.1 hmade
    exact ⟨verdict.truth, map_eq_ok.2 ⟨verdict, hverdict, rfl⟩, by simp [BatteryDecision.action]⟩
  | shown =>
    simp only [evaluate] at h
    obtain ⟨made, hmade, h⟩ := bind_eq_ok.1 h
    obtain ⟨_, htold, h⟩ := bind_eq_ok.1 h
    obtain rfl := Except.ok.inj h
    refine ⟨htold, ?_⟩
    obtain ⟨dismisses, hdismisses, rfl⟩ := map_eq_ok.1 hmade
    exact ⟨dismisses, hdismisses, by simp [BatteryDecision.action, Value.truth]⟩

/-- A change of the low battery warning fits the state that it starts in. -/
theorem state_of_action (h : thresholds.evaluate previous power hybrid state = .ok decision)
    {action : WarningAction} (haction : decision.action = some action) :
    state = .before action := by
  obtain ⟨-, hmade⟩ := evaluate_cases h
  cases state with
  | hidden =>
    obtain ⟨raises, -, hmade⟩ := hmade
    obtain ⟨-, rfl⟩ := WarningAction.eq_of_rule hmade haction
    rfl
  | shown =>
    obtain ⟨dismisses, -, hmade⟩ := hmade
    obtain ⟨-, rfl⟩ := WarningAction.eq_of_rule hmade haction
    rfl

/-- A hidden warning is raised exactly if it is to be raised and this can be told. -/
theorem evaluate_raises_iff :
    (∃ decision, thresholds.evaluate previous power hybrid .hidden = .ok decision ∧
        decision.action = some .raise) ↔
      thresholds.shouldRaise previous power hybrid = .ok true ∧
        checkTold previous power hybrid = .ok () := by
  constructor
  · rintro ⟨decision, hevaluate, haction⟩
    obtain ⟨htold, raises, hraises, hmade⟩ := evaluate_cases hevaluate
    obtain ⟨rfl, -⟩ := WarningAction.eq_of_rule hmade haction
    exact ⟨hraises, htold⟩
  · rintro ⟨hraises, htold⟩
    obtain ⟨verdict, hverdict, htruth⟩ := map_eq_ok.1 hraises
    refine ⟨{ verdict }, ?_, by simp [BatteryDecision.action, htruth]⟩
    simp only [evaluate, hverdict, htold]
    rfl

/-- A decision that was made can be told in whole seconds. -/
theorem seconds_of_evaluate (h : thresholds.evaluate previous power hybrid state = .ok decision) :
    ∃ seconds, hybrid.seconds = .ok seconds := by
  obtain ⟨_, _, htold⟩ := bind_eq_ok.1 (evaluate_cases h).1
  obtain ⟨seconds, hseconds, _⟩ := bind_eq_ok.1 htold
  exact ⟨seconds, hseconds⟩

end BatteryThresholds

end DeviceWarnings
