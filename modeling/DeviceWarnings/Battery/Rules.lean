import DeviceWarnings.Battery.Power
import DeviceWarnings.Warning

/-!
# Low battery rules

A warning is raised when one signal calls for it: the bucket fell into warning, the device was
unplugged while in warning, or an estimate of the remaining time is below its threshold. It is
dismissed when all signals agree: the bucket came out of warning and the hybrid estimate, if
enabled, is above its threshold. Being plugged in or saving power suppresses the warning and
dismisses it; an unknown battery status suppresses it.

A negative time threshold switches its signal off. A missing estimate is never below a threshold
and never above it. An estimate is looked at only where the decision hangs on it; it is then a
fault if it is no number, or a whole number too large for binary64.
-/

namespace DeviceWarnings

/-- When a battery counts as low. -/
structure BatteryThresholds where
  warningBucket : Value := ({} : WarningSettings).warningBucketThreshold
  standardTime : Value := ({} : WarningSettings).standardTimeThreshold
  hybridTime : Value := ({} : WarningSettings).hybridTimeThreshold
  deriving DecidableEq

/-- The part of the settings that low battery warnings use. -/
def BatteryThresholds.ofSettings (settings : WarningSettings) : BatteryThresholds where
  warningBucket := settings.warningBucketThreshold
  standardTime := settings.standardTimeThreshold
  hybridTime := settings.hybridTimeThreshold

/-- What the last successful power reading leaves behind for the next. -/
structure PreviousPower where
  bucket : Value := 1
  plugged : Value := .flag false
  deriving DecidableEq

/-- Whether an estimate is below a threshold. -/
def timeBelow (time threshold : Value) : Except Fault Bool := do
  if ← Comparison.less.holds threshold 0 then return false
  if ← time.isKnown then Comparison.less.holds time threshold else return false

/-- Whether an estimate is above a threshold. -/
def timeRecovered (time threshold : Value) : Except Fault Bool := do
  if ← Comparison.less.holds threshold 0 then return true
  if ← time.isKnown then Comparison.greater.holds time threshold else return false

/-- What is to be done about a low battery. The verdict on raising is a flag, or else the value by
which the hybrid estimate is switched off; what counts is its truth. -/
structure BatteryDecision where
  verdict : Value := .flag false
  dismiss : Bool := false
  deriving DecidableEq

/-- The change that a decision calls for. -/
def BatteryDecision.action (decision : BatteryDecision) : Option WarningAction :=
  if decision.verdict.truth then some .raise
  else if decision.dismiss then some .dismiss
  else none

namespace BatteryThresholds

/-- Whether the bucket, the plug or the standard estimate calls for a warning. -/
def standardSignal (t : BatteryThresholds) (previous : PreviousPower) (power : PowerState) :
    Except Fault Bool := do
  let inWarning ← Comparison.atMost.holds power.bucket t.warningBucket
  if ← entersWarning previous.bucket power.bucket t.warningBucket then return true
  if previous.plugged.truth && inWarning then return true
  timeBelow power.timeRemaining t.standardTime

/-- What the hybrid estimate says to a warning: whether it calls for one, or else the value by
which it is switched off. -/
def hybridSignal (t : BatteryThresholds) (hybrid : HybridEstimate) : Except Fault Value :=
  if hybrid.enabled.truth then (timeBelow hybrid.timeRemaining t.hybridTime).map .flag
  else .ok hybrid.enabled

/-- The verdict on raising the low battery warning. -/
def raiseVerdict (t : BatteryThresholds) (previous : PreviousPower) (power : PowerState)
    (hybrid : HybridEstimate) : Except Fault Value :=
  if power.plugged.truth ∨ power.powerSaver.truth ∨ ¬power.status.isTrustworthy then
    .ok (.flag false)
  else do
    let standard ← t.standardSignal previous power
    let verdict ← t.hybridSignal hybrid
    return if standard then .flag true else verdict

/-- Whether the low battery warning is to be raised. -/
def shouldRaise (t : BatteryThresholds) (previous : PreviousPower) (power : PowerState)
    (hybrid : HybridEstimate) : Except Fault Bool :=
  (t.raiseVerdict previous power hybrid).map Value.truth

/-- Whether a shown low battery warning is to be dismissed. -/
def shouldDismiss (t : BatteryThresholds) (previous : PreviousPower) (power : PowerState)
    (hybrid : HybridEstimate) : Except Fault Bool :=
  if power.plugged.truth ∨ power.powerSaver.truth then .ok true
  else do
    if ← leavesWarning previous.bucket power.bucket t.warningBucket then
      if hybrid.enabled.truth then timeRecovered hybrid.timeRemaining t.hybridTime
      else return true
    else return false

/-- Whether what a decision rests on can be told: both buckets, the plug, the power saver, the
switch of the hybrid estimate, and the estimate itself in whole seconds. -/
def checkTold (previous : PreviousPower) (power : PowerState) (hybrid : HybridEstimate) :
    Except Fault Unit := do
  [previous.bucket, power.bucket, power.plugged, power.powerSaver, hybrid.enabled].forM
    Value.checkWritable
  let _ ← hybrid.seconds

/-- What is to be done about a low battery: a hidden warning may be raised, a shown one
dismissed. Every decision has to be one that can be told. -/
def evaluate (t : BatteryThresholds) (previous : PreviousPower) (power : PowerState)
    (hybrid : HybridEstimate) (state : WarningState) : Except Fault BatteryDecision := do
  let decision : BatteryDecision ← match state with
    | .hidden => (t.raiseVerdict previous power hybrid).map fun v => { verdict := v }
    | .shown => (t.shouldDismiss previous power hybrid).map fun b => { dismiss := b }
  checkTold previous power hybrid
  return decision

end BatteryThresholds

end DeviceWarnings
