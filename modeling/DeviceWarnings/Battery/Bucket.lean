import DeviceWarnings.Value.Amount

/-!
# Battery buckets

A bucket says how full a battery is: 1 from the close level on, 0 below it and above the first
warning level, and -1, -2 and so on for the deepest warning level that has been reached. The
bucket rules compare two successive readings with a threshold: buckets up to the threshold are in
warning.
-/

namespace DeviceWarnings

/-- The percentages from which on a battery is low and critically low. -/
def defaultWarningLevels : List Value := [15, 5]

/-- How far the close level lies above the first warning level. -/
def defaultCloseOffset : Value := 5

/-- The last place in a list of warning levels that a level is at or below. All of the warning
levels are looked at. -/
def deepestLevel? (levels : List Value) (level : Value) : Except Fault (Option Nat) := do
  let reached ← levels.mapM (Comparison.atMost.holds level)
  return ((List.range reached.length).filter fun i => reached.getD i false).getLast?

/-- The bucket of a level below given warning levels and a close level; without a close level it
lies the usual offset above the first warning level. -/
def bucketOf (level : Value) (levels : List Value := defaultWarningLevels)
    (close : Value := .null) : Except Fault Int :=
  match levels with
  | [] => .error .noWarningLevels
  | first :: _ => do
    let close ← if close = .null then first.plus defaultCloseOffset else pure close
    if ← Comparison.atLeast.holds level close then return 1
    if ← Comparison.greater.holds level first then return 0
    match ← deepestLevel? levels level with
    | some i => return -1 - i
    | none => throw .noLevelReached

/-- Whether a reading went down into warning: it was above the threshold and no longer is. -/
def entersWarning (old new threshold : Value) : Except Fault Bool := do
  if ← Comparison.greater.holds old threshold then Comparison.atMost.holds new threshold
  else return false

/-- Whether a reading came up out of warning. -/
def leavesWarning (old new threshold : Value) : Except Fault Bool := do
  if ← Comparison.atMost.holds old threshold then Comparison.greater.holds new threshold
  else return false

end DeviceWarnings
