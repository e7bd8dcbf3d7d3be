import DeviceWarnings.Binary64
import DeviceWarnings.Text

/-!
# Warnings

There are two independent warnings, one for overheating and one for a low battery. Each is
hidden or shown, and changes by being raised or dismissed. An event records such a change.
-/

namespace DeviceWarnings

/-- One of the two warnings. -/
inductive Channel where
  | thermal
  | battery
  deriving DecidableEq, Repr

/-- The name of a channel in messages. -/
def Channel.name : Channel → String
  | thermal => "THERMAL"
  | battery => "BATTERY"

/-- A change of a warning. -/
inductive WarningAction where
  | raise
  | dismiss
  deriving DecidableEq, Repr

/-- The name of a change in messages. -/
def WarningAction.name : WarningAction → String
  | .raise => "show"
  | .dismiss => "dismiss"

/-- Whether a warning is on display. -/
inductive WarningState where
  | hidden
  | shown
  deriving DecidableEq, Repr

namespace WarningState

/-- The name of a state in messages. -/
def name : WarningState → String
  | hidden => "HIDDEN"
  | shown => "SHOWN"

/-- Whether the warning is shown. -/
def isShown (s : WarningState) : Bool := s = shown

/-- The state after a change. -/
def after : WarningAction → WarningState
  | .raise => shown
  | .dismiss => hidden

/-- The state after a change, if there is one. -/
def afterAction (s : WarningState) (action : Option WarningAction) : WarningState :=
  action.elim s after

end WarningState

/-- The record of one change of a warning. -/
structure WarningEvent where
  timestamp : Binary64
  channel : Channel
  action : WarningAction
  description : Text
  deriving DecidableEq

end DeviceWarnings
