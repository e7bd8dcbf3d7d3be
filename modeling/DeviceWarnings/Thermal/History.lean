import DeviceWarnings.Thermal.Summary

/-!
# Temperature history

The most recent temperatures, oldest first, at most as many as the capacity allows. Missing
readings are not kept and push nothing out.
-/

namespace DeviceWarnings

/-- The last items of a list, as many as a capacity allows. -/
def keepLast {α : Type} (capacity : Option Nat) (xs : List α) : List α :=
  match capacity with
  | none => xs
  | some n => xs.drop (xs.length - n)

theorem length_keepLast {α : Type} (n : Nat) (xs : List α) :
    (keepLast (some n) xs).length = min n xs.length := by
  simp only [keepLast, List.length_drop]; omega

@[simp] theorem keepLast_nil {α : Type} (capacity : Option Nat) :
    keepLast capacity ([] : List α) = [] := by
  cases capacity <;> simp [keepLast]

theorem keepLast_suffix {α : Type} (capacity : Option Nat) (xs : List α) :
    keepLast capacity xs <:+ xs := by
  cases capacity with
  | none => exact List.suffix_refl xs
  | some n => exact List.drop_suffix _ xs

theorem keepLast_eq_nil_iff {α : Type} {n : Nat} (h : 0 < n) {xs : List α} :
    keepLast (some n) xs = [] ↔ xs = [] := by
  rw [← List.length_eq_zero_iff, length_keepLast, ← List.length_eq_zero_iff]; omega

theorem map_keepLast {α β : Type} (f : α → β) (capacity : Option Nat) (xs : List α) :
    (keepLast capacity xs).map f = keepLast capacity (xs.map f) := by
  cases capacity with
  | none => rfl
  | some n => simp only [keepLast, List.map_drop, List.length_map]

/-- What was left out makes no difference to what is kept later. -/
theorem keepLast_append {α : Type} (capacity : Option Nat) (xs ys : List α) :
    keepLast capacity (keepLast capacity xs ++ ys) = keepLast capacity (xs ++ ys) := by
  cases capacity with
  | none => rfl
  | some n =>
    have hdrop : xs.drop (xs.length - n) ++ ys = (xs ++ ys).drop (xs.length - n) :=
      (List.drop_append_of_le_length (Nat.sub_le ..)).symm
    simp only [keepLast, hdrop, List.drop_drop, List.length_drop, List.length_append]
    congr 1
    omega

/-- Kept temperatures, oldest first; without a capacity all are kept. -/
structure TemperatureHistory where
  capacity : Option Nat
  samples : List Value := []
  deriving DecidableEq

/-- The first number of samples that cannot be counted. -/
def countLimit : Nat := 1 <<< 63

namespace TemperatureHistory

/-- An empty history of a given capacity: null, or a whole number that is not negative. -/
def ofCapacity (capacity : Value) : Except Fault TemperatureHistory :=
  match capacity with
  | .null => .ok { capacity := none }
  | .flag b => .ok { capacity := some b.toNat }
  | .number (.integer n) =>
    if n < -(countLimit : Int) ∨ countLimit ≤ n then .error .capacityTooLarge
    else if n < 0 then .error .negativeCapacity
    else .ok { capacity := some n.toNat }
  | v => .error (.notWhole v.kind)

/-- The history with one more reading, unless it is missing. -/
def append (h : TemperatureHistory) (reading : Value) : Except Fault TemperatureHistory := do
  if ← reading.isMissing then return h
  else return { h with samples := keepLast h.capacity (h.samples ++ [reading]) }

/-- The history without samples. -/
def clear (h : TemperatureHistory) : TemperatureHistory := { h with samples := [] }

/-- The number of samples. -/
def size (h : TemperatureHistory) : Nat := h.samples.length

/-- The summary of the samples. -/
def summary (h : TemperatureHistory) : Except Fault (Option TemperatureSummary) :=
  TemperatureSummary.ofValues h.samples

end TemperatureHistory

end DeviceWarnings
