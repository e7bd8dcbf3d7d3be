import DeviceWarnings.Fault

/-!
# Nested lists as tables

Where numbers are worked with in bulk, a list may hold lists in turn, provided that all lists that
lie equally deep are equally long. Such a list is a table with a length in each dimension, and what
is no list is one of its cells. `Value.cells` are the cells in the order in which they are written,
and `Value.extents` the lengths as far as all items of the table agree on them.
-/

namespace DeviceWarnings

/-- The most dimensions that a table may have. -/
def dimensionLimit : Nat := 64

/-- The first items that two lists share. -/
def sharedStart : List Nat → List Nat → List Nat
  | m :: ms, n :: ns => if m = n then m :: sharedStart ms ns else []
  | _, _ => []

namespace Value

mutual

/-- The lengths of a table in its dimensions, as far as its items agree on them. -/
def extents : Value → List Nat
  | list items => items.length :: sharedExtents items
  | _ => []

/-- The extents that some values share. -/
def sharedExtents : List Value → List Nat
  | [] => []
  | [item] => item.extents
  | item :: rest => sharedStart item.extents (sharedExtents rest)

end

mutual

/-- Whether all lists in a value that lie equally deep are equally long. -/
def isRegular : Value → Bool
  | list items => areRegular items
  | _ => true

/-- Whether some values are regular and of the same extents. -/
def areRegular : List Value → Bool
  | [] => true
  | item :: rest =>
    item.isRegular && (rest.head?.all fun next => item.extents = next.extents) && areRegular rest

end

mutual

/-- What lies in the lists of a value and is no list itself. -/
def cells : Value → List Value
  | list items => cellsOf items
  | v => [v]

/-- What lies in the lists of some values and is no list itself. -/
def cellsOf : List Value → List Value
  | [] => []
  | item :: rest => item.cells ++ cellsOf rest

end

/-- The cells of a table. -/
def tabulated (v : Value) : Except Fault (List Value) :=
  let extents := v.extents.take dimensionLimit
  if v.isRegular ∧ v.extents.length ≤ dimensionLimit then .ok v.cells
  else if extents.length < dimensionLimit then .error (.notTable extents)
  else .error (.tooManyDimensions dimensionLimit)

theorem cellsOf_numbers (ns : List Number) : cellsOf (ns.map number) = ns.map number := by
  induction ns with
  | nil => rfl
  | cons n rest ih => simp [cellsOf, cells, ih]

/-- Amounts share no extents, since they have none. -/
theorem sharedExtents_numbers (ns : List Number) : sharedExtents (ns.map number) = [] := by
  cases ns with
  | nil => rfl
  | cons n rest => cases rest <;> simp [sharedExtents, extents, sharedStart]

theorem areRegular_numbers (ns : List Number) : areRegular (ns.map number) = true := by
  induction ns with
  | nil => rfl
  | cons n rest ih => cases rest <;> simp_all [areRegular, isRegular, extents]

/-- A list of amounts is a table that has the amounts for cells. -/
theorem tabulated_numbers (ns : List Number) :
    (list (ns.map number)).tabulated = .ok (ns.map number) := by
  simp [tabulated, isRegular, extents, cells, sharedExtents_numbers, areRegular_numbers,
    cellsOf_numbers, dimensionLimit]

end Value

end DeviceWarnings
