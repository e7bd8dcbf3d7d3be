import DeviceWarnings.Text.Numeral
import DeviceWarnings.Value.Order
import DeviceWarnings.Value.Table

/-!
# Values as amounts

Where a rule works with a temperature, a time or a level, it asks a value for the number that it
stands for. A missing temperature is null or NaN; a missing estimate of time is so too, but the
two tests differ in what they take: a temperature has to fit into a machine word, or may be a list
that holds one such number and is missing if that is NaN, and a time has to fit into binary64. A
value of another kind is a fault.
-/

namespace DeviceWarnings

/-- Whether a whole number fits into a signed or an unsigned machine word. -/
def fitsWord (n : Int) : Bool := -((1 <<< 63 : Nat) : Int) ≤ n && n < ((1 <<< 64 : Nat) : Int)

namespace Value

/-- The amount that a value stands for, which has to be a number. -/
def amount (v : Value) : Except Fault Number := v.amount?.elim (.error (.notNumber v.kind)) .ok

/-- Whether a temperature that is no list is NaN. -/
def isNaNTemperature (v : Value) : Except Fault Bool :=
  match v.amount? with
  | some (.integer n) => if fitsWord n then .ok false else .error .notTemperature
  | some (.binary x) => .ok x.isNaN
  | none => .error .notTemperature

/-- Whether a temperature is missing. -/
def isMissing (v : Value) : Except Fault Bool :=
  match v with
  | null => .ok true
  | list items => do
    match ← (← (list items).tabulated).mapM isNaNTemperature with
    | [] => .error .noTemperature
    | [isNaN] => .ok isNaN
    | _ => .error .manyTemperatures
  | v => v.isNaNTemperature

/-- A binary64 temperature is missing only if it is NaN. -/
theorem isMissing_binary (x : Binary64) : (x : Value).isMissing = .ok x.isNaN := rfl

/-- Whether an estimate of time is there. -/
def isKnown (v : Value) : Except Fault Bool :=
  match v with
  | null => .ok false
  | v => do
    let n ← v.amount
    if n.toBinary?.isNone then .error .numberTooLarge else .ok !n.isNaN

/-- A binary64 estimate is there unless it is NaN. -/
theorem isKnown_binary (x : Binary64) : (x : Value).isKnown = .ok !x.isNaN := rfl

/-- The sum of two amounts. -/
def plus (a b : Value) : Except Fault Value := do
  ((← a.amount).add? (← b.amount)).elim (.error .numberTooLarge) fun n => .ok (number n)

/-- The difference of two amounts. -/
def minus (a b : Value) : Except Fault Value := do
  ((← a.amount).sub? (← b.amount)).elim (.error .numberTooLarge) fun n => .ok (number n)

/-- The binary64 number that is nearest to a value; what is no number goes to NaN. -/
def nearest (v : Value) : Binary64 := v.amount?.elim .nan Number.toBinary

/-- A value with a fixed count of places. -/
def fixed (places : Nat) (v : Value) : Except Fault String :=
  match v.amount? with
  | none => .error (.notFixed v.kind)
  | some n => (n.fixed? places).elim (.error .numberTooLarge) .ok

/-- The binary64 number that a figure of a list counts as: null is NaN, and a text is read as a
numeral. -/
def figure (v : Value) : Except Fault Binary64 :=
  match v with
  | null => .ok .nan
  | text t => t.number?.elim (.error (.notNumeral t)) .ok
  | v =>
    match v.amount? with
    | some n => n.toBinary?.elim (.error .numberTooLarge) .ok
    | none => .error (.notFigure v.kind)

end Value

end DeviceWarnings
