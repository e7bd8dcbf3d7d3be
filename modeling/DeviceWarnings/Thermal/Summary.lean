import DeviceWarnings.Value.Amount

/-!
# Summary of temperatures

Count, mean, median, least and greatest of the binary64 numbers in a table. The mean adds the
numbers pairwise: up to seven from left to right, up to 128 in eight interleaved sums, and longer
lists as two parts of which the first has about half the numbers, a multiple of eight. One NaN
makes all four figures NaN.
-/

namespace DeviceWarnings

namespace Binary64

/-- The negative zero, from which sums start. -/
def negZero : Binary64 := zero.neg

/-- The sum from left to right. -/
def sumFrom (start : Binary64) (xs : List Binary64) : Binary64 := xs.foldl (· + ·) start

/-- Adds further blocks of eight to eight sums; what does not fill a block is left over. -/
def addBlocks (sums xs : List Binary64) : List Binary64 × List Binary64 :=
  if 8 ≤ xs.length then addBlocks (List.zipWith (· + ·) sums (xs.take 8)) (xs.drop 8)
  else (sums, xs)
termination_by xs.length
decreasing_by simp only [List.length_drop]; omega

/-- The sum of eight sums in pairs. -/
def sumOfEight : List Binary64 → Binary64
  | [a, b, c, d, e, f, g, h] => ((a + b) + (c + d)) + ((e + f) + (g + h))
  | xs => sumFrom negZero xs

/-- The sum of at least eight numbers in eight interleaved sums. -/
def interleavedSum (xs : List Binary64) : Binary64 :=
  let (sums, rest) := addBlocks (xs.take 8) (xs.drop 8)
  sumFrom (sumOfEight sums) rest

/-- The pairwise sum. -/
def pairwiseSum (xs : List Binary64) : Binary64 :=
  if xs.length < 8 then sumFrom negZero xs
  else if xs.length ≤ 128 then interleavedSum xs
  else
    let half := xs.length / 2 - xs.length / 2 % 8
    pairwiseSum (xs.take half) + pairwiseSum (xs.drop half)
termination_by xs.length
decreasing_by all_goals simp only [List.length_take, List.length_drop]; omega

/-- The lesser of two numbers, the first when they are equal. -/
def least (x y : Binary64) : Binary64 := if (x : Number) ≤ y then x else y

/-- The greater of two numbers, the first when they are equal. -/
def greatest (x y : Binary64) : Binary64 := if (y : Number) ≤ x then x else y

/-- The middle of sorted numbers: the middle one, or half the sum of the middle two. -/
def middle (sorted : List Binary64) : Binary64 :=
  let half := sorted.length / 2
  if sorted.length % 2 = 1 then zero + sorted.getD half nan
  else (zero + (sorted.getD (half - 1) nan + sorted.getD half nan)).divNat 2

end Binary64

/-- The figures of a list of temperatures. -/
structure TemperatureSummary where
  count : Nat
  mean : Binary64
  median : Binary64
  min : Binary64
  max : Binary64
  deriving DecidableEq

namespace TemperatureSummary

/-- The summary of a first temperature and others. -/
def ofCons (x : Binary64) (rest : List Binary64) : TemperatureSummary :=
  let xs := x :: rest
  if xs.any Binary64.isNaN then ⟨xs.length, .nan, .nan, .nan, .nan⟩
  else {
    count := xs.length
    mean := (Binary64.zero + Binary64.pairwiseSum xs).divNat xs.length
    median := Binary64.middle (xs.mergeSort fun a b => (a : Number) ≤ b)
    min := rest.foldl Binary64.least x
    max := rest.foldl Binary64.greatest x }

/-- The summary of temperatures; there is none of no temperatures. -/
def ofList : List Binary64 → Option TemperatureSummary
  | [] => none
  | x :: rest => some (ofCons x rest)

/-- The summary of the figures that the cells of a table count as. -/
def ofValues (values : List Value) : Except Fault (Option TemperatureSummary) := do
  return ofList (← (← (Value.list values).tabulated).mapM Value.figure)

end TemperatureSummary

end DeviceWarnings
