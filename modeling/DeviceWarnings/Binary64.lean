/-!
# Binary64 numbers

The 64-bit binary floating-point format with exact operations that are rounded once, halves
going to the even neighbour. Every finite magnitude of the format is a whole number of *units*
of 2^-1074, so a finite number is a sign and such a count, and comparing two numbers is
comparing two integers.

A value carries the proof that its count lies on the grid of the format. Rounding produces
such counts only (`onGrid_nearest`), and a count on the grid rounds to itself
(`nearest_of_onGrid`). Payloads and signs of NaN are not represented: there is one NaN.

Sums, differences and quotients by a count are the exact result rounded once. An exact sum of
zero is positive unless both terms are negative zeros; opposite infinities have no sum.
-/

namespace DeviceWarnings

namespace Binary64

/-- The number one, counted in units of 2^-1074. -/
def one : Nat := 1 <<< 1074

/-- The first magnitude that is too large for the format, in units. -/
def ceiling : Nat := 1 <<< 2098

/-- The distance between neighbouring magnitudes around a count of units: 53 bits are kept,
and never less than a whole unit. -/
def spacing (units : Nat) : Nat := 1 <<< (units.log2 - 52)

/-- A magnitude of the format: below the ceiling, and a multiple of its own spacing. -/
def OnGrid (units : Nat) : Prop := units < ceiling ∧ units % spacing units = 0

instance (units : Nat) : Decidable (OnGrid units) := inferInstanceAs (Decidable (_ ∧ _))

/-- The whole number nearest to a quotient, a half going to the even one. -/
def roundHalfEven (num den : Nat) : Nat :=
  if 2 * (num % den) < den ∨ (2 * (num % den) = den ∧ num / den % 2 = 0) then num / den
  else num / den + 1

/-- The magnitude nearest to `num / den` units, a half going to the even one; it may be the
ceiling or more. -/
def nearest (num den : Nat) : Nat :=
  roundHalfEven num (den * spacing (num / den)) * spacing (num / den)

theorem spacing_eq (units : Nat) : spacing units = 1 <<< (units.log2 - 52) := rfl

theorem spacing_pos (units : Nat) : 0 < spacing units := Nat.shiftLeft_pos_iff.2 Nat.one_pos

theorem roundHalfEven_le (num den : Nat) : roundHalfEven num den ≤ num / den + 1 := by
  unfold roundHalfEven; split <;> omega

/-- A whole quotient rounds to itself. -/
theorem roundHalfEven_mul_left (k den : Nat) (h : 0 < den) :
    roundHalfEven (den * k) den = k := by
  simp [roundHalfEven, h]

/-- Powers of two multiply by adding their exponents. -/
theorem one_shiftLeft_add (m k : Nat) : 1 <<< (m + k) = (1 <<< m) * (1 <<< k) := by
  simp only [Nat.one_shiftLeft, Nat.pow_add]

/-- A shift adds that many bits. -/
theorem log2_shiftLeft (k e : Nat) (h : k ≠ 0) : (k <<< e).log2 = k.log2 + e := by
  have hp : 0 < 2 ^ e := Nat.two_pow_pos e
  have hne : k * 2 ^ e ≠ 0 := Nat.mul_ne_zero h (by omega)
  rw [Nat.shiftLeft_eq, Nat.log2_eq_iff hne]
  constructor
  · rw [Nat.pow_add]
    exact Nat.mul_le_mul_right _ (Nat.log2_self_le h)
  · have hlt : k < 2 ^ (k.log2 + 1) := Nat.lt_log2_self
    calc k * 2 ^ e < 2 ^ (k.log2 + 1) * 2 ^ e := Nat.mul_lt_mul_of_pos_right hlt hp
      _ = 2 ^ (k.log2 + e + 1) := by rw [← Nat.pow_add]; congr 1; omega

/-- At most 2^53 steps of a spacing stay on the grid of that spacing. -/
theorem shiftLeft_mod_spacing (k e : Nat) (h : k ≤ 1 <<< 53) :
    (k <<< e) % spacing (k <<< e) = 0 := by
  by_cases hk : k = 0
  · simp [hk]
  · apply Nat.mod_eq_zero_of_dvd
    rw [spacing_eq, log2_shiftLeft k e hk, Nat.one_shiftLeft, Nat.shiftLeft_eq]
    rw [Nat.one_shiftLeft] at h
    by_cases htop : k = 2 ^ 53
    · rw [htop, Nat.log2_two_pow, ← Nat.pow_add]
      exact Nat.pow_dvd_pow 2 (by omega)
    · have hlog : k.log2 < 53 := (Nat.log2_lt hk).2 (by omega)
      exact Nat.dvd_trans (Nat.pow_dvd_pow 2 (by omega)) (Nat.dvd_mul_left _ _)

theorem div_spacing_lt (units : Nat) : units / spacing units < 1 <<< 53 := by
  rw [spacing_eq, Nat.one_shiftLeft, Nat.one_shiftLeft,
    Nat.div_lt_iff_lt_mul (Nat.two_pow_pos _), ← Nat.pow_add]
  exact Nat.lt_of_lt_of_le Nat.lt_log2_self (Nat.pow_le_pow_right (by omega) (by omega))

/-- Rounding lands on the grid, unless it reaches the ceiling. -/
theorem onGrid_nearest (num den : Nat) (h : nearest num den < ceiling) :
    OnGrid (nearest num den) := by
  refine ⟨h, ?_⟩
  have hq : roundHalfEven num (den * spacing (num / den)) ≤ 1 <<< 53 := by
    have hle := roundHalfEven_le num (den * spacing (num / den))
    have hlt := div_spacing_lt (num / den)
    rw [Nat.div_div_eq_div_mul] at hlt
    omega
  have hs := shiftLeft_mod_spacing _ ((num / den).log2 - 52) hq
  rwa [Nat.shiftLeft_eq, ← Nat.one_shiftLeft, ← spacing_eq] at hs

/-- A positive count is at least as large as its own spacing. -/
theorem spacing_le (units : Nat) (h : units ≠ 0) : spacing units ≤ units := by
  rw [spacing_eq, Nat.one_shiftLeft]
  exact Nat.le_trans (Nat.pow_le_pow_right (by omega) (Nat.sub_le _ _)) (Nat.log2_self_le h)

/-- Rounding loses less than half of a count. -/
theorem le_two_mul_nearest (units : Nat) : units ≤ 2 * nearest units 1 := by
  by_cases hunits : units = 0
  · omega
  · have hs := spacing_pos units
    have hdown : units / spacing units ≤ roundHalfEven units (spacing units) := by
      unfold roundHalfEven; split <;> omega
    have hone : 1 * spacing units ≤ units / spacing units * spacing units :=
      Nat.mul_le_mul_right _ ((Nat.one_le_div_iff hs).2 (spacing_le units hunits))
    have hdiv := Nat.div_add_mod units (spacing units)
    have hmod := Nat.mod_lt units hs
    have hmul := Nat.mul_le_mul_right (spacing units) hdown
    unfold nearest
    rw [Nat.div_one, Nat.one_mul]
    rw [Nat.mul_comm (spacing units)] at hdiv
    omega

/-- A count on the grid rounds to itself. -/
theorem nearest_of_onGrid (units : Nat) (h : OnGrid units) : nearest units 1 = units := by
  have hs := spacing_pos units
  have hdvd := Nat.dvd_of_mod_eq_zero h.2
  unfold nearest
  rw [Nat.div_one, Nat.one_mul]
  have hr := roundHalfEven_mul_left (units / spacing units) (spacing units) hs
  rw [Nat.mul_div_cancel' hdvd] at hr
  rw [hr, Nat.div_mul_cancel hdvd]

end Binary64

/-- A number of the format: not a number, an infinity, or a sign with a magnitude in units. -/
inductive Binary64 where
  | nan
  | infinity (negative : Bool)
  | finite (negative : Bool) (units : Nat) (onGrid : Binary64.OnGrid units)
  deriving DecidableEq

namespace Binary64

/-- Whether the number is NaN. -/
def isNaN : Binary64 → Bool
  | nan => true
  | _ => false

/-- Whether the number is neither NaN nor an infinity. -/
def isFinite : Binary64 → Bool
  | finite .. => true
  | _ => false

/-- The number with this sign that is nearest to `num / den` units; from the ceiling on, an
infinity. -/
def round (negative : Bool) (num den : Nat) : Binary64 :=
  if h : nearest num den < ceiling then
    finite negative (nearest num den) (onGrid_nearest num den h)
  else infinity negative

/-- The number nearest to a whole number of units, the sign of a zero being given. -/
def ofUnits (zeroNegative : Bool) (units : Int) : Binary64 :=
  if units = 0 then round zeroNegative 0 1 else round (units < 0) units.natAbs 1

/-- Zero, with a plus sign. -/
def zero : Binary64 := round false 0 1

instance : Inhabited Binary64 := ⟨zero⟩

/-- The number nearest to an integer; an infinity when the integer is too large. -/
def ofInt (n : Int) : Binary64 := ofUnits false (n * one)

/-- The sign and magnitude of a finite number as one count of units. -/
def signed (negative : Bool) (units : Nat) : Int := if negative then -units else units

/-- The integer left when the fraction of a finite number is dropped. -/
def truncate? : Binary64 → Option Int
  | finite negative units _ => some (signed negative (units / one))
  | _ => none

theorem natAbs_signed (negative : Bool) (units : Nat) : (signed negative units).natAbs = units := by
  cases negative <;> simp [signed]

/-- The ceiling of the format is 2^1024. -/
theorem ceiling_eq : ceiling = (1 <<< 1024) * one := one_shiftLeft_add 1024 1074

theorem one_pos : 0 < one := Nat.shiftLeft_pos_iff.2 Nat.one_pos

/-- An integer that has a finite nearest number is below 2^1025. -/
theorem natAbs_lt_of_isFinite_ofInt {n : Int} (h : (ofInt n).isFinite = true) :
    n.natAbs < 1 <<< 1025 := by
  have hround (negative : Bool) (units : Nat) (hf : (round negative units 1).isFinite = true) :
      nearest units 1 < ceiling := by
    unfold round at hf
    split at hf
    · assumption
    · simp [isFinite] at hf
  unfold ofInt ofUnits at h
  split at h
  case isTrue hzero =>
    have hn : n = 0 := by
      rcases Int.mul_eq_zero.1 hzero with hn | hone
      · exact hn
      · exact absurd (Int.ofNat_eq_zero.1 hone) (Nat.ne_of_gt one_pos)
    rw [hn]
    exact Nat.shiftLeft_pos_iff.2 Nat.one_pos
  case isFalse =>
    have hlt := hround _ _ h
    have hle := le_two_mul_nearest (n * one).natAbs
    have hmul : n.natAbs * one < (1 <<< 1025) * one := by
      rw [Int.natAbs_mul, Int.natAbs_natCast] at hle hlt
      rw [ceiling_eq] at hlt
      have hdouble : 1 <<< 1025 = 2 * (1 <<< 1024) := one_shiftLeft_add 1 1024
      rw [hdouble, Nat.mul_assoc]
      omega
    exact Nat.lt_of_mul_lt_mul_right hmul

/-- The integer left of a finite number is below 2^1024. -/
theorem natAbs_lt_of_truncate? {x : Binary64} {n : Int} (h : x.truncate? = some n) :
    n.natAbs < 1 <<< 1024 := by
  cases x with
  | nan => simp [truncate?] at h
  | infinity negative => simp [truncate?] at h
  | finite negative units hgrid =>
    simp only [truncate?, Option.some.injEq] at h
    rw [← h, natAbs_signed, Nat.div_lt_iff_lt_mul one_pos, ← ceiling_eq]
    exact hgrid.1

/-! ## Arithmetic -/

/-- The number with the opposite sign. -/
def neg : Binary64 → Binary64
  | nan => nan
  | infinity negative => infinity (!negative)
  | finite negative units h => finite (!negative) units h

/-- The sum, rounded once. -/
def add : Binary64 → Binary64 → Binary64
  | nan, _ | _, nan => nan
  | infinity s, infinity t => if s = t then infinity s else nan
  | infinity s, finite .. | finite .., infinity s => infinity s
  | finite s u _, finite t v _ => ofUnits (s && t) (signed s u + signed t v)

/-- The difference, rounded once. -/
def sub (x y : Binary64) : Binary64 := x.add y.neg

/-- The quotient by a positive count, rounded once. -/
def divNat : Binary64 → Nat → Binary64
  | nan, _ => nan
  | infinity s, _ => infinity s
  | finite s u _, n => round s u n

instance : Neg Binary64 := ⟨neg⟩
instance : Add Binary64 := ⟨add⟩
instance : Sub Binary64 := ⟨sub⟩

end Binary64

end DeviceWarnings
