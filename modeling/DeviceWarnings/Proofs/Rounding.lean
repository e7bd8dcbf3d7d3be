import DeviceWarnings.Proofs.Order

/-!
# Rounding keeps to its side

Rounding does not carry a count of units across a magnitude of the format: what is at most such a
magnitude rounds to at most it, and what is at least it to at least it. The magnitude lies on
every coarser or equal spacing below it, so the two neighbours between which a count is rounded lie
on the same side. Hence a difference is at most its minuend, if the subtrahend is not negative; and
two differences in a row that reach a magnitude make up one that reaches it, although each of them
is rounded by itself.

A whole number is too large for the format from halfway between the greatest number of the format
and the ceiling on.
-/

namespace DeviceWarnings

namespace Binary64

theorem log2_le_log2 {m n : Nat} (h : m ≤ n) : m.log2 ≤ n.log2 := by
  by_cases hm : m = 0
  · simp [hm]
  · have hlow : 2 ^ m.log2 ≤ m := Nat.log2_self_le hm
    exact (Nat.le_log2 (by omega)).2 (Nat.le_trans hlow h)

theorem lt_one_shiftLeft_iff {units exponent : Nat} (h : units ≠ 0) :
    units < 1 <<< exponent ↔ units.log2 < exponent := by
  rw [Nat.one_shiftLeft, Nat.log2_lt h]

theorem one_shiftLeft_le_one_shiftLeft {m n : Nat} (h : m ≤ n) : 1 <<< m ≤ 1 <<< n := by
  rw [Nat.one_shiftLeft, Nat.one_shiftLeft]
  exact Nat.pow_le_pow_right (by decide) h

/-- The spacing of a lesser count divides the spacing of a greater one. -/
theorem spacing_dvd_spacing {m n : Nat} (h : m ≤ n) : spacing m ∣ spacing n := by
  rw [spacing_eq, spacing_eq, Nat.one_shiftLeft, Nat.one_shiftLeft]
  exact Nat.pow_dvd_pow 2 (Nat.sub_le_sub_right (log2_le_log2 h) 52)

/-- A count rounds to one of its neighbours on its spacing, and to the upper one only if it does
not lie on the spacing itself. -/
theorem nearest_cases (units : Nat) :
    nearest units 1 = units / spacing units * spacing units ∨
      nearest units 1 = (units / spacing units + 1) * spacing units ∧
        units % spacing units ≠ 0 := by
  have hs := spacing_pos units
  rw [nearest, Nat.div_one, Nat.one_mul, roundHalfEven]
  split
  · exact .inl rfl
  · exact .inr ⟨rfl, by omega⟩

/-- What is at most a magnitude of the format rounds to at most this magnitude. -/
theorem nearest_le_of_le {units bound : Nat} (hgrid : OnGrid bound) (h : units ≤ bound) :
    nearest units 1 ≤ bound := by
  have hs := spacing_pos units
  have hdvd : spacing units ∣ bound :=
    Nat.dvd_trans (spacing_dvd_spacing h) (Nat.dvd_of_mod_eq_zero hgrid.2)
  rcases nearest_cases units with hdown | ⟨hup, hbetween⟩
  · rw [hdown]
    exact Nat.le_trans (Nat.div_mul_le_self _ _) h
  · obtain ⟨k, hk⟩ := hdvd
    have hne : units ≠ bound := by
      intro heq
      exact hbetween (Nat.mod_eq_zero_of_dvd ⟨k, heq.trans hk⟩)
    have hlt : units / spacing units < k := by
      rw [Nat.div_lt_iff_lt_mul hs, Nat.mul_comm, ← hk]
      omega
    rw [hup, hk, Nat.mul_comm]
    exact Nat.mul_le_mul_left _ hlt

/-- Rounding does not fall below a multiple of the spacing that the count reaches. -/
theorem mul_spacing_le_nearest {k units : Nat} (h : k * spacing units ≤ units) :
    k * spacing units ≤ nearest units 1 := by
  have hk : k ≤ units / spacing units := (Nat.le_div_iff_mul_le (spacing_pos units)).2 h
  have hfloor : k * spacing units ≤ units / spacing units * spacing units :=
    Nat.mul_le_mul_right _ hk
  rcases nearest_cases units with hdown | ⟨hup, -⟩
  · omega
  · rw [Nat.add_mul] at hup
    omega

/-- Rounding keeps the leading bit of a count, or carries over it. -/
theorem leading_le_nearest {units : Nat} (h : units ≠ 0) :
    1 <<< units.log2 ≤ nearest units 1 := by
  obtain ⟨k, hk⟩ : spacing units ∣ 1 <<< units.log2 := by
    rw [spacing_eq, Nat.one_shiftLeft, Nat.one_shiftLeft]
    exact Nat.pow_dvd_pow 2 (Nat.sub_le _ _)
  have hlow : 1 <<< units.log2 ≤ units := by
    rw [Nat.one_shiftLeft]
    exact Nat.log2_self_le h
  rw [Nat.mul_comm] at hk
  rw [hk]
  exact mul_spacing_le_nearest (hk ▸ hlow)

/-- What is at least a magnitude of the format rounds to at least this magnitude. -/
theorem le_nearest_of_le {units bound : Nat} (hgrid : OnGrid bound) (h : bound ≤ units) :
    bound ≤ nearest units 1 := by
  by_cases hlog : bound.log2 = units.log2
  · have hspacing : spacing bound = spacing units := by rw [spacing_eq, spacing_eq, hlog]
    have hmul : bound / spacing units * spacing units = bound := by
      rw [← hspacing]
      exact Nat.div_mul_cancel (Nat.dvd_of_mod_eq_zero hgrid.2)
    rw [← hmul]
    exact mul_spacing_le_nearest (hmul.symm ▸ h)
  · by_cases hunits : units = 0
    · omega
    · have hlt : bound.log2 < units.log2 := Nat.lt_of_le_of_ne (log2_le_log2 h) hlog
      have hbound : bound < 1 <<< (bound.log2 + 1) := by
        rw [Nat.one_shiftLeft]
        exact Nat.lt_log2_self
      calc bound ≤ 1 <<< (bound.log2 + 1) := Nat.le_of_lt hbound
        _ ≤ 1 <<< units.log2 := one_shiftLeft_le_one_shiftLeft hlt
        _ ≤ nearest units 1 := leading_le_nearest hunits

/-! ## Differences -/

@[simp] theorem signed_false (units : Nat) : signed false units = units := rfl

@[simp] theorem signed_true (units : Nat) : signed true units = -units := rfl

theorem signed_not (negative : Bool) (units : Nat) :
    signed (!negative) units = -signed negative units := by
  cases negative <;> simp

theorem position_zero : (zero : Number).position? = some (.point 0) := rfl

/-- What is at least zero has a place at the zero or above it. -/
theorem le_of_zero_le {x : Number} (h : (zero : Number) ≤ x) :
    ∃ p, x.position? = some p ∧ .point 0 ≤ p := by
  obtain ⟨p, q, hp, hq, hpq⟩ := Number.le_iff.1 h
  obtain rfl : .point 0 = p := Option.some.inj (position_zero.symm.trans hp)
  exact ⟨q, hq, hpq⟩

/-- Below the ceiling a rounded magnitude has its place among the points. -/
theorem position_round {negative : Bool} {num den : Nat} (h : nearest num den < ceiling) :
    (round negative num den : Number).position? =
      some (.point (signed negative (nearest num den))) := by
  rw [round, dif_pos h]
  rfl

/-- A count of nothing rounds to a zero. -/
theorem position_ofUnits_zero (zeroNegative : Bool) :
    (ofUnits zeroNegative 0 : Number).position? = some (.point 0) := by
  have hnearest : nearest 0 1 = 0 := nearest_of_onGrid 0 (by decide)
  rw [ofUnits, if_pos rfl, position_round (by rw [hnearest]; decide), hnearest]
  cases zeroNegative <;> rfl

/-- A count that is at most a number of the format rounds to at most this number. -/
theorem ofUnits_le {zeroNegative negative : Bool} {units : Nat} {exact : Int}
    (hgrid : OnGrid units) (h : exact ≤ signed negative units) :
    (ofUnits zeroNegative exact : Number) ≤ finite negative units hgrid := by
  have hplace : (finite negative units hgrid : Number).position? =
      some (.point (signed negative units)) := rfl
  rw [Number.le_iff]
  by_cases hzero : exact = 0
  · subst hzero
    exact ⟨_, _, position_ofUnits_zero _, hplace, Position.point_le_point.2 h⟩
  · rw [ofUnits, if_neg hzero]
    by_cases hneg : exact < 0
    · rw [decide_eq_true hneg]
      by_cases hceiling : nearest exact.natAbs 1 < ceiling
      · refine ⟨_, _, position_round hceiling, hplace, ?_⟩
        rw [Position.point_le_point]
        cases negative with
        | false =>
          rw [signed_true, signed_false]
          omega
        | true =>
          rw [signed_true] at h
          rw [signed_true, signed_true]
          have hlow := le_nearest_of_le hgrid (show units ≤ exact.natAbs by omega)
          omega
      · rw [round, dif_neg hceiling]
        exact ⟨.bottom, _, rfl, hplace, Position.bottom_le _⟩
    · rw [decide_eq_false hneg]
      cases negative with
      | true =>
        rw [signed_true] at h
        omega
      | false =>
        rw [signed_false] at h
        have hhigh := nearest_le_of_le hgrid (show exact.natAbs ≤ units by omega)
        refine ⟨_, _, position_round (Nat.lt_of_le_of_lt hhigh hgrid.1), hplace, ?_⟩
        rw [Position.point_le_point, signed_false, signed_false]
        omega

/-- A count that is at least a magnitude of the format rounds to at least this magnitude. -/
theorem le_ofUnits {zeroNegative : Bool} {units : Nat} {exact : Int} (hgrid : OnGrid units)
    (h : (units : Int) ≤ exact) :
    (finite false units hgrid : Number) ≤ ofUnits zeroNegative exact := by
  have hplace : (finite false units hgrid : Number).position? = some (.point units) := rfl
  rw [Number.le_iff]
  by_cases hzero : exact = 0
  · subst hzero
    exact ⟨_, _, hplace, position_ofUnits_zero _, Position.point_le_point.2 h⟩
  · rw [ofUnits, if_neg hzero, decide_eq_false (show ¬exact < 0 by omega)]
    have hlow := le_nearest_of_le hgrid (show units ≤ exact.natAbs by omega)
    by_cases hceiling : nearest exact.natAbs 1 < ceiling
    · refine ⟨_, _, hplace, position_round hceiling, ?_⟩
      rw [Position.point_le_point, signed_false]
      omega
    · rw [round, dif_neg hceiling]
      exact ⟨_, .top, hplace, rfl, .inl rfl⟩

/-- Rounding does not carry a count over two magnitudes of the format. -/
theorem lt_of_le_ofUnits {zeroNegative : Bool} {lower upper : Nat} {exact : Int}
    (hlower : OnGrid lower) (hupper : OnGrid upper) (hlt : lower < upper)
    (h : (finite false upper hupper : Number) ≤ ofUnits zeroNegative exact) :
    (lower : Int) < exact := by
  by_contra hle
  have hdown : (ofUnits zeroNegative exact : Number) ≤ finite false lower hlower :=
    ofUnits_le hlower (by rw [signed_false]; omega)
  obtain ⟨p, q, hp, hq, hpq⟩ := Number.le_iff.1 (Number.le_trans h hdown)
  obtain rfl : .point (signed false upper) = p := Option.some.inj hp
  obtain rfl : .point (signed false lower) = q := Option.some.inj hq
  rw [Position.point_le_point, signed_false, signed_false] at hpq
  omega

/-- Two differences in a row that reach a magnitude of the format make up one that reaches it: each
is more than half of it before it is rounded. -/
theorem le_sub_of_le_sub {half : Nat} (hhalf : OnGrid half) (hgrid : OnGrid (2 * half))
    (hpos : 0 < half) {x y z : Binary64} (hx : x.isFinite = true) (hy : y.isFinite = true)
    (hz : z.isFinite = true) (hxy : (finite false (2 * half) hgrid : Number) ≤ (y - x : Binary64))
    (hyz : (finite false (2 * half) hgrid : Number) ≤ (z - y : Binary64)) :
    (finite false (2 * half) hgrid : Number) ≤ (z - x : Binary64) := by
  cases x with
  | finite s u hu =>
    cases y with
    | finite t v hv =>
      cases z with
      | finite r w hw =>
        have hfirst := lt_of_le_ofUnits hhalf hgrid (by omega) hxy
        have hsecond := lt_of_le_ofUnits hhalf hgrid (by omega) hyz
        rw [signed_not] at hfirst hsecond
        apply le_ofUnits hgrid
        rw [signed_not]
        omega
      | _ => cases hz
    | _ => cases hy
  | _ => cases hx

/-- The sum of a number and a finite one is a number. -/
theorem isNaN_add {x y : Binary64} (hx : x.isNaN = false) (hy : y.isFinite = true) :
    (x + y).isNaN = false := by
  cases x with
  | nan => cases hx
  | infinity s =>
    cases y with
    | finite t v hv => rfl
    | _ => cases hy
  | finite s u hu =>
    cases y with
    | finite t v hv =>
      have hround (negative : Bool) (num : Nat) : (round negative num 1).isNaN = false := by
        unfold round
        split <;> rfl
      change (ofUnits _ _).isNaN = false
      unfold ofUnits
      split
      · exact hround _ _
      · exact hround _ _
    | _ => cases hy

/-- The difference of two finite numbers is a number. -/
theorem isNaN_sub {x y : Binary64} (hx : x.isFinite = true) (hy : y.isFinite = true) :
    (x - y).isNaN = false := by
  have hnumber : x.isNaN = false := by cases x <;> first | rfl | cases hx
  have hneg : (-y).isFinite = true := by cases y <;> first | rfl | cases hy
  exact isNaN_add hnumber hneg

/-- The difference from a number that is not negative is at most the minuend, or NaN. -/
theorem sub_le_self {x y : Binary64} (hy : (zero : Number) ≤ y)
    (hnan : (x - y).isNaN = false) : ((x - y : Binary64) : Number) ≤ x := by
  cases x with
  | nan => cases hnan
  | infinity s =>
    cases y with
    | nan => cases hnan
    | infinity t =>
      change (add (infinity s) (infinity (!t))).isNaN = false at hnan
      change (add (infinity s) (infinity (!t)) : Number) ≤ _
      by_cases hsign : s = !t
      · rw [add, if_pos hsign]
        exact Number.le_refl rfl
      · rw [add, if_neg hsign] at hnan
        cases hnan
    | finite t v hv => exact Number.le_refl rfl
  | finite s u hu =>
    cases y with
    | nan => cases hnan
    | infinity t =>
      cases t with
      | true =>
        obtain ⟨p, hp, hle⟩ := le_of_zero_le hy
        obtain rfl : .bottom = p := Option.some.inj hp
        rcases hle with hlt | heq
        · cases hlt
        · cases heq
      | false => exact Number.le_iff.2 ⟨.bottom, _, rfl, rfl, Position.bottom_le _⟩
    | finite t v hv =>
      obtain ⟨p, hp, hle⟩ := le_of_zero_le hy
      obtain rfl : .point (signed t v) = p := Option.some.inj hp
      rw [Position.point_le_point] at hle
      apply ofUnits_le hu
      rw [signed_not]
      omega

/-- What is below the difference from a number that is not negative does not reach the minuend. -/
theorem not_le_of_lt_sub {x y : Binary64} {n : Number}
    (hy : y.isNaN = false → (zero : Number) ≤ y) (h : n < (x - y : Binary64)) :
    ¬(x : Number) ≤ n := by
  have hnan : (x - y).isNaN = false := (Number.isNaN_of_lt h).2
  have hnumber : y.isNaN = false := by
    cases y with
    | nan => cases x <;> cases hnan
    | infinity negative => rfl
    | finite negative units hgrid => rfl
  intro hle
  exact Number.not_le_of_lt h (Number.le_trans (sub_le_self (hy hnumber) hnan) hle)

/-- The number nearest to a whole number that is not negative is not negative. -/
theorem zero_le_ofInt {n : Int} (h : 0 ≤ n) : (zero : Number) ≤ ofInt n := by
  have hunits : (0 : Int) ≤ n * one := Int.mul_nonneg h (Int.natCast_nonneg one)
  exact le_ofUnits (by decide) hunits

/-! ## Whole numbers that are too large -/

/-- The greatest magnitude of the format, in units. -/
def top : Nat := ceiling - 1 <<< 2045

/-- The first whole number that is too large for the format. It lies halfway between the greatest
number of the format and the ceiling, and a half goes to the even one, which is the ceiling. -/
def wholeCeiling : Nat := 1 <<< 1024 - 1 <<< 970

theorem onGrid_top : OnGrid top := by decide +kernel

/-- Above the greatest magnitude of the format rounding goes back to it within half a spacing, and
to the ceiling from there on. -/
theorem nearest_of_top_le {units : Nat} (hlow : top ≤ units) (hhigh : units < ceiling) :
    nearest units 1 = if 2 * (units - top) < 1 <<< 2045 then top else ceiling := by
  have hne : units ≠ 0 := by
    have hpos : 0 < top := by decide +kernel
    omega
  have hlog : units.log2 = 2097 := by
    have hbit : 1 <<< 2097 ≤ top := by decide +kernel
    have hge : ¬units < 1 <<< 2097 := by omega
    rw [lt_one_shiftLeft_iff hne] at hge
    rw [ceiling, lt_one_shiftLeft_iff hne] at hhigh
    omega
  have hspacing : spacing units = 1 <<< 2045 := by rw [spacing_eq, hlog]
  have htop : top = (1 <<< 53 - 1) * spacing units := by rw [hspacing]; decide +kernel
  have hceiling : ceiling = (1 <<< 53 - 1 + 1) * spacing units := by rw [hspacing]; decide +kernel
  have hdiv : units / spacing units = 1 <<< 53 - 1 :=
    Nat.div_eq_of_lt_le (htop ▸ hlow) (hceiling ▸ hhigh)
  have hmod : units % spacing units = units - top := by
    have hsplit := Nat.div_add_mod units (spacing units)
    rw [hdiv, Nat.mul_comm, ← htop] at hsplit
    omega
  rw [nearest, Nat.div_one, Nat.one_mul, roundHalfEven, hdiv, hmod, ← hspacing]
  by_cases hhalf : 2 * (units - top) < spacing units
  · rw [if_pos (.inl hhalf), if_pos hhalf, htop]
  · rw [if_neg (by omega), if_neg hhalf, hceiling]

/-- Rounding stays below the ceiling up to half a spacing above the greatest magnitude. -/
theorem nearest_lt_ceiling_iff {units : Nat} :
    nearest units 1 < ceiling ↔ units < wholeCeiling * one := by
  have hbound : wholeCeiling * one = top + 1 <<< 2044 := by decide +kernel
  have htop : top + 1 <<< 2045 = ceiling := by decide +kernel
  have hhalf : 2 * 1 <<< 2044 = 1 <<< 2045 := by decide +kernel
  rw [hbound]
  by_cases hlow : units ≤ top
  · have hnearest := nearest_le_of_le onGrid_top hlow
    have htopLt := onGrid_top.1
    omega
  · by_cases hhigh : units < ceiling
    · rw [nearest_of_top_le (by omega) hhigh]
      split <;> omega
    · have hne : units ≠ 0 := by omega
      have hbits : ¬units.log2 < 2098 := mt (lt_one_shiftLeft_iff hne).2 hhigh
      have hpow : ceiling ≤ 1 <<< units.log2 := one_shiftLeft_le_one_shiftLeft (by omega)
      have hnearest := leading_le_nearest hne
      omega

/-- A whole number has a finite nearest number exactly if it is below the first that is too
large. -/
theorem isFinite_ofInt_iff {n : Int} :
    (ofInt n).isFinite = true ↔ n.natAbs < wholeCeiling := by
  have hround (negative : Bool) (units : Nat) :
      (round negative units 1).isFinite = true ↔ nearest units 1 < ceiling := by
    unfold round
    split <;> simp [isFinite, *]
  have hmul : (n * one).natAbs < wholeCeiling * one ↔ n.natAbs < wholeCeiling := by
    rw [Int.natAbs_mul, Int.natAbs_natCast, Nat.mul_lt_mul_right one_pos]
  rw [← hmul, ← nearest_lt_ceiling_iff, ofInt, ofUnits]
  split
  · rename_i hzero
    rw [hround, hzero]
    rfl
  · rw [hround]

end Binary64

/-- A number has no nearest binary64 number exactly if it is a whole one that is too large. -/
theorem Number.toBinary?_eq_none {a : Number} :
    a.toBinary? = none ↔ ∃ n : Int, a = .integer n ∧ Binary64.wholeCeiling ≤ n.natAbs := by
  cases a with
  | binary x => simp [toBinary?]
  | integer n =>
    rw [toBinary?, ite_eq_right_iff]
    simp [Binary64.isFinite_ofInt_iff]

end DeviceWarnings
