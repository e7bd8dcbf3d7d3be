import DeviceWarnings.Value.Amount
import Mathlib.Order.Defs.LinearOrder

/-!
# The order of numbers and values

Places on the number line are in a linear order, in which numbers that are not NaN are compared.
The order also says what is left of a number without its fraction. For any two values that compare
at all, being greater excludes being at most as great. The converse needs that neither is NaN.
-/

namespace DeviceWarnings

namespace Position

theorem lt_iff_before {p q : Position} : p < q ↔ p.before q = true := Iff.rfl

theorem le_iff_lt_or_eq {p q : Position} : p ≤ q ↔ p < q ∨ p = q := Iff.rfl

theorem not_lt_self (p : Position) : ¬p < p := by
  cases p <;> simp [lt_iff_before, before]

theorem lt_trans {p q r : Position} (hpq : p < q) (hqr : q < r) : p < r := by
  rw [lt_iff_before] at hpq hqr ⊢
  cases p <;> cases q <;> cases r <;> simp_all [before]
  omega

theorem lt_or_eq_or_gt (p q : Position) : p < q ∨ p = q ∨ q < p := by
  cases p <;> cases q <;> simp [lt_iff_before, before]
  omega

/-- The places on the line are in a linear order. -/
instance : LinearOrder Position where
  le_refl p := .inr rfl
  le_trans p q r hpq hqr := by
    rcases hpq with hpq | rfl
    · rcases hqr with hqr | rfl
      · exact .inl (lt_trans hpq hqr)
      · exact .inl hpq
    · exact hqr
  lt_iff_le_not_ge p q := by
    constructor
    · intro hpq
      refine ⟨.inl hpq, ?_⟩
      rintro (hqp | rfl)
      · exact not_lt_self p (lt_trans hpq hqp)
      · exact not_lt_self q hpq
    · rintro ⟨hpq | rfl, hqp⟩
      · exact hpq
      · exact absurd (.inr rfl) hqp
  le_antisymm p q hpq hqp := by
    rcases hpq with hpq | rfl
    · rcases hqp with hqp | rfl
      · exact absurd (lt_trans hpq hqp) (not_lt_self p)
      · rfl
    · rfl
  le_total p q := by
    rcases lt_or_eq_or_gt p q with h | rfl | h
    · exact .inl (.inl h)
    · exact .inl (.inr rfl)
    · exact .inr (.inl h)
  toDecidableLE := inferInstance

theorem point_le_point {m n : Int} : point m ≤ point n ↔ m ≤ n := by
  rw [le_iff_lt_or_eq, lt_iff_before, before, decide_eq_true_eq, point.injEq]
  omega

theorem bottom_le (p : Position) : bottom ≤ p := by
  cases p with
  | bottom => exact le_refl _
  | point units => exact .inl rfl
  | top => exact .inl rfl

end Position

namespace Number

variable {a b c : Number}

/-- A number is below another one exactly if its place is. -/
theorem lt_iff : a < b ↔ ∃ p q, a.position? = some p ∧ b.position? = some q ∧ p < q := by
  change related _ a b = true ↔ _
  unfold related
  cases a.position? <;> cases b.position? <;> simp

/-- A number is at most another one exactly if its place is. -/
theorem le_iff : a ≤ b ↔ ∃ p q, a.position? = some p ∧ b.position? = some q ∧ p ≤ q := by
  change related _ a b = true ↔ _
  unfold related
  cases a.position? <;> cases b.position? <;> simp

/-- Every number but NaN has a place on the line. -/
theorem exists_position (h : a.isNaN = false) : ∃ p, a.position? = some p := by
  cases a with
  | integer n => exact ⟨_, rfl⟩
  | binary x =>
    cases x with
    | nan => simp [isNaN, Binary64.isNaN] at h
    | infinity negative => exact ⟨_, rfl⟩
    | finite negative units hgrid => exact ⟨_, rfl⟩

/-- What has a place on the line is not NaN. -/
theorem isNaN_of_position {p : Position} (h : a.position? = some p) : a.isNaN = false := by
  cases a with
  | integer n => rfl
  | binary x => cases x <;> first | rfl | simp [position?] at h

/-- NaN is not below anything, nor above. -/
theorem isNaN_of_lt (h : a < b) : a.isNaN = false ∧ b.isNaN = false := by
  obtain ⟨p, q, hp, hq, -⟩ := lt_iff.1 h
  exact ⟨isNaN_of_position hp, isNaN_of_position hq⟩

theorem isNaN_of_le (h : a ≤ b) : a.isNaN = false ∧ b.isNaN = false := by
  obtain ⟨p, q, hp, hq, -⟩ := le_iff.1 h
  exact ⟨isNaN_of_position hp, isNaN_of_position hq⟩

protected theorem le_refl (h : a.isNaN = false) : a ≤ a := by
  obtain ⟨p, hp⟩ := exists_position h
  exact le_iff.2 ⟨p, p, hp, hp, le_rfl⟩

theorem not_le_of_lt (h : a < b) : ¬b ≤ a := by
  obtain ⟨p, q, hp, hq, hpq⟩ := lt_iff.1 h
  intro hle
  obtain ⟨q', p', hq', hp', hqp⟩ := le_iff.1 hle
  obtain rfl : p = p' := Option.some.inj (hp.symm.trans hp')
  obtain rfl : q = q' := Option.some.inj (hq.symm.trans hq')
  exact absurd hqp (not_le_of_gt hpq)

theorem not_lt_of_lt (h : a < b) : ¬b < a := by
  intro hba
  obtain ⟨q, p, hq, hp, hqp⟩ := lt_iff.1 hba
  exact not_le_of_lt h (le_iff.2 ⟨q, p, hq, hp, le_of_lt hqp⟩)

/-- Two numbers of which neither is NaN are in one order or in the other. -/
theorem lt_or_le (ha : a.isNaN = false) (hb : b.isNaN = false) : a < b ∨ b ≤ a := by
  obtain ⟨p, hp⟩ := exists_position ha
  obtain ⟨q, hq⟩ := exists_position hb
  rcases lt_or_ge p q with h | h
  · exact .inl (lt_iff.2 ⟨p, q, hp, hq, h⟩)
  · exact .inr (le_iff.2 ⟨q, p, hq, hp, h⟩)

/-- Two numbers of which neither is NaN are at most one another, in one way or the other. -/
protected theorem le_of_not_le (ha : a.isNaN = false) (hb : b.isNaN = false) (h : ¬a ≤ b) :
    b ≤ a := by
  obtain ⟨p, hp⟩ := exists_position ha
  obtain ⟨q, hq⟩ := exists_position hb
  rcases le_total p q with hle | hle
  · exact absurd (le_iff.2 ⟨p, q, hp, hq, hle⟩) h
  · exact le_iff.2 ⟨q, p, hq, hp, hle⟩

protected theorem le_trans (hab : a ≤ b) (hbc : b ≤ c) : a ≤ c := by
  obtain ⟨p, q, hp, hq, hpq⟩ := le_iff.1 hab
  obtain ⟨q', r, hq', hr, hqr⟩ := le_iff.1 hbc
  obtain rfl : q = q' := Option.some.inj (hq.symm.trans hq')
  exact le_iff.2 ⟨p, r, hp, hr, le_trans hpq hqr⟩

protected theorem lt_of_lt_of_le (hab : a < b) (hbc : b ≤ c) : a < c := by
  obtain ⟨p, q, hp, hq, hpq⟩ := lt_iff.1 hab
  obtain ⟨q', r, hq', hr, hqr⟩ := le_iff.1 hbc
  obtain rfl : q = q' := Option.some.inj (hq.symm.trans hq')
  exact lt_iff.2 ⟨p, r, hp, hr, lt_of_lt_of_le hpq hqr⟩

protected theorem lt_of_le_of_lt (hab : a ≤ b) (hbc : b < c) : a < c := by
  obtain ⟨p, q, hp, hq, hpq⟩ := le_iff.1 hab
  obtain ⟨q', r, hq', hr, hqr⟩ := lt_iff.1 hbc
  obtain rfl : q = q' := Option.some.inj (hq.symm.trans hq')
  exact lt_iff.2 ⟨p, r, hp, hr, lt_of_le_of_lt hpq hqr⟩

/-- Numbers that are at most one another have the same value. -/
theorem sameValue_of_le_of_le (hab : a ≤ b) (hba : b ≤ a) : a.sameValue b = true := by
  obtain ⟨p, q, hp, hq, hpq⟩ := le_iff.1 hab
  obtain ⟨q', p', hq', hp', hqp⟩ := le_iff.1 hba
  obtain rfl : p = p' := Option.some.inj (hp.symm.trans hp')
  obtain rfl : q = q' := Option.some.inj (hq.symm.trans hq')
  simp [sameValue, related, hp, hq, le_antisymm hpq hqp]

/-- Whole numbers are ordered by their values. -/
theorem integer_le_integer {m n : Int} : integer m ≤ integer n ↔ m ≤ n := by
  have hone : (0 : Int) < Binary64.one := Int.natCast_pos.2 Binary64.one_pos
  change decide (Position.point (m * Binary64.one) ≤ .point (n * Binary64.one)) = true ↔ _
  rw [decide_eq_true_eq, Position.point_le_point]
  exact Int.mul_le_mul_right hone

theorem integer_lt_integer {m n : Int} : integer m < integer n ↔ m < n := by
  have hone : (0 : Int) < Binary64.one := Int.natCast_pos.2 Binary64.one_pos
  change decide (Position.point (m * Binary64.one) < .point (n * Binary64.one)) = true ↔ _
  rw [decide_eq_true_eq, ← not_le, Position.point_le_point, Int.not_le]
  exact Int.mul_lt_mul_right hone

end Number

/-! ## Whole parts -/

/-- Whether a whole number is the part before the fraction of a number: the next one to it on the
side of zero. -/
def Number.HasWholePart (n : Number) (k : Int) : Prop :=
  (0 ≤ n → (k : Number) ≤ n ∧ n < ((k + 1 : Int) : Number)) ∧
    (n ≤ 0 → ((k - 1 : Int) : Number) < n ∧ n ≤ (k : Number))

namespace Number

variable {a b : Number} {i j k l : Int}

theorem le_iff_of_points (ha : a.position? = some (.point i)) (hb : b.position? = some (.point j)) :
    a ≤ b ↔ i ≤ j := by
  simp [le_iff, ha, hb, Position.point_le_point]

theorem lt_iff_of_points (ha : a.position? = some (.point i)) (hb : b.position? = some (.point j)) :
    a < b ↔ i < j := by
  simp [lt_iff, ha, hb, Position.lt_iff_before, Position.before]

/-- A number with a whole part is no NaN. -/
theorem isNaN_of_truncate? (h : a.truncate? = some k) : a.isNaN = false := by
  cases a with
  | integer n => rfl
  | binary x =>
    cases x with
    | nan => cases h
    | _ => rfl

/-- A number between whole numbers of units has the whole part that its units have. -/
theorem hasWholePart_of_point (ha : a.position? = some (.point i))
    (hup : 0 ≤ i → k * Binary64.one ≤ i ∧ i < (k + 1) * Binary64.one)
    (hdown : i ≤ 0 → (k - 1) * Binary64.one < i ∧ i ≤ k * Binary64.one) : a.HasWholePart k := by
  have hwhole (m : Int) : (m : Number).position? = some (.point (m * Binary64.one)) := rfl
  have hzero : (0 : Number).position? = some (.point 0) := by
    rw [← Int.zero_mul Binary64.one]
    exact hwhole 0
  rw [HasWholePart, le_iff_of_points hzero ha, le_iff_of_points ha hzero,
    le_iff_of_points (hwhole _) ha, le_iff_of_points ha (hwhole _),
    lt_iff_of_points (hwhole _) ha, lt_iff_of_points ha (hwhole _)]
  exact ⟨hup, hdown⟩

/-- Dropping the fraction leaves the whole part. -/
theorem hasWholePart_of_truncate? (h : a.truncate? = some k) : a.HasWholePart k := by
  have hone : (0 : Int) < Binary64.one := Int.natCast_pos.2 Binary64.one_pos
  cases a with
  | integer n =>
    obtain rfl : n = k := Option.some.inj h
    refine hasWholePart_of_point rfl (fun _ => ?_) fun _ => ?_ <;>
      simp only [Int.add_mul, Int.sub_mul, Int.one_mul] <;> omega
  | binary x =>
    cases x with
    | nan => cases h
    | infinity negative => cases h
    | finite negative units hgrid =>
      obtain rfl : Binary64.signed negative (units / Binary64.one) = k := Option.some.inj h
      -- The magnitude is so many ones and a rest below one.
      obtain ⟨whole, rest, hwhole, hrest, hunits⟩ : ∃ whole rest : Nat,
          units / Binary64.one = whole ∧ rest < Binary64.one ∧
            (units : Int) = whole * Binary64.one + rest := by
        refine ⟨_, units % Binary64.one, rfl, Nat.mod_lt _ Binary64.one_pos, ?_⟩
        exact_mod_cast (Nat.div_add_mod' units Binary64.one).symm
      have hones : 0 ≤ (whole : Int) * Binary64.one := Int.mul_nonneg (by omega) (by omega)
      rw [hwhole]
      cases negative with
      | false =>
        refine hasWholePart_of_point (i := units) rfl (fun _ => ?_) fun _ => ?_ <;>
          rw [Binary64.signed, if_neg Bool.false_ne_true, hunits] <;>
          simp only [Int.add_mul, Int.sub_mul, Int.one_mul] <;> omega
      | true =>
        refine hasWholePart_of_point (i := -units) rfl (fun _ => ?_) fun _ => ?_ <;>
          rw [Binary64.signed, if_pos rfl, hunits] <;>
          simp only [Int.add_mul, Int.sub_mul, Int.one_mul, Int.neg_mul] <;> omega

protected theorem le_of_lt (h : a < b) : a ≤ b := by
  obtain ⟨p, q, hp, hq, hpq⟩ := lt_iff.1 h
  exact le_iff.2 ⟨p, q, hp, hq, le_of_lt hpq⟩

/-- A higher number has no lower whole part. -/
theorem HasWholePart.mono (ha : a.HasWholePart k) (hb : b.HasWholePart l) (h : a ≤ b) : k ≤ l := by
  obtain ⟨hnumber, hnumber'⟩ := isNaN_of_le h
  have hzero : isNaN 0 = false := rfl
  rcases lt_or_le hzero hnumber with habove | hbelow
  · have hpos : 0 ≤ a := Number.le_of_lt habove
    have hlow : (k : Number) ≤ b := Number.le_trans (ha.1 hpos).1 h
    have hlt : k < l + 1 :=
      integer_lt_integer.1 (Number.lt_of_le_of_lt hlow (hb.1 (Number.le_trans hpos h)).2)
    omega
  rcases lt_or_le hzero hnumber' with habove' | hbelow'
  · -- The two are on the two sides of zero.
    have hk : k - 1 < 0 := integer_lt_integer.1 (Number.lt_of_lt_of_le (ha.2 hbelow).1 hbelow)
    have hpos : 0 ≤ b := Number.le_of_lt habove'
    have hl : 0 < l + 1 := integer_lt_integer.1 (Number.lt_of_le_of_lt hpos (hb.1 hpos).2)
    omega
  · have hhigh : a ≤ (l : Number) := Number.le_trans h (hb.2 hbelow').2
    have hlt : k - 1 < l := integer_lt_integer.1 (Number.lt_of_lt_of_le (ha.2 hbelow).1 hhigh)
    omega

end Number

namespace Comparison

/-- Among numbers, being greater excludes being at most as great. -/
theorem ofNumbers_atMost_of_greater {m n : Number} (h : greater.ofNumbers m n = true) :
    atMost.ofNumbers m n = false := by
  have hlt : n < m := of_decide_eq_true h
  exact decide_eq_false (Number.not_le_of_lt hlt)

/-- Among numbers, being greater excludes being less. -/
theorem ofNumbers_less_of_greater {m n : Number} (h : greater.ofNumbers m n = true) :
    less.ofNumbers m n = false := by
  have hlt : n < m := of_decide_eq_true h
  exact decide_eq_false (Number.not_lt_of_lt hlt)

/-- Among numbers that are not NaN, what is not greater is at most as great. -/
theorem ofNumbers_atMost_of_not_greater {m n : Number} (hm : m.isNaN = false)
    (hn : n.isNaN = false) (h : greater.ofNumbers m n = false) : atMost.ofNumbers m n = true := by
  have hnot : ¬n < m := of_decide_eq_false h
  rcases Number.lt_or_le hn hm with hlt | hle
  · exact absurd hlt hnot
  · exact decide_eq_true hle

/-- Whole numbers compare by their values. -/
theorem ofNumbers_integer (comparison : Comparison) (m n : Int) :
    comparison.ofNumbers (.integer m) (.integer n) =
      match comparison with
      | less => decide (m < n)
      | atMost => decide (m ≤ n)
      | greater => decide (n < m)
      | atLeast => decide (n ≤ m) := by
  cases comparison <;> simp [ofNumbers, Number.integer_le_integer, Number.integer_lt_integer]

/-- What compares as amounts compares as their numbers do. -/
theorem holds_of_amount (comparison : Comparison) {a b : Value} {m n : Number}
    (ha : a.amount? = some m) (hb : b.amount? = some n) :
    comparison.holds a b = .ok (comparison.ofNumbers m n) := by
  cases a <;> cases b <;> simp_all [holds, Value.amount?]

/-- Values that compare are two texts, two lists, or two amounts. -/
theorem holds_ok_cases {comparison : Comparison} {a b : Value} {result : Bool}
    (h : comparison.holds a b = .ok result) :
    (∃ s t, a = .text s ∧ b = .text t) ∨ (∃ xs ys, a = .list xs ∧ b = .list ys) ∨
      ∃ m n, a.amount? = some m ∧ b.amount? = some n := by
  cases a <;> cases b <;> simp_all [holds, Value.amount?]

/-- A value that is not NaN and not greater than a number is at most as great. -/
theorem holds_atMost_of_not_greater {a : Value} {n : Number} (ha : a ≠ Binary64.nan)
    (hn : n.isNaN = false) (h : greater.holds a n = .ok false) : atMost.holds a n = .ok true := by
  rcases holds_ok_cases h with ⟨s, t, -, ht⟩ | ⟨xs, ys, -, hys⟩ | ⟨m, n', hm, hn'⟩
  · cases ht
  · cases hys
  · obtain rfl : n = n' := Option.some.inj hn'
    have hnan : m.isNaN = false := by
      cases a with
      | flag b =>
        obtain rfl := Option.some.inj hm
        rfl
      | number k =>
        obtain rfl := Option.some.inj hm
        cases k with
        | integer i => rfl
        | binary x => cases x <;> first | rfl | contradiction
      | _ => cases hm
    rw [holds_of_amount _ hm hn'] at h ⊢
    rw [ofNumbers_atMost_of_not_greater hnan hn (Except.ok.inj h)]

/-- Where one of two lists is at its end, they compare by their lengths. -/
theorem holdsItems_of_end (comparison : Comparison) {xs ys : List Value}
    (h : xs = [] ∨ ys = []) :
    comparison.holdsItems xs ys =
      .ok (comparison.ofNumbers (.integer xs.length) (.integer ys.length)) := by
  cases xs with
  | nil => simp [holdsItems]
  | cons x xs =>
    obtain rfl : ys = [] := by simpa using h
    simp [holdsItems]

mutual

/-- Being greater excludes being at most as great. -/
theorem holds_atMost_of_greater (a b : Value) (h : greater.holds a b = .ok true) :
    atMost.holds a b = .ok false := by
  rcases holds_ok_cases h with ⟨s, t, rfl, rfl⟩ | ⟨xs, ys, rfl, rfl⟩ | ⟨m, n, ha, hb⟩
  · simpa [holds, ofTexts] using h
  · rw [holds] at h ⊢
    exact holdsItems_atMost_of_greater xs ys h
  · rw [holds_of_amount _ ha hb] at h ⊢
    rw [ofNumbers_atMost_of_greater (Except.ok.inj h)]

theorem holdsItems_atMost_of_greater (xs ys : List Value)
    (h : greater.holdsItems xs ys = .ok true) : atMost.holdsItems xs ys = .ok false := by
  cases xs with
  | nil =>
    rw [holdsItems_of_end _ (.inl rfl)] at h ⊢
    rw [ofNumbers_atMost_of_greater (Except.ok.inj h)]
  | cons x xs =>
    cases ys with
    | nil =>
      rw [holdsItems_of_end _ (.inr rfl)] at h ⊢
      rw [ofNumbers_atMost_of_greater (Except.ok.inj h)]
    | cons y ys =>
      rw [holdsItems] at h ⊢
      by_cases hsame : x.same y = true
      · rw [if_pos hsame] at h ⊢
        exact holdsItems_atMost_of_greater xs ys h
      · rw [if_neg hsame] at h ⊢
        exact holds_atMost_of_greater x y h

end

end Comparison

end DeviceWarnings
