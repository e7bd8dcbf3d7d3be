import DeviceWarnings.Battery.Bucket
import DeviceWarnings.Proofs.Decisions
import DeviceWarnings.Proofs.Rounding
import Mathlib.Order.Basic

/-!
# The buckets of a level

Whatever the warning levels and the close level are, if only they are numbers, every level that is a
number has a bucket, and a higher level is never in a lower bucket. Such values have places on the
number line, and the bucket of a level is known from its place among the others: it is full from the
close level on, in between from there to above the first warning level, and low by the last warning
level that is not below it.

If moreover each warning level lies below the one before it and all of them below the close level, a
level has reached all warning levels up to the last one that it has reached, so that its bucket says
how many they are.
-/

namespace DeviceWarnings

/-! ## Places -/

/-- A sum with a binary64 number is a binary64 sum. -/
theorem Number.add?_binary (x : Binary64) (b : Number) :
    add? (binary x) b = b.toBinary?.map fun y => binary (x + y) := by
  cases b with
  | integer n =>
    change ((integer n).toBinary?.bind fun y => some (binary (x + y))) = _
    cases (integer n).toBinary? <;> rfl
  | binary y => rfl

/-- Whether a value counts as a number that is not NaN. -/
def Value.IsReal (v : Value) : Prop := ∃ n, v.amount? = some n ∧ n.isNaN = false

/-- The place of such a value on the number line. -/
def Value.place (v : Value) : Position := (v.amount?.bind Number.position?).getD .bottom

namespace Value

variable {v w : Value}

theorem IsReal.ne_null (h : v.IsReal) : v ≠ .null := by
  rintro rfl
  obtain ⟨n, hn, -⟩ := h
  cases hn

/-- Such values compare as their places do. -/
theorem IsReal.holds (hv : v.IsReal) (hw : w.IsReal) (comparison : Comparison) :
    comparison.holds v w = .ok (match comparison with
      | .less => decide (v.place < w.place)
      | .atMost => decide (v.place ≤ w.place)
      | .greater => decide (w.place < v.place)
      | .atLeast => decide (w.place ≤ v.place)) := by
  obtain ⟨m, hm, hmnumber⟩ := hv
  obtain ⟨n, hn, hnnumber⟩ := hw
  obtain ⟨p, hp⟩ := Number.exists_position hmnumber
  obtain ⟨q, hq⟩ := Number.exists_position hnnumber
  rw [Comparison.holds_of_amount _ hm hn]
  cases comparison <;>
    simp [Comparison.ofNumbers, Number.le_iff, Number.lt_iff, place, hm, hn, hp, hq]

theorem IsReal.atMost_iff (hv : v.IsReal) (hw : w.IsReal) :
    Comparison.atMost.holds v w = .ok true ↔ v.place ≤ w.place := by
  rw [hv.holds hw, Except.ok.injEq, decide_eq_true_eq]

theorem IsReal.greater_iff (hv : v.IsReal) (hw : w.IsReal) :
    Comparison.greater.holds v w = .ok true ↔ w.place < v.place := by
  rw [hv.holds hw, Except.ok.injEq, decide_eq_true_eq]

theorem IsReal.atLeast_iff (hv : v.IsReal) (hw : w.IsReal) :
    Comparison.atLeast.holds v w = .ok true ↔ w.place ≤ v.place := by
  rw [hv.holds hw, Except.ok.injEq, decide_eq_true_eq]

/-- The usual offset above such a value lies another one. -/
theorem IsReal.plus_defaultCloseOffset (h : v.IsReal) :
    ∃ w, v.plus defaultCloseOffset = .ok w ∧ w.IsReal := by
  obtain ⟨n, hn, hnumber⟩ := h
  obtain ⟨sum, hsum, hreal⟩ : ∃ sum, n.add? (.integer 5) = some sum ∧ sum.isNaN = false := by
    cases n with
    | integer m => exact ⟨.integer (m + 5), rfl, rfl⟩
    | binary x =>
      obtain ⟨y, hy, hfinite⟩ : ∃ y, Number.toBinary? (.integer 5) = some y ∧ y.isFinite = true :=
        ⟨Binary64.ofInt 5, by decide +kernel, by decide +kernel⟩
      refine ⟨.binary (x + y), ?_, Binary64.isNaN_add hnumber hfinite⟩
      rw [Number.add?_binary, hy]
      rfl
  refine ⟨.number sum, ?_, sum, rfl, hreal⟩
  rw [plus, amount, hn]
  change Option.elim (n.add? (.integer 5)) _ _ = _
  rw [hsum]
  rfl

end Value

/-- Whether a level has reached a warning level. -/
def Value.reaches (level w : Value) : Bool :=
  (Comparison.atMost.holds level w).toOption.getD false

theorem Value.reaches_eq_true {level w : Value} :
    level.reaches w = true ↔ Comparison.atMost.holds level w = .ok true := by
  rw [reaches]
  cases Comparison.atMost.holds level w with
  | error fault => exact iff_of_false nofun nofun
  | ok reached => simp [Except.toOption]

/-! ## The last place that is reached -/

/-- The last place of a list that is true, found among all of them, is true and is after all others
that are. -/
theorem getLast?_filter_range {reached : List Bool} {i : Nat}
    (h : ((List.range reached.length).filter fun j => reached.getD j false).getLast? = some i) :
    reached[i]? = some true ∧ ∀ j, i < j → reached[j]? ≠ some true := by
  obtain ⟨before, hsplit⟩ := List.getLast?_eq_some_iff.1 h
  have hmem (j : Nat) : j ∈ before ++ [i] ↔ reached[j]? = some true := by
    rw [← hsplit, List.mem_filter, List.mem_range, List.getD_eq_getElem?_getD]
    cases hj : reached[j]? with
    | none => simp
    | some b =>
      obtain ⟨hlt, -⟩ := List.getElem?_eq_some_iff.1 hj
      simp [hlt]
  have hsorted : (before ++ [i]).Pairwise (· < ·) := by
    rw [← hsplit]
    exact List.Pairwise.filter _ List.pairwise_lt_range
  refine ⟨(hmem i).1 (by simp), fun j hij hj => ?_⟩
  rcases List.mem_append.1 ((hmem j).2 hj) with hbefore | hsame
  · have hji : j < i := (List.pairwise_append.1 hsorted).2.2 j hbefore i List.mem_cons_self
    omega
  · have hji : j = i := List.mem_singleton.1 hsame
    omega

/-- Such a place is found if there is one. -/
theorem exists_getLast?_filter_range {reached : List Bool} {i : Nat} (h : reached[i]? = some true) :
    ∃ j, ((List.range reached.length).filter fun j => reached.getD j false).getLast? = some j := by
  rw [← Option.isSome_iff_exists, List.getLast?_isSome]
  refine List.ne_nil_of_mem (a := i) (List.mem_filter.2 ⟨?_, ?_⟩)
  · obtain ⟨hlt, -⟩ := List.getElem?_eq_some_iff.1 h
    exact List.mem_range.2 hlt
  · rw [List.getD_eq_getElem?_getD, h]
    rfl

/-! ## The bucket of a place -/

/-- Whether a place is in a bucket, among those of some warning levels and a close level. -/
inductive InBucket (levels : List Position) (close level : Position) : Int → Prop
  /-- A level that is not below the close level is full. -/
  | full (h : close ≤ level) : InBucket levels close level 1
  /-- A level below the close level and above the first warning level is in between. -/
  | between (hclose : level < close) (hfirst : ∀ first ∈ levels.head?, first < level) :
      InBucket levels close level 0
  /-- A level is low by the last warning level that it has reached. -/
  | low (i : Nat) (hclose : level < close) (hfirst : ∀ first ∈ levels.head?, level ≤ first)
      (hreached : ∃ q, levels[i]? = some q ∧ level ≤ q)
      (hlast : ∀ j q, i < j → levels[j]? = some q → q < level) :
      InBucket levels close level (-1 - i)

namespace InBucket

variable {levels : List Position} {close first p q r : Position} {b c : Int} {i j k : Nat}

theorem cases_eq (h : InBucket levels close p b) :
    b = 1 ∨ b = 0 ∨ ∃ i : Nat, i < levels.length ∧ b = -1 - i := by
  cases h with
  | full => exact .inl rfl
  | between => exact .inr (.inl rfl)
  | low i _ _ hreached =>
    obtain ⟨q, hq, -⟩ := hreached
    obtain ⟨hlt, -⟩ := List.getElem?_eq_some_iff.1 hq
    exact .inr (.inr ⟨i, hlt, rfl⟩)

theorem le_one (h : InBucket levels close p b) : b ≤ 1 := by
  cases h <;> omega

/-- What is in the full bucket is not below the close level. -/
theorem one_le_iff (h : InBucket levels close p b) : 1 ≤ b ↔ close ≤ p := by
  cases h with
  | full hfull => exact iff_of_true (by omega) hfull
  | between hclose => exact iff_of_false (by omega) (not_le_of_gt hclose)
  | low i hclose => exact iff_of_false (by omega) (not_le_of_gt hclose)

/-- A higher place is in no lower bucket. -/
theorem mono (h : InBucket levels close p b) (hhigher : InBucket levels close q c) (hle : p ≤ q) :
    b ≤ c := by
  cases hhigher with
  | full => exact h.le_one
  | between hclose =>
    have hb : ¬1 ≤ b := by
      rw [h.one_le_iff]
      exact not_le_of_gt (lt_of_le_of_lt hle hclose)
    omega
  | low j hclose hfirst hreached =>
    obtain ⟨r, hr, hqr⟩ := hreached
    cases h with
    | full hfull => exact absurd (le_trans hfull hle) (not_le_of_gt hclose)
    | between _ habove =>
      cases levels with
      | nil => cases hr
      | cons first rest =>
        exact absurd (lt_of_lt_of_le (habove first rfl) hle) (not_lt_of_ge (hfirst first rfl))
    | low i _ _ _ hlast =>
      -- What the higher place has reached the lower one has reached, too.
      have hij : ¬i < j := fun hlt => absurd (le_trans hle hqr) (not_le_of_gt (hlast j r hlt hr))
      omega

section Descending

variable (hdescending : levels.Pairwise (· > ·))
include hdescending

theorem getElem?_le (hij : i ≤ j) (hq : levels[i]? = some q) (hr : levels[j]? = some r) :
    r ≤ q := by
  obtain ⟨hi, rfl⟩ := List.getElem?_eq_some_iff.1 hq
  obtain ⟨hj, rfl⟩ := List.getElem?_eq_some_iff.1 hr
  rcases Nat.lt_or_eq_of_le hij with hlt | rfl
  · exact le_of_lt (List.pairwise_iff_getElem.1 hdescending i j hi hj hlt)
  · exact le_rfl

/-- A level is in the bucket of a warning level, or in a lower one, exactly if it has reached it. -/
theorem le_iff (h : InBucket levels close p b) (hfirst : levels.head? = some first)
    (hclose : first < close) (hq : levels[i]? = some q) : b ≤ -1 - i ↔ p ≤ q := by
  have hqfirst : q ≤ first := by
    refine getElem?_le hdescending (Nat.zero_le i) ?_ hq
    rwa [← List.head?_eq_getElem?]
  cases h with
  | full hfull =>
    have hqp : q < p := lt_of_lt_of_le (lt_of_le_of_lt hqfirst hclose) hfull
    exact iff_of_false (by omega) (not_le_of_gt hqp)
  | between _ habove =>
    have hqp : q < p := lt_of_le_of_lt hqfirst (habove first hfirst)
    exact iff_of_false (by omega) (not_le_of_gt hqp)
  | low k _ _ hreached hlast =>
    obtain ⟨r, hr, hpr⟩ := hreached
    constructor
    · intro hle
      exact le_trans hpr (getElem?_le hdescending (by omega) hq hr)
    · intro hpq
      have hki : ¬k < i := fun hlt => absurd hpq (not_le_of_gt (hlast i q hlt hq))
      omega

/-- The warning levels that are reached are those up to the last one. -/
theorem countP_of_last (hr : levels[k]? = some r) (hreached : p ≤ r)
    (hlast : ∀ j q, k < j → levels[j]? = some q → q < p) :
    levels.countP (fun q => decide (p ≤ q)) = k + 1 := by
  obtain ⟨hk, -⟩ := List.getElem?_eq_some_iff.1 hr
  have hlength : (levels.take (k + 1)).length = k + 1 := by
    rw [List.length_take]
    omega
  have hupto : (levels.take (k + 1)).countP (fun q => decide (p ≤ q)) =
      (levels.take (k + 1)).length := by
    refine List.countP_eq_length.2 fun q hq => decide_eq_true ?_
    obtain ⟨j, hj⟩ := List.mem_iff_getElem?.1 hq
    rw [List.getElem?_take] at hj
    split at hj
    case isTrue hlt => exact le_trans hreached (getElem?_le hdescending (by omega) hj hr)
    case isFalse => cases hj
  have hafter : (levels.drop (k + 1)).countP (fun q => decide (p ≤ q)) = 0 := by
    refine List.countP_eq_zero.2 fun q hq => ?_
    obtain ⟨j, hj⟩ := List.mem_iff_getElem?.1 hq
    rw [List.getElem?_drop] at hj
    simpa using hlast (k + 1 + j) q (by omega) hj
  rw [← List.take_append_drop (k + 1) levels, List.countP_append, hupto, hafter,
    hlength]

/-- A level that has reached the first warning level is in the bucket of how many it has reached. -/
theorem eq_neg_countP (h : InBucket levels close p b) (hfirst : levels.head? = some first)
    (hclose : first < close) (hle : p ≤ first) :
    b = -(levels.countP fun q => decide (p ≤ q) : Int) := by
  cases h with
  | full hfull => exact absurd (le_trans hfull hle) (not_le_of_gt hclose)
  | between _ habove => exact absurd hle (not_le_of_gt (habove first hfirst))
  | low k _ _ hreached hlast =>
    obtain ⟨r, hr, hpr⟩ := hreached
    rw [countP_of_last hdescending hr hpr hlast]
    omega

end Descending

end InBucket

section Values

variable {levels : List Value} {level first close top : Value} {rest : List Value}

/-- What warning levels a level has reached is known from their places. -/
theorem mapM_holds_atMost (hlevels : ∀ w ∈ levels, w.IsReal) (hlevel : level.IsReal) :
    levels.mapM (Comparison.atMost.holds level) =
      .ok ((levels.map Value.place).map fun q => decide (level.place ≤ q)) := by
  induction levels with
  | nil => rfl
  | cons w rest ih =>
    rw [List.mapM_cons, hlevel.holds (hlevels w List.mem_cons_self),
      ih fun v hv => hlevels v (List.mem_cons_of_mem w hv)]
    rfl

/-- Among warning levels one of which is reached there is a last one that is. -/
theorem deepestLevel?_of_reached {p : Position} {k : Nat} (hlevels : ∀ w ∈ levels, w.IsReal)
    (hlevel : level.IsReal) (hp : (levels.map Value.place)[k]? = some p)
    (hreached : level.place ≤ p) :
    ∃ i, deepestLevel? levels level = .ok (some i) ∧
      (∃ q, (levels.map Value.place)[i]? = some q ∧ level.place ≤ q) ∧
      ∀ j q, i < j → (levels.map Value.place)[j]? = some q → q < level.place := by
  -- Only the places matter from here on.
  have hmap := mapM_holds_atMost hlevels hlevel
  generalize levels.map Value.place = places at hmap hp ⊢
  have hget (j : Nat) : (places.map fun q => decide (level.place ≤ q))[j]? = some true ↔
      ∃ q, places[j]? = some q ∧ level.place ≤ q := by
    simp
  obtain ⟨i, hi⟩ := exists_getLast?_filter_range ((hget k).2 ⟨p, hp, hreached⟩)
  obtain ⟨hthis, hlater⟩ := getLast?_filter_range hi
  refine ⟨i, ?_, (hget i).1 hthis, fun j q hij hq => ?_⟩
  · rw [deepestLevel?, hmap]
    exact congrArg Except.ok hi
  · exact lt_of_not_ge fun hle => hlater j hij ((hget j).2 ⟨q, hq, hle⟩)

/-- The close level: the usual offset above the first warning level, unless it is given. -/
def closeLevel (first close : Value) : Except Fault Value :=
  if close = .null then first.plus defaultCloseOffset else pure close

theorem exists_closeLevel (hfirst : first.IsReal) (hclose : close = .null ∨ close.IsReal) :
    ∃ top, closeLevel first close = .ok top ∧ top.IsReal := by
  by_cases hnone : close = .null
  · rw [closeLevel, if_pos hnone]
    exact hfirst.plus_defaultCloseOffset
  · rw [closeLevel, if_neg hnone]
    exact ⟨close, rfl, hclose.resolve_left hnone⟩

/-- A close level acts in the same way whether it is given or not. -/
theorem bucketOf_closeLevel (htop : top ≠ .null) (h : closeLevel first close = .ok top) :
    bucketOf level (first :: rest) close = bucketOf level (first :: rest) top := by
  by_cases hnone : close = .null
  · rw [closeLevel, if_pos hnone] at h
    rw [bucketOf, bucketOf, if_pos hnone, if_neg htop, h]
    rfl
  · rw [closeLevel, if_neg hnone] at h
    rw [Except.ok.inj h]

/-- A level that is a number has a bucket, which is that of its place. -/
theorem bucketOf_of_isReal (hlevels : ∀ w ∈ first :: rest, w.IsReal) (hlevel : level.IsReal)
    (hclose : closeLevel first close = .ok top) (htop : top.IsReal) :
    ∃ b, bucketOf level (first :: rest) close = .ok b ∧
      InBucket ((first :: rest).map Value.place) top.place level.place b := by
  rw [bucketOf_closeLevel htop.ne_null hclose, bucketOf, if_neg htop.ne_null, pure_bind]
  dsimp only
  rw [hlevel.holds htop, hlevel.holds (hlevels first List.mem_cons_self)]
  rcases le_or_gt top.place level.place with hfull | hbelow
  · rw [decide_eq_true hfull]
    exact ⟨1, rfl, .full hfull⟩
  rw [decide_eq_false (not_le_of_gt hbelow)]
  rcases lt_or_ge first.place level.place with habove | hreached
  · rw [decide_eq_true habove]
    refine ⟨0, rfl, .between hbelow fun place hplace => ?_⟩
    exact Option.some.inj hplace ▸ habove
  · obtain ⟨i, hi, hthis, hlast⟩ :=
      deepestLevel?_of_reached (k := 0) hlevels hlevel rfl hreached
    rw [decide_eq_false (not_lt_of_ge hreached), hi]
    refine ⟨-1 - i, rfl, .low i hbelow (fun place hplace => ?_) hthis hlast⟩
    exact Option.some.inj hplace ▸ hreached

/-- Whatever the warning levels and the close level are, every level has a bucket, and a higher
level is in no lower one. If each warning level is below the one before it and the first below the
close level, a level is in the bucket of a warning level or a lower one exactly if it has reached
it, it is full exactly from the close level on, and from the first warning level down its bucket is
how many warning levels it has reached. -/
theorem bucketOf_levels (hlevels : levels ≠ []) (hreal : ∀ w ∈ levels, w.IsReal)
    (hclose : close = .null ∨ close.IsReal) :
    (∀ level : Value, level.IsReal → ∃ b, bucketOf level levels close = .ok b ∧
        (b = 1 ∨ b = 0 ∨ ∃ i : Nat, i < levels.length ∧ b = -1 - i)) ∧
      (∀ (level higher : Value) (b c : Int), level.IsReal → higher.IsReal →
        Comparison.atMost.holds level higher = .ok true →
        bucketOf level levels close = .ok b → bucketOf higher levels close = .ok c → b ≤ c) ∧
      ∃ top, closeLevel (levels.head hlevels) close = .ok top ∧
        (levels.Pairwise (fun v w => Comparison.greater.holds v w = .ok true) →
          Comparison.greater.holds top (levels.head hlevels) = .ok true →
          ∀ (level : Value) (b : Int), level.IsReal → bucketOf level levels close = .ok b →
            (∀ (i : Nat) (w : Value), levels[i]? = some w →
              (b ≤ -1 - i ↔ Comparison.atMost.holds level w = .ok true)) ∧
            (1 ≤ b ↔ Comparison.atLeast.holds level top = .ok true) ∧
            (Comparison.atMost.holds level (levels.head hlevels) = .ok true →
              b = -(levels.countP level.reaches : Int))) := by
  obtain ⟨first, rest, rfl⟩ := List.exists_cons_of_ne_nil hlevels
  have hfirst : first.IsReal := hreal first List.mem_cons_self
  obtain ⟨top, htop, htopreal⟩ := exists_closeLevel hfirst hclose
  have hspec (level : Value) (hlevel : level.IsReal) (b : Int)
      (hb : bucketOf level (first :: rest) close = .ok b) :
      InBucket ((first :: rest).map Value.place) top.place level.place b := by
    obtain ⟨c, hc, hin⟩ := bucketOf_of_isReal hreal hlevel htop htopreal
    exact Except.ok.inj (hc.symm.trans hb) ▸ hin
  refine ⟨fun level hlevel => ?_, fun level higher b c hlevel hhigher hle hb hc => ?_, top, htop,
    fun hdescending habove level b hlevel hb => ?_⟩
  · obtain ⟨b, hb, hin⟩ := bucketOf_of_isReal hreal hlevel htop htopreal
    have hcases := hin.cases_eq
    rw [List.length_map] at hcases
    exact ⟨b, hb, hcases⟩
  · exact (hspec level hlevel b hb).mono (hspec higher hhigher c hc)
      ((hlevel.atMost_iff hhigher).1 hle)
  have hin := hspec level hlevel b hb
  have hplaces : ((first :: rest).map Value.place).Pairwise (· > ·) :=
    List.pairwise_map.2 <| hdescending.imp_of_mem fun hv hw hgreater =>
      ((hreal _ hv).greater_iff (hreal _ hw)).1 hgreater
  have hbelow : first.place < top.place := (htopreal.greater_iff hfirst).1 habove
  refine ⟨fun i w hw => ?_, ?_, fun hreached => ?_⟩
  · have hplace : ((first :: rest).map Value.place)[i]? = some w.place := by
      rw [List.getElem?_map, hw]
      rfl
    rw [hin.le_iff hplaces rfl hbelow hplace,
      hlevel.atMost_iff (hreal w (List.mem_of_getElem? hw))]
  · rw [hin.one_le_iff, hlevel.atLeast_iff htopreal]
  · rw [hin.eq_neg_countP hplaces rfl hbelow ((hlevel.atMost_iff hfirst).1 hreached),
      List.countP_map]
    congr 2
    refine List.countP_congr fun w hw => ?_
    rw [Value.reaches_eq_true, hlevel.atMost_iff (hreal w hw)]
    exact decide_eq_true_iff

/-- A level of 12 percent has reached two of the warning levels 20, 15 and 5, which is its bucket,
and one of 18 percent is in no lower one. -/
theorem bucketOf_levels_twelve :
    let levels : List Value := [20, 15, 5]
    ∃ b c, bucketOf 12 levels = .ok b ∧ bucketOf 18 levels = .ok c ∧ b ≤ c ∧
      b = -(levels.countP (Value.reaches 12) : Int) := by
  intro levels
  have hreal : ∀ w ∈ levels, w.IsReal := by
    intro w hw
    have hcases : w = 20 ∨ w = 15 ∨ w = 5 := by simpa [levels] using hw
    rcases hcases with rfl | rfl | rfl <;> exact ⟨_, rfl, rfl⟩
  have htwelve : Value.IsReal 12 := ⟨_, rfl, rfl⟩
  have heighteen : Value.IsReal 18 := ⟨_, rfl, rfl⟩
  obtain ⟨hbucket, hmono, top, htop, hdescending⟩ :=
    @bucketOf_levels levels .null (by decide) hreal (.inl rfl)
  obtain ⟨b, hb, -⟩ := hbucket 12 htwelve
  obtain ⟨c, hc, -⟩ := hbucket 18 heighteen
  obtain rfl : 25 = top := by
    have hfive : closeLevel (levels.head (by decide)) .null = .ok 25 := by decide +kernel
    exact Except.ok.inj (hfive.symm.trans htop)
  obtain ⟨-, -, hcount⟩ := hdescending (by decide +kernel) (by decide +kernel) 12 b htwelve hb
  exact ⟨b, c, hb, hc, hmono 12 18 b c htwelve heighteen (by decide +kernel) hb hc,
    hcount (by decide +kernel)⟩

end Values

end DeviceWarnings
