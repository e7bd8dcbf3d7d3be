import DeviceWarnings.Proofs.Temperatures
import Mathlib.Data.List.DropRight
import Mathlib.Data.Set.List

/-!
# What a temperature history keeps and tells

A history is added to and cleared in any order. What it keeps is a window over the samples since it
was last cleared: missing readings are no samples, so they neither enter the window nor push
anything out of it. Leaving out old samples at each step comes to the same as leaving them out at
the end, so one induction over the changes gives the window in closed form.

Samples are numbers that are not NaN, so the order of the numbers is total on them. The least and
the greatest are found by going through the samples once; they are samples themselves and bound all
of them, and that determines their values, whatever the order of the samples is.
-/

namespace DeviceWarnings

/-! ## Changes -/

/-- A change of a history: a reading is added, or all samples are dropped. -/
inductive HistoryChange where
  | append (reading : Value)
  | clear

namespace HistoryChange

/-- Whether a change adds a reading. -/
def isAppend : HistoryChange → Bool
  | append _ => true
  | clear => false

/-- The sample that a change adds: its reading, if it is a temperature and not missing. -/
def sample? : HistoryChange → Option Value
  | append reading => if reading.isMissing = .ok false then some reading else none
  | clear => none

/-- The samples since the last time that all were dropped, oldest first. -/
def samples (changes : List HistoryChange) : List Value :=
  (changes.rtakeWhile isAppend).filterMap sample?

theorem samples_concat_append (changes : List HistoryChange) (reading : Value) :
    samples (changes ++ [append reading]) = samples changes ++ (append reading).sample?.toList := by
  cases hsample : (append reading).sample? <;>
    simp [samples, isAppend, List.rtakeWhile_concat, hsample]

theorem samples_concat_clear (changes : List HistoryChange) :
    samples (changes ++ [clear]) = [] := by
  simp [samples, isAppend]

/-- Every sample was added. -/
theorem of_mem_samples {changes : List HistoryChange} {v : Value} (h : v ∈ samples changes) :
    append v ∈ changes ∧ v.isMissing = .ok false := by
  obtain ⟨change, hchange, hsample⟩ := List.mem_filterMap.1 h
  have hmem : change ∈ changes := (List.rtakeWhile_suffix isAppend changes).subset hchange
  cases change with
  | clear => simp [sample?] at hsample
  | append reading =>
    simp only [sample?, Option.ite_none_right_eq_some, Option.some.injEq] at hsample
    obtain ⟨hpresent, rfl⟩ := hsample
    exact ⟨hmem, hpresent⟩

/-- A binary64 reading, or none at all, is no sample exactly if it is NaN or null. -/
theorem sample?_eq_none {reading : Value} (h : reading = .null ∨ ∃ x : Binary64, reading = x) :
    (append reading).sample? = none ↔ reading = .null ∨ reading = Binary64.nan := by
  rcases h with rfl | ⟨x, rfl⟩
  · simp [sample?, Value.isMissing]
  · cases x <;> simp [sample?, Value.isMissing_binary, Binary64.isNaN]

end HistoryChange

namespace TemperatureHistory

/-- The history after a change. A reading that is no temperature is refused and changes nothing. -/
def change (h : TemperatureHistory) : HistoryChange → TemperatureHistory
  | .append reading => (h.append reading).toOption.getD h
  | .clear => h.clear

/-- The history after some changes. -/
def changeAll (h : TemperatureHistory) (changes : List HistoryChange) : TemperatureHistory :=
  changes.foldl change h

variable {history : TemperatureHistory} {capacity : Option Nat} {window : List Value}

/-- A reading prolongs the window by its sample, if it has one. -/
theorem change_append (hwindow : history = ⟨capacity, keepLast capacity window⟩) (reading : Value) :
    history.change (.append reading) =
      ⟨capacity, keepLast capacity (window ++ (HistoryChange.append reading).sample?.toList)⟩ := by
  rw [change]
  cases hmissing : reading.isMissing with
  | error fault => simp [append, HistoryChange.sample?, hmissing, hwindow, bind, Except.bind,
      Except.toOption]
  | ok missing =>
    rw [append_of_window hwindow hmissing]
    cases missing <;> simp [HistoryChange.sample?, hmissing, Except.toOption]

/-- What a history keeps are the last of the samples since it was cleared. -/
theorem changeAll_eq (capacity : Option Nat) (changes : List HistoryChange) :
    ({ capacity } : TemperatureHistory).changeAll changes =
      ⟨capacity, keepLast capacity (HistoryChange.samples changes)⟩ := by
  induction changes using List.reverseRecOn with
  | nil => simp [changeAll, HistoryChange.samples]
  | append_singleton before last ih =>
    simp only [changeAll, List.foldl_append, List.foldl_cons, List.foldl_nil] at ih ⊢
    cases last with
    | append reading => rw [change_append ih, HistoryChange.samples_concat_append]
    | clear => rw [change, clear, ih, HistoryChange.samples_concat_clear, keepLast_nil]

end TemperatureHistory

/-! ## Least and greatest -/

/-- Picking one of two again and again ends with an item of the list that stands in a relation to
all items, provided that each pick does. -/
theorem foldl_pick {α : Type} {pick : α → α → α} (rel : α → α → Prop) {xs : List α}
    (htrans : ∀ x y z, rel x y → rel y z → rel x z) (hrefl : ∀ x ∈ xs, rel x x)
    (hpick : ∀ x ∈ xs, ∀ y ∈ xs,
      (pick x y = x ∨ pick x y = y) ∧ rel (pick x y) x ∧ rel (pick x y) y)
    {x : α} {rest : List α} (hx : x ∈ xs) (hrest : ∀ y ∈ rest, y ∈ xs) :
    rest.foldl pick x ∈ x :: rest ∧ ∀ y ∈ x :: rest, rel (rest.foldl pick x) y := by
  induction rest generalizing x with
  | nil => simpa using hrefl x hx
  | cons y rest ih =>
    have hy : y ∈ xs := hrest y (by simp)
    obtain ⟨hone, hfirst, hsecond⟩ := hpick x hx y hy
    have hmem : pick x y ∈ xs := by
      rcases hone with h | h <;> rw [h] <;> assumption
    obtain ⟨hpicked, hall⟩ := ih hmem fun z hz => hrest z (by simp [hz])
    have hbest : rel (rest.foldl pick (pick x y)) (pick x y) := hall _ (by simp)
    simp only [List.foldl_cons, List.mem_cons, forall_eq_or_imp]
    refine ⟨?_, htrans _ _ _ hbest hfirst, htrans _ _ _ hbest hsecond,
      fun z hz => hall z (by simp [hz])⟩
    rcases List.mem_cons.1 hpicked with hfound | hlater
    · rw [hfound]
      rcases hone with h | h <;> simp [h]
    · simp [hlater]

namespace Binary64

variable {x y : Binary64}

theorem least_spec (hx : x.isNaN = false) (hy : y.isNaN = false) :
    (least x y = x ∨ least x y = y) ∧ (least x y : Number) ≤ x ∧ (least x y : Number) ≤ y := by
  rw [least]
  by_cases h : (x : Number) ≤ y
  · rw [if_pos h]
    exact ⟨.inl rfl, Number.le_refl hx, h⟩
  · rw [if_neg h]
    exact ⟨.inr rfl, Number.le_of_not_le hx hy h, Number.le_refl hy⟩

theorem greatest_spec (hx : x.isNaN = false) (hy : y.isNaN = false) :
    (greatest x y = x ∨ greatest x y = y) ∧
      (x : Number) ≤ greatest x y ∧ (y : Number) ≤ greatest x y := by
  rw [greatest]
  by_cases h : (y : Number) ≤ x
  · rw [if_pos h]
    exact ⟨.inl rfl, Number.le_refl hx, h⟩
  · rw [if_neg h]
    exact ⟨.inr rfl, Number.le_of_not_le hy hx h, Number.le_refl hy⟩

end Binary64

namespace TemperatureSummary

/-- Whether a summary counts some temperatures and tells the least and the greatest of them. -/
structure Describes (s : TemperatureSummary) (xs : List Binary64) : Prop where
  count : s.count = xs.length
  min_mem : s.min ∈ xs
  max_mem : s.max ∈ xs
  min_le : ∀ x ∈ xs, (s.min : Number) ≤ x
  le_max : ∀ x ∈ xs, (x : Number) ≤ s.max

/-- Temperatures that are not NaN, if there are any, are described by their summary. -/
theorem describes_ofList {xs : List Binary64} (hsome : xs ≠ []) (h : ∀ x ∈ xs, x.isNaN = false) :
    ∃ s, ofList xs = some s ∧ s.Describes xs := by
  cases xs with
  | nil => exact absurd rfl hsome
  | cons x rest =>
    have hnumbers : ¬(x :: rest).any Binary64.isNaN = true := by
      simpa [List.any_eq_true] using h
    have hrest : ∀ y ∈ rest, y ∈ x :: rest := fun y hy => List.mem_cons_of_mem x hy
    obtain ⟨hmin, hbelow⟩ := foldl_pick (fun x y : Binary64 => (x : Number) ≤ y)
      (fun _ _ _ => Number.le_trans) (fun y hy => Number.le_refl (h y hy))
      (fun y hy z hz => Binary64.least_spec (h y hy) (h z hz)) List.mem_cons_self hrest
    obtain ⟨hmax, habove⟩ := foldl_pick (fun x y : Binary64 => (y : Number) ≤ x)
      (fun _ _ _ hxy hyz => Number.le_trans hyz hxy) (fun y hy => Number.le_refl (h y hy))
      (fun y hy z hz => Binary64.greatest_spec (h y hy) (h z hz)) List.mem_cons_self hrest
    refine ⟨ofCons x rest, rfl, ?_⟩
    rw [ofCons, if_neg hnumbers]
    exact ⟨rfl, hmin, hmax, hbelow, habove⟩

namespace Describes

variable {s t : TemperatureSummary} {xs ys : List Binary64}

/-- Neither the least nor the greatest is NaN. -/
theorem isNaN_eq_false (h : s.Describes xs) : s.min.isNaN = false ∧ s.max.isNaN = false :=
  ⟨(Number.isNaN_of_le (h.min_le _ h.min_mem)).1, (Number.isNaN_of_le (h.le_max _ h.max_mem)).1⟩

/-- The count, and the values of the least and the greatest, do not depend on the order. -/
theorem perm (hs : s.Describes xs) (ht : t.Describes ys) (h : ys.Perm xs) :
    t.count = s.count ∧ (t.min : Number).sameValue s.min = true ∧
      (t.max : Number).sameValue s.max = true := by
  refine ⟨?_, ?_, ?_⟩
  · rw [ht.count, hs.count, h.length_eq]
  · apply Number.sameValue_of_le_of_le
    · exact ht.min_le _ (h.mem_iff.2 hs.min_mem)
    · exact hs.min_le _ (h.mem_iff.1 ht.min_mem)
  · apply Number.sameValue_of_le_of_le
    · exact hs.le_max _ (h.mem_iff.1 ht.max_mem)
    · exact ht.le_max _ (h.mem_iff.2 hs.max_mem)

end Describes

end TemperatureSummary

/-! ## Windows of temperatures -/

/-- A sample that is a temperature is a number that counts as a figure, and not as NaN. -/
theorem Value.IsTemperature.sample {v : Value} (hv : v.IsTemperature)
    (hsample : v.isMissing = .ok false) :
    v.nearest.isNaN = false ∧ ∃ n : Number, v = n ∧ n.IsFigure := by
  rcases hv with rfl | ⟨n, rfl⟩
  · cases hsample
  · have hfigure : n.IsFigure := Number.isFigure_of_isMissing hsample
    refine ⟨?_, n, rfl, hfigure⟩
    cases n with
    | binary x => exact Except.ok.inj hsample
    | integer i =>
      have hfinite : (Binary64.ofInt i).isFinite = true := by
        by_contra hlarge
        simp [Number.IsFigure, Number.toBinary?, hlarge] at hfigure
      change (Binary64.ofInt i).isNaN = false
      cases h : Binary64.ofInt i <;> simp_all [Binary64.isFinite, Binary64.isNaN]

namespace TemperatureSummary

/-- Samples that are temperatures are summed up as their nearest binary64 numbers, none of which is
NaN. -/
theorem ofValues_samples {vs : List Value}
    (h : ∀ v ∈ vs, v.IsTemperature ∧ v.isMissing = .ok false) :
    ofValues vs = .ok (ofList (vs.map Value.nearest)) ∧
      ∀ x ∈ vs.map Value.nearest, x.isNaN = false := by
  have hnumbers : vs ∈ Set.range (List.map Value.number) := by
    rw [Set.range_list_map]
    intro v hv
    obtain ⟨-, n, rfl, -⟩ := (h v hv).1.sample (h v hv).2
    exact ⟨n, rfl⟩
  obtain ⟨ns, rfl⟩ := hnumbers
  constructor
  · have hfigures : ∀ n ∈ ns, n.IsFigure := fun n hn =>
      Number.isFigure_of_isMissing (h n (List.mem_map_of_mem hn)).2
    rw [TemperatureHistory.ofValues_figures hfigures, List.map_map]
    rfl
  · intro x hx
    obtain ⟨v, hv, rfl⟩ := List.mem_map.1 hx
    exact ((h v hv).1.sample (h v hv).2).1

/-- Samples that are temperatures have a summary unless there are none, and it describes them. -/
theorem describes_ofValues {vs : List Value} (hsome : vs ≠ [])
    (h : ∀ v ∈ vs, v.IsTemperature ∧ v.isMissing = .ok false) :
    ∃ s, ofValues vs = .ok (some s) ∧ s.Describes (vs.map Value.nearest) := by
  obtain ⟨hvalues, hnumbers⟩ := ofValues_samples h
  obtain ⟨s, hs, hdescribes⟩ := describes_ofList (by simpa using hsome) hnumbers
  exact ⟨s, by rw [hvalues, hs], hdescribes⟩

end TemperatureSummary

namespace TemperatureHistory

/-- No reading that is null or a binary64 number is refused. -/
theorem exists_append (history : TemperatureHistory) {reading : Value}
    (h : reading = .null ∨ ∃ x : Binary64, reading = x) :
    ∃ after, history.append reading = .ok after := by
  rcases h with rfl | ⟨x, rfl⟩
  · exact ⟨history, rfl⟩
  · rw [append, Value.isMissing_binary]
    cases x.isNaN <;> exact ⟨_, rfl⟩

/-- After any changes a history keeps the last samples since it was cleared, as many as its capacity
allows. No reading that is null or a binary64 number is refused, and among these null and NaN are no
samples. If all readings are temperatures, a summary is told exactly if anything is kept. It
describes what is kept: it counts it, and its least and greatest are of it, bound it, and are not
NaN. In whatever order the same samples are summed up, the count and both values are the same. -/
theorem window_of_changes (capacity : Option Nat) (changes : List HistoryChange) :
    let history := ({ capacity } : TemperatureHistory).changeAll changes
    let samples := HistoryChange.samples changes
    (history.samples <:+ samples ∧
      history.samples.length = capacity.elim samples.length (min · samples.length)) ∧
    (∀ reading : Value, (reading = .null ∨ ∃ x : Binary64, reading = x) →
      (∀ h : TemperatureHistory, ∃ after, h.append reading = .ok after) ∧
        ((HistoryChange.append reading).sample? = none ↔
          reading = .null ∨ reading = Binary64.nan)) ∧
    ((∀ reading, .append reading ∈ changes → reading.IsTemperature) →
      (history.summary = .ok none ↔ history.samples = []) ∧
      (history.samples ≠ [] → ∃ s, history.summary = .ok (some s) ∧
        s.Describes (history.samples.map Value.nearest) ∧
        s.min.isNaN = false ∧ s.max.isNaN = false ∧
        ((∀ v ∈ history.samples, ∃ x : Binary64, v = x) →
          (s.min : Value) ∈ history.samples ∧ (s.max : Value) ∈ history.samples) ∧
        ∀ others, others.Perm history.samples →
          ∃ t, TemperatureSummary.ofValues others = .ok (some t) ∧ t.count = s.count ∧
            (t.min : Number).sameValue s.min = true ∧
              (t.max : Number).sameValue s.max = true)) := by
  intro history samples
  have hkept : history.samples = keepLast capacity samples :=
    congrArg TemperatureHistory.samples (changeAll_eq capacity changes)
  have hsuffix : history.samples <:+ samples := hkept ▸ keepLast_suffix capacity samples
  refine ⟨⟨hsuffix, ?_⟩, fun reading hreading => ?_, fun htemperatures => ?_⟩
  · rw [hkept]
    cases capacity with
    | none => rfl
    | some n => exact length_keepLast n samples
  · exact ⟨fun h => h.exists_append hreading, HistoryChange.sample?_eq_none hreading⟩
  have hsamples : ∀ v ∈ history.samples, v.IsTemperature ∧ v.isMissing = .ok false := by
    intro v hv
    obtain ⟨hadded, hpresent⟩ := HistoryChange.of_mem_samples (hsuffix.subset hv)
    exact ⟨htemperatures v hadded, hpresent⟩
  refine ⟨⟨fun hnone => ?_, fun hempty => ?_⟩, fun hsome => ?_⟩
  · by_contra hsome
    obtain ⟨s, hs, -⟩ := TemperatureSummary.describes_ofValues hsome hsamples
    cases hnone.symm.trans hs
  · rw [summary, hempty]
    rfl
  obtain ⟨s, hs, hdescribes⟩ := TemperatureSummary.describes_ofValues hsome hsamples
  have hof {x : Binary64} (hx : x ∈ history.samples.map Value.nearest)
      (hbinary : ∀ v ∈ history.samples, ∃ y : Binary64, v = y) : (x : Value) ∈ history.samples := by
    obtain ⟨v, hv, rfl⟩ := List.mem_map.1 hx
    obtain ⟨y, rfl⟩ := hbinary v hv
    exact hv
  refine ⟨s, hs, hdescribes, hdescribes.isNaN_eq_false.1, hdescribes.isNaN_eq_false.2,
    fun hbinary => ⟨hof hdescribes.min_mem hbinary, hof hdescribes.max_mem hbinary⟩,
    fun others hperm => ?_⟩
  have hothers : others ≠ [] := by
    rintro rfl
    exact hsome hperm.nil_eq.symm
  obtain ⟨t, ht, hdescribed⟩ := TemperatureSummary.describes_ofValues hothers
    fun v hv => hsamples v (hperm.subset hv)
  exact ⟨t, ht, hdescribes.perm hdescribed (hperm.map Value.nearest)⟩

/-- The missing readings neither enter a window of two samples nor push anything out of it, and of
the zeros with either sign the one that comes first is told. -/
theorem window_of_changes_two :
    let changes : List HistoryChange := [.append 70, .clear, .append Binary64.zero, .append .null,
      .append Binary64.zero.neg, .append Binary64.nan]
    ∃ history s, ofCapacity 2 = .ok history ∧
      (history.changeAll changes).samples = [↑Binary64.zero, ↑Binary64.zero.neg] ∧
      (history.changeAll changes).summary = .ok (some s) ∧ s.count = 2 ∧ s.min = .zero ∧
      ∃ t, TemperatureSummary.ofValues [↑Binary64.zero.neg, ↑Binary64.zero] = .ok (some t) ∧
        (t.min : Number).sameValue s.min = true := by
  intro changes
  have hkept : (TemperatureHistory.changeAll { capacity := some 2 } changes).samples =
      [↑Binary64.zero, ↑Binary64.zero.neg] := by decide +kernel
  obtain ⟨-, -, hrange⟩ := window_of_changes (some 2) changes
  obtain ⟨-, htold⟩ := hrange (by
    intro reading hreading
    simp only [changes, List.mem_cons, HistoryChange.append.injEq, reduceCtorEq,
      List.not_mem_nil, or_false, false_or] at hreading
    rcases hreading with rfl | rfl | rfl | rfl | rfl
    · exact .inr ⟨_, rfl⟩
    · exact .inr ⟨_, rfl⟩
    · exact .inl rfl
    · exact .inr ⟨_, rfl⟩
    · exact .inr ⟨_, rfl⟩)
  obtain ⟨s, hs, hdescribes, -, -, -, hperm⟩ := htold (by rw [hkept]; simp)
  rw [hkept] at hdescribes hperm
  obtain ⟨t, ht, -, hmin, -⟩ := hperm _ (.swap _ _ [])
  refine ⟨{ capacity := some 2 }, s, by decide +kernel, hkept, hs, hdescribes.count, ?_, t, ht,
    hmin⟩
  have hleast : (TemperatureHistory.changeAll { capacity := some 2 } changes).summary.toOption.map
      (·.map TemperatureSummary.min) = some (some Binary64.zero) := by decide +kernel
  rw [hs] at hleast
  simpa [Except.toOption] using hleast

end TemperatureHistory

end DeviceWarnings
