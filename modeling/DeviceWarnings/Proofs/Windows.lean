import DeviceWarnings.Proofs.Hysteresis
import DeviceWarnings.Proofs.Statistics
import Mathlib.Data.List.Pairwise

/-!
# Windows of the statistics

Resets divide a run into windows. A window is closed by a reset, whose own sample it still holds,
and the last one is current. The engine keeps the samples of the current window, the last 125 of
them, and every closed window with samples has left one line, so that no sample stands in two lines.
One poll either prolongs the current window or closes it.

A reset is at least 3600 seconds after the one before. That this holds of any two resets does not
follow from the differences alone, since each of them is rounded by itself: two rounded differences
of 3600 seconds stand for more than 1800 seconds each, and together for a difference that is at
least 3600 seconds when it is rounded.
-/

namespace DeviceWarnings

/-! ## Windows -/

/-- A closed window: the ticks that did not reset the statistics, and the one that did. -/
structure Window where
  before : List Tick
  last : Tick

/-- The samples that ticks add, in order. -/
def samplesOf (ticks : List Tick) : List Value := ticks.filterMap fun t => t.readings.thermal.sample

namespace Window

/-- The ticks of a window. -/
def ticks (w : Window) : List Tick := w.before ++ [w.last]

/-- The clock at which a window was closed. -/
def clock (w : Window) : Binary64 := w.last.readings.thermal.clock

/-- The line that tells of a window, if there is anything to tell, with its clock. -/
def line? (w : Window) : Option (Binary64 × Text) :=
  (statisticsLine (keepLast (some temperatureCapacity) (samplesOf w.ticks))).map (w.clock, ·)

end Window

/-- Whether closed windows and a current one are divided by exactly the resets, the first of which
is counted from a given time. -/
def Divides : Binary64 → List Window → List Tick → Prop
  | since, [], current => ∀ t ∈ current, t.readings.thermal.resets since = false
  | since, w :: rest, current =>
    (∀ t ∈ w.before, t.readings.thermal.resets since = false) ∧
      w.last.readings.thermal.resets since = true ∧ Divides w.clock rest current

/-- The time of the last reset. -/
def lastReset (since : Binary64) (closed : List Window) : Binary64 :=
  closed.foldl (fun _ w => w.clock) since

namespace Divides

variable {since : Binary64} {closed : List Window} {current : List Tick} {t : Tick}

/-- A tick that does not reset prolongs the current window. -/
theorem concat (h : Divides since closed current)
    (ht : t.readings.thermal.resets (lastReset since closed) = false) :
    Divides since closed (current ++ [t]) := by
  induction closed generalizing since with
  | nil =>
    intro u hu
    rcases List.mem_append.1 hu with hold | hnew
    · exact h u hold
    · obtain rfl : u = t := List.mem_singleton.1 hnew
      exact ht
  | cons w rest ih => exact ⟨h.1, h.2.1, ih h.2.2 ht⟩

/-- A tick that resets closes the current window. -/
theorem close (h : Divides since closed current)
    (ht : t.readings.thermal.resets (lastReset since closed) = true) :
    Divides since (closed ++ [⟨current, t⟩]) [] := by
  induction closed generalizing since with
  | nil => exact ⟨h, ht, fun u hu => nomatch hu⟩
  | cons w rest ih => exact ⟨h.1, h.2.1, ih h.2.2 ht⟩

end Divides

theorem lastReset_concat (since : Binary64) (closed : List Window) (w : Window) :
    lastReset since (closed ++ [w]) = w.clock := by
  rw [lastReset, List.foldl_append]
  rfl

theorem samplesOf_concat (ticks : List Tick) (t : Tick) :
    samplesOf (ticks ++ [t]) = samplesOf ticks ++ t.readings.thermal.sample.toList := by
  rw [samplesOf, List.filterMap_append]
  cases hsample : t.readings.thermal.sample <;> simp [samplesOf, hsample]

/-! ## Distances -/

/-- Whether a time is finite and at least the statistics interval after another finite one. -/
def Spaced (earlier later : Binary64) : Prop :=
  earlier.isFinite = true ∧ later.isFinite = true ∧
    statisticsInterval ≤ (later - earlier : Binary64)

/-- The statistics interval as a magnitude of the format. -/
theorem statisticsInterval_eq :
    ∃ h : Binary64.OnGrid (2 * (1800 * Binary64.one)),
      statisticsInterval = Binary64.finite false (2 * (1800 * Binary64.one)) h :=
  ⟨by decide +kernel, by decide +kernel⟩

/-- Distances add up, in spite of the rounding. -/
theorem Spaced.trans {a b c : Binary64} (hab : Spaced a b) (hbc : Spaced b c) : Spaced a c := by
  obtain ⟨ha, hb, hfirst⟩ := hab
  obtain ⟨-, hc, hsecond⟩ := hbc
  obtain ⟨hgrid, heq⟩ := statisticsInterval_eq
  refine ⟨ha, hc, ?_⟩
  rw [heq] at hfirst hsecond ⊢
  exact Binary64.le_sub_of_le_sub (by decide +kernel) hgrid (by decide +kernel) ha hb hc hfirst
    hsecond

instance : Trans Spaced Spaced Spaced := ⟨Spaced.trans⟩

/-- A tick that resets is spaced from the reset before. -/
theorem ThermalReadings.spaced_of_resets {readings : ThermalReadings} {since : Binary64}
    (hsince : since.isFinite = true) (hclock : readings.clock.isFinite = true)
    (h : readings.resets since = true) : Spaced since readings.clock := by
  refine ⟨hsince, hclock, ?_⟩
  have hlate : ¬((readings.clock - since : Binary64) : Number) < statisticsInterval := by
    rw [resets] at h
    split at h
    · simpa using (Bool.and_eq_true_iff.1 h).2
    · cases h
  have hnumber : (readings.clock - since).isNaN = false := Binary64.isNaN_sub hclock hsince
  exact (Number.lt_or_le (a := ((readings.clock - since : Binary64) : Number))
    (b := statisticsInterval) hnumber (by decide +kernel)).resolve_left hlate

/-- The resets that divide a run follow on each other with spaces. -/
theorem Divides.isChain {since : Binary64} {closed : List Window} {current : List Tick}
    (h : Divides since closed current) (hsince : since.isFinite = true)
    (hclosed : ∀ w ∈ closed, w.clock.isFinite = true) :
    (since :: closed.map Window.clock).IsChain Spaced := by
  induction closed generalizing since with
  | nil => exact .singleton since
  | cons w rest ih =>
    have hw : w.clock.isFinite = true := hclosed w (by simp)
    exact .cons_cons (ThermalReadings.spaced_of_resets hsince hw h.2.1)
      (ih h.2.2 hw fun v hv => hclosed v (List.mem_cons_of_mem _ hv))

/-- Any two windows were closed with a space between them. -/
theorem Divides.pairwise {since : Binary64} {closed : List Window} {current : List Tick}
    (h : Divides since closed current) (hsince : since.isFinite = true)
    (hclosed : ∀ w ∈ closed, w.clock.isFinite = true) :
    closed.Pairwise fun v w => Spaced v.clock w.clock :=
  List.pairwise_map.1 (List.pairwise_cons.1 (h.isChain hsince hclosed).pairwise).2

/-! ## Lines of windows -/

/-- Figures, if there are any, are told of in a line with their count. -/
theorem statisticsLine_figures {ns : List Number} (h : ∀ n ∈ ns, n.IsFigure) (hsome : ns ≠ []) :
    ∃ summary, TemperatureSummary.ofValues (ns.map .number) = .ok (some summary) ∧
      summary.count = ns.length ∧ statisticsLine (ns.map .number) = some (summary.line : Text) := by
  have hvalues := TemperatureHistory.ofValues_figures h
  cases ns with
  | nil => exact absurd rfl hsome
  | cons n rest =>
    refine ⟨TemperatureSummary.ofCons n.toBinary (rest.map Number.toBinary), hvalues, ?_, ?_⟩
    · rw [TemperatureSummary.ofCons]
      split <;> simp
    · rw [statisticsLine, hvalues]
      rfl

/-- A sample of a numeric source is a figure. -/
theorem ThermalReadings.sample_isFigure {readings : ThermalReadings} (hnumeric : readings.IsNumeric)
    {v : Value} (h : readings.sample = some v) : ∃ n : Number, v = n ∧ n.IsFigure := by
  rw [sample] at h
  split at h
  · rename_i current hmeasured
    obtain rfl := Option.some.inj h
    obtain ⟨settings, -, hmeasured⟩ := bind_eq_ok.1 hmeasured
    obtain ⟨read, hread, hmeasured⟩ := bind_eq_ok.1 hmeasured
    obtain ⟨shutdown, -, hmeasured⟩ := bind_eq_ok.1 hmeasured
    obtain ⟨missing, hmissing, hmeasured⟩ := bind_eq_ok.1 hmeasured
    obtain ⟨rfl, rfl⟩ := Prod.mk.inj (Except.ok.inj hmeasured)
    rcases Section.isTemperature_of_temperatureFrom hnumeric hread with rfl | ⟨n, rfl⟩
    · cases hmissing
    · exact ⟨n, rfl, Number.isFigure_of_isMissing hmissing⟩
  · cases h

/-- The samples of numeric sources are figures. -/
theorem samplesOf_figures {ticks : List Tick}
    (hnumeric : ∀ t ∈ ticks, t.readings.thermal.IsNumeric) :
    ∃ ns : List Number, samplesOf ticks = ns.map .number ∧ ∀ n ∈ ns, n.IsFigure := by
  induction ticks with
  | nil => exact ⟨[], rfl, by simp⟩
  | cons t rest ih =>
    obtain ⟨ns, hsamples, hfigures⟩ := ih fun u hu => hnumeric u (List.mem_cons_of_mem _ hu)
    cases hsample : t.readings.thermal.sample with
    | none =>
      refine ⟨ns, ?_, hfigures⟩
      rw [samplesOf, List.filterMap_cons, hsample]
      exact hsamples
    | some v =>
      obtain ⟨n, rfl, hn⟩ := ThermalReadings.sample_isFigure (hnumeric t (by simp)) hsample
      refine ⟨n :: ns, ?_, ?_⟩
      · rw [samplesOf, List.filterMap_cons, hsample]
        exact congrArg (Value.number n :: ·) hsamples
      · simpa using ⟨hn, hfigures⟩

namespace Window

variable {w : Window}

/-- A window without samples leaves no line. -/
theorem line?_of_nil (h : samplesOf w.ticks = []) : w.line? = none := by
  rw [line?, h]
  rfl

/-- A window with samples leaves a line, which counts the samples that are kept. -/
theorem line?_of_ne_nil (hnumeric : ∀ t ∈ w.ticks, t.readings.thermal.IsNumeric)
    (h : samplesOf w.ticks ≠ []) :
    ∃ summary, TemperatureSummary.ofValues (keepLast (some 125) (samplesOf w.ticks)) =
        .ok (some summary) ∧
      summary.count = min 125 (samplesOf w.ticks).length ∧
      w.line? = some (w.clock, (summary.line : Text)) := by
  obtain ⟨ns, hsamples, hfigures⟩ := samplesOf_figures hnumeric
  have hkept : ∀ n ∈ keepLast (some 125) ns, n.IsFigure := fun n hn =>
    hfigures n ((keepLast_suffix _ _).subset hn)
  have hsome : keepLast (some 125) ns ≠ [] := by
    rw [Ne, keepLast_eq_nil_iff (by decide)]
    rintro rfl
    exact h hsamples
  obtain ⟨summary, hvalues, hcount, hline⟩ := statisticsLine_figures hkept hsome
  rw [map_keepLast, ← hsamples] at hvalues hline
  refine ⟨summary, hvalues, ?_, ?_⟩
  · rw [hcount, length_keepLast, hsamples, List.length_map]
  · rw [line?]
    exact congrArg (Option.map (w.clock, ·)) hline

/-- A line is told at the clock of its window. -/
theorem clock_of_line? {line : Binary64 × Text} (h : w.line? = some line) : line.1 = w.clock := by
  obtain ⟨text, -, rfl⟩ := Option.map_eq_some_iff.1 h
  rfl

end Window

/-! ## Runs -/

/-- Whether an engine stands where the ticks of a run, divided by its resets, have led: it keeps the
samples of the current window, and the time of the last reset. -/
structure Engine.Samples (e : Engine) (since : Binary64) (closed : List Window)
    (current : List Tick) : Prop where
  divides : Divides since closed current
  temperatures : e.temperatures =
    ⟨some temperatureCapacity, keepLast (some temperatureCapacity) (samplesOf current)⟩
  lastStatistics : e.lastStatistics = lastReset since closed

/-- A tick with a numeric source prolongs the current window without a line, or closes it with its
line. -/
theorem Engine.Samples.tick {e : Engine} {since : Binary64} {closed : List Window}
    {current : List Tick} (h : e.Samples since closed current) {t : Tick}
    (hnumeric : t.readings.thermal.IsNumeric) (hfigures : e.temperatures.HasFigures) :
    let progress := Section.pollOnce t.behaviour t.readings e
    let lines := (statisticsLines progress.effects).map (t.readings.thermal.clock, ·)
    (progress.engine.Samples since closed (current ++ [t]) ∧ lines = []) ∨
      (progress.engine.Samples since (closed ++ [⟨current, t⟩]) [] ∧
        lines = (Window.line? ⟨current, t⟩).toList) := by
  intro progress lines
  have hseen := Section.pollOnce_seen t.behaviour hnumeric hfigures h.temperatures
  rw [h.lastStatistics, ThermalReadings.noted, ← samplesOf_concat] at hseen
  cases hresets : t.readings.thermal.resets (lastReset since closed) with
  | false =>
    rw [hresets, if_neg (by decide)] at hseen
    obtain ⟨hgauge, hlines⟩ := Prod.mk.inj hseen
    obtain ⟨htemperatures, hlast⟩ := Prod.mk.inj hgauge
    exact .inl ⟨⟨h.divides.concat hresets, htemperatures, hlast⟩, by simp [lines, progress, hlines]⟩
  | true =>
    rw [hresets, if_pos rfl] at hseen
    obtain ⟨hgauge, hlines⟩ := Prod.mk.inj hseen
    obtain ⟨htemperatures, hlast⟩ := Prod.mk.inj hgauge
    refine .inr ⟨⟨h.divides.close hresets, htemperatures, ?_⟩, ?_⟩
    · rw [lastReset_concat]
      exact hlast
    · simp only [lines, progress, hlines, Window.line?, Window.ticks, Window.clock]
      cases statisticsLine (keepLast (some temperatureCapacity) (samplesOf (current ++ [t])))
      · rfl
      · rfl

namespace Engine

/-- The statistics lines that a run logs, in order, each with the clock of its poll. -/
def linesLogged (e : Engine) (ticks : List Tick) : List (Binary64 × Text) :=
  e.observe (fun t e =>
    (statisticsLines (Section.pollOnce t.behaviour t.readings e).effects).map
      (t.readings.thermal.clock, ·)) ticks

theorem linesLogged_concat (e : Engine) (before : List Tick) (t : Tick) :
    e.linesLogged (before ++ [t]) = e.linesLogged before ++
      (statisticsLines (Section.pollOnce t.behaviour t.readings (e.run before).engine).effects).map
        (t.readings.thermal.clock, ·) :=
  observe_concat _ e before t

variable (clock : Binary64) (callbacks : List Callback) {ticks : List Tick}

/-- A run of a new engine with numeric sources is divided by its resets, and has logged the lines of
the closed windows. -/
theorem fresh_run_samples (hnumeric : ∀ t ∈ ticks, t.readings.thermal.IsNumeric) :
    ∃ closed current, ticks = closed.flatMap Window.ticks ++ current ∧
      ((fresh clock callbacks).run ticks).engine.Samples clock closed current ∧
      (fresh clock callbacks).linesLogged ticks = closed.filterMap Window.line? := by
  induction ticks using List.reverseRecOn with
  | nil => exact ⟨[], [], rfl, ⟨fun _ ht => (nomatch ht), rfl, rfl⟩, rfl⟩
  | append_singleton before t ih =>
    have hbefore : ∀ u ∈ before, u.readings.thermal.IsNumeric :=
      fun u hu => hnumeric u (List.mem_append_left _ hu)
    obtain ⟨closed, current, hticks, hsamples, hlines⟩ := ih hbefore
    have htick := hsamples.tick (hnumeric t (by simp))
      (fresh_run_hasFigures clock callbacks hbefore)
    rw [run_concat, linesLogged_concat, hlines]
    rcases htick with ⟨hafter, hnone⟩ | ⟨hafter, hline⟩
    · refine ⟨closed, current ++ [t], by rw [hticks, List.append_assoc], hafter, ?_⟩
      rw [hnone, List.append_nil]
    · refine ⟨closed ++ [(⟨current, t⟩ : Window)], [], ?_, hafter, ?_⟩
      · rw [hticks]
        simp [Window.ticks]
      · rw [hline, List.filterMap_append]
        cases hwindow : Window.line? ⟨current, t⟩ <;> simp [hwindow]

/-- A run of a new engine with numeric sources is divided into windows by its resets: a poll resets
exactly if it gets to keep a temperature, be it NaN, and its clock is not within 3600 seconds from
the reset before, or from the start. The engine keeps the last 125 samples of the current window,
and has logged one line for every closed window with samples, counting the last 125 of them, and
none for the others. If the clocks are finite, any two lines are at least 3600 seconds apart. -/
theorem fresh_run_statistics (hnumeric : ∀ t ∈ ticks, t.readings.thermal.IsNumeric) :
    let e := fresh clock callbacks
    ∃ closed current, ticks = closed.flatMap Window.ticks ++ current ∧
      Divides clock closed current ∧
      (e.run ticks).engine.temperatures.samples = keepLast (some 125) (samplesOf current) ∧
      e.linesLogged ticks = closed.filterMap Window.line? ∧
      (∀ w ∈ closed, (samplesOf w.ticks = [] → w.line? = none) ∧
        (samplesOf w.ticks ≠ [] → ∃ summary,
          TemperatureSummary.ofValues (keepLast (some 125) (samplesOf w.ticks)) =
              .ok (some summary) ∧
            summary.count = min 125 (samplesOf w.ticks).length ∧
            w.line? = some (w.clock, (summary.line : Text)))) ∧
      (clock.isFinite = true → (∀ t ∈ ticks, t.readings.thermal.clock.isFinite = true) →
        (e.linesLogged ticks).Pairwise fun earlier later =>
          statisticsInterval ≤ (later.1 - earlier.1 : Binary64)) := by
  intro e
  obtain ⟨closed, current, hticks, hsamples, hlines⟩ := fresh_run_samples clock callbacks hnumeric
  have hmem {w : Window} (hw : w ∈ closed) {t : Tick} (ht : t ∈ w.ticks) : t ∈ ticks := by
    rw [hticks]
    exact List.mem_append_left _ (List.mem_flatMap.2 ⟨w, hw, ht⟩)
  refine ⟨closed, current, hticks, hsamples.divides, ?_, hlines, fun w hw => ?_, ?_⟩
  · rw [hsamples.temperatures, temperatureCapacity]
  · have hwindow : ∀ t ∈ w.ticks, t.readings.thermal.IsNumeric :=
      fun t ht => hnumeric t (hmem hw ht)
    exact ⟨Window.line?_of_nil, Window.line?_of_ne_nil hwindow⟩
  · intro hclock hclocks
    have hclosed : ∀ w ∈ closed, w.clock.isFinite = true :=
      fun w hw => hclocks w.last (hmem hw (by simp [Window.ticks]))
    rw [hlines, List.pairwise_filterMap]
    refine (hsamples.divides.pairwise hclock hclosed).imp ?_
    intro v w hspaced earlier hearlier later hlater
    rw [Window.clock_of_line? hearlier, Window.clock_of_line? hlater]
    exact hspaced.2.2

/-- Over two hours the first reset tells of a sample from before, its own being NaN, and the second
of its own sample, the one before being NaN. -/
theorem fresh_run_statistics_hours :
    let tick (seconds : Int) (temperature : Value) : Tick :=
      { readings :=
          { thermal := ⟨Binary64.ofInt seconds, .ok {}, .ok temperature, .ok .null⟩
            power := ⟨Binary64.ofInt seconds, .ok none, ⟨.ok false, .ok .null⟩⟩ } }
    let ticks := [tick 1800 20, tick 3600 Binary64.nan, tick 7199 Binary64.nan, tick 7200 40]
    let lines := (fresh .zero []).linesLogged ticks
    lines.map Prod.fst = [Binary64.ofInt 3600, Binary64.ofInt 7200] ∧
      lines.Pairwise fun earlier later =>
        statisticsInterval ≤ (later.1 - earlier.1 : Binary64) := by
  intro tick ticks lines
  have hcases {t : Tick} (ht : t ∈ ticks) : t = tick 1800 20 ∨ t = tick 3600 Binary64.nan ∨
      t = tick 7199 Binary64.nan ∨ t = tick 7200 40 := by simpa [ticks] using ht
  refine ⟨by decide +kernel, ?_⟩
  have hnumeric : ∀ t ∈ ticks, t.readings.thermal.IsNumeric := by
    intro t ht v hv
    rcases hcases ht with rfl | rfl | rfl | rfl <;> obtain rfl := Except.ok.inj hv <;>
      exact .inr ⟨_, rfl⟩
  obtain ⟨closed, current, -, -, -, -, -, hspaced⟩ := fresh_run_statistics .zero [] hnumeric
  refine hspaced rfl fun t ht => ?_
  rcases hcases ht with rfl | rfl | rfl | rfl <;> decide +kernel

/-- It is not so that the temperatures of all polls are kept: here the shutdown temperature fails
the poll after the current one was read. -/
theorem not_samples_of_failing :
    ¬∀ (clock : Binary64) (callbacks : List Callback) (ticks : List Tick),
      (∀ t ∈ ticks, t.readings.thermal.IsNumeric) →
      (∀ t ∈ ticks,
        ((t.readings.thermal.clock - clock : Binary64) : Number) < statisticsInterval) →
        ((fresh clock callbacks).run ticks).engine.temperatures.samples =
          keepLast (some 125) (ticks.filterMap fun t =>
            t.readings.thermal.current.toOption.bind fun current =>
              current.present?.map Value.number) := by
  intro h
  have hkept := h .zero [] [{
    readings :=
      { thermal := ⟨.zero, .ok {}, .ok (Binary64.ofInt 40), .error (.crash "boom")⟩
        power := ⟨.zero, .ok none, ⟨.ok false, .ok .null⟩⟩ } }] ?_ ?_
  · revert hkept
    decide +kernel
  · intro t ht v hv
    obtain rfl := List.mem_singleton.1 ht
    obtain rfl := Except.ok.inj hv
    exact .inr ⟨_, rfl⟩
  · intro t ht
    obtain rfl := List.mem_singleton.1 ht
    decide +kernel

end Engine

end DeviceWarnings
