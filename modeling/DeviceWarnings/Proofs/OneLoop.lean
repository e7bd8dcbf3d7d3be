import DeviceWarnings.Monitor

/-!
# One monitor loop at a time

A stop has two steps, and while it waits in between the monitor is not running: a start that comes
in there creates a second loop beside the one whose end is waited for, and the stop then lets go of
the handle of the new loop. As long as no start comes in while a stop waits, there is at most one
loop. A running monitor holds on to it, unless a fault has ended it, such as that of a sleep, or a
cancellation of its poll that no stop had asked for; when a stop has returned, it is gone.

A loop begins no poll while the monitor is not running. So none is begun from a stop to the next
start, however many loops there are.
-/

namespace DeviceWarnings

namespace Monitor

variable {m after : Monitor} {event : MonitorEvent} {events past : List MonitorEvent}

theorem replay?_cons (m : Monitor) (event : MonitorEvent) (rest : List MonitorEvent) :
    m.replay? (event :: rest) = (m.step? event).bind fun next => next.replay? rest :=
  List.foldlM_cons

theorem replay?_append (m : Monitor) (events more : List MonitorEvent) :
    m.replay? (events ++ more) = (m.replay? events).bind fun next => next.replay? more :=
  List.foldlM_append

/-! ## What a step changes -/

/-- Whether what is done to a loop leaves its number, and does not cancel it. -/
structure IsMild (change : MonitorLoop → MonitorLoop) : Prop where
  id (l : MonitorLoop) : (change l).id = l.id
  cancelled (l : MonitorLoop) : l.cancelled = false → (change l).cancelled = false

/-- The monitor after one of its loops has ended, maybe by a fault. -/
def dropLoop (m : Monitor) (id : Nat) (fault : Option Fault) : Monitor :=
  { m with
    loops := m.loops.filter fun l => l.id ≠ id
    failed := m.failed ++ fault.toList.map (id, ·) }

/-- The monitor after a stop that waited for a loop has returned. -/
def endStop (m : Monitor) (id : Nat) : Monitor :=
  { m with
    task := if (m.failed.lookup id).isSome then m.task else none
    stopping := m.stopping.erase id }

/-- A step that needs a loop in some condition finds such a one. -/
theorem exists_loop_of_guard {id : Nat} {condition : MonitorLoop → Prop}
    [DecidablePred condition] {result : Monitor}
    (h : (match m.loop? id with
      | some l => if condition l then some result else none
      | none => none) = some after) :
    ∃ l, m.loop? id = some l ∧ condition l ∧ after = result := by
  split at h
  case h_1 l hl =>
    split at h
    case isTrue hcondition => exact ⟨l, hl, hcondition, (Option.some.inj h).symm⟩
    case isFalse => cases h
  case h_2 => cases h

/-- What a step can be, and what it changes. -/
theorem step?_cases (h : m.step? event = some after) :
    (event = .start ∧ after = m.start) ∨
      (event = .stop ∧ after = m.requestStop) ∨
      (∃ id change, IsMild change ∧ after = m.updateLoop id change ∧
        (event = .poll id ∧ m.running = true ∨ event = .sleep id ∨ event = .overlook id)) ∨
      (∃ id l fault, m.loop? id = some l ∧ after = m.dropLoop id fault ∧
        (event = .finish id ∧ fault = none ∧ (l.cancelled = true ∨ m.running = false) ∨
          event = .quit id ∧ fault = none ∨ ∃ made, event = .fail id made ∧ fault = some made)) ∨
      ∃ id, event = .stopped id ∧ id ∈ m.stopping ∧ m.loop? id = none ∧ after = m.endStop id := by
  cases event with
  | start => exact .inl ⟨rfl, (Option.some.inj h).symm⟩
  | stop => exact .inr (.inl ⟨rfl, (Option.some.inj h).symm⟩)
  | poll id =>
    obtain ⟨l, -, hready, rfl⟩ := exists_loop_of_guard h
    exact .inr (.inr (.inl ⟨id, fun l => { l with phase := .polling },
      ⟨fun _ => rfl, fun _ hlive => hlive⟩, rfl, .inl ⟨rfl, hready.1⟩⟩))
  | sleep id =>
    obtain ⟨l, -, -, rfl⟩ := exists_loop_of_guard h
    exact .inr (.inr (.inl ⟨id, fun l => { l with phase := .sleeping },
      ⟨fun _ => rfl, fun _ hlive => hlive⟩, rfl, .inr (.inl rfl)⟩))
  | overlook id =>
    obtain ⟨l, -, -, rfl⟩ := exists_loop_of_guard h
    exact .inr (.inr (.inl ⟨id, fun l => { l with cancelled := false },
      ⟨fun _ => rfl, fun _ _ => rfl⟩, rfl, .inr (.inr rfl)⟩))
  | fail id made =>
    obtain ⟨l, hl, -, rfl⟩ := exists_loop_of_guard h
    exact .inr (.inr (.inr (.inl ⟨id, l, some made, hl, rfl, .inr (.inr ⟨made, rfl, rfl⟩)⟩)))
  | quit id =>
    obtain ⟨l, hl, -, rfl⟩ := exists_loop_of_guard h
    exact .inr (.inr (.inr (.inl ⟨id, l, none, hl, by simp [dropLoop], .inr (.inl ⟨rfl, rfl⟩)⟩)))
  | finish id =>
    obtain ⟨l, hl, hends, rfl⟩ := exists_loop_of_guard h
    refine .inr (.inr (.inr (.inl ⟨id, l, none, hl, ?_, .inl ⟨rfl, rfl, ?_⟩⟩)))
    · simp [dropLoop]
    · exact hends.imp_right fun hidle => by simpa using hidle.1
  | stopped id =>
    rw [step?] at h
    split at h
    case isTrue hreturns =>
      have hgone : m.loop? id = none := by simpa using hreturns.2
      exact .inr (.inr (.inr (.inr ⟨id, rfl, hreturns.1, hgone, (Option.some.inj h).symm⟩)))
    case isFalse => cases h

/-- The loops stay as many as they are and keep their numbers when one of them is changed. -/
theorem exists_of_mem_updateLoop {id : Nat} {change : MonitorLoop → MonitorLoop} {l : MonitorLoop}
    (hl : l ∈ (m.updateLoop id change).loops) (hid : ∀ l, (change l).id = l.id) :
    ∃ before ∈ m.loops, before.id = l.id ∧ (l = change before ∨ l = before) := by
  obtain ⟨before, hbefore, rfl⟩ := List.mem_map.1 hl
  refine ⟨before, hbefore, ?_⟩
  split
  · exact ⟨(hid before).symm, .inl rfl⟩
  · exact ⟨rfl, .inr rfl⟩

theorem updateLoop_loops_eq_nil {id : Nat} {change : MonitorLoop → MonitorLoop} :
    (m.updateLoop id change).loops = [] ↔ m.loops = [] :=
  List.map_eq_nil_iff

/-! ## At most one loop -/

/-- Whether a loop has been ended in some steps by a fault, or by a poll that was cancelled though
no stop had asked for it. -/
def EndedIn (events : List MonitorEvent) (id : Nat) : Prop :=
  (∃ fault, .fail id fault ∈ events) ∨ .quit id ∈ events

theorem EndedIn.mono {more : List MonitorEvent} {id : Nat} (h : EndedIn past id)
    (hmore : past ⊆ more) : EndedIn more id :=
  h.imp (fun ⟨fault, hfault⟩ => ⟨fault, hmore hfault⟩) fun hquit => hmore hquit

/-- How a monitor is after some steps in which no start has come in while a stop waited: there is at
most one loop, which it holds on to; while it runs, nobody waits for the loop, and if it is gone one
of the steps has ended it; and while it does not, somebody waits for the loop until it has ended. -/
structure IsLone (past : List MonitorEvent) (m : Monitor) : Prop where
  few : m.loops.length ≤ 1
  held : ∀ l ∈ m.loops, m.task = some l.id
  active : m.running = true → m.stopping = [] ∧ (∀ l ∈ m.loops, l.cancelled = false) ∧
    ∃ id, m.task = some id ∧ (m.loops = [] → EndedIn past id)
  awaited : ∀ id ∈ m.stopping, ∀ l ∈ m.loops, l.id = id
  leaving : m.running = false → m.loops ≠ [] → m.stopping ≠ []

namespace IsLone

theorem initial : IsLone [] {} where
  few := Nat.zero_le 1
  held := nofun
  active := nofun
  awaited := nofun
  leaving := fun _ hloops => absurd rfl hloops

/-- More steps that leave the monitor as it is end no loop. -/
theorem mono {more : List MonitorEvent} (h : IsLone past m) (hmore : past ⊆ more) :
    IsLone more m where
  few := h.few
  held := h.held
  active := by
    intro hruns
    obtain ⟨hquiet, hlive, id, hheld, hended⟩ := h.active hruns
    exact ⟨hquiet, hlive, id, hheld, fun hnone => (hended hnone).mono hmore⟩
  awaited := h.awaited
  leaving := h.leaving

/-- A monitor that does not run and has no loop. -/
theorem of_idle (hidle : m.running = false) (hloops : m.loops = []) : IsLone past m where
  few := by rw [hloops]; exact Nat.zero_le 1
  held := by rw [hloops]; exact nofun
  active := fun hruns => absurd (hidle.symm.trans hruns) nofun
  awaited := by rw [hloops]; exact fun _ _ => nofun
  leaving := fun _ hsome => absurd hloops hsome

/-- A running monitor holds on to its loop, or to one that has been ended. -/
theorem handle (h : IsLone past m) (hruns : m.running = true) :
    ∃ id, m.task = some id ∧
      ((∃ l, m.loops = [l] ∧ l.id = id) ∨ m.loops = [] ∧ EndedIn past id) := by
  obtain ⟨-, -, id, hheld, hended⟩ := h.active hruns
  refine ⟨id, hheld, ?_⟩
  cases hloops : m.loops with
  | nil => exact .inr ⟨rfl, hended hloops⟩
  | cons l rest =>
    have hrest : rest = [] := by
      have hfew := h.few
      rw [hloops] at hfew
      simpa using hfew
    have hid : m.task = some l.id := h.held l (by simp [hloops])
    exact .inl ⟨l, by rw [hrest], Option.some.inj (hid.symm.trans hheld)⟩

/-- When no stop waits and the monitor is not running, all loops have ended. -/
theorem loops_of_idle (h : IsLone past m) (hidle : m.running = false) (hquiet : m.stopping = []) :
    m.loops = [] := by
  cases hloops : m.loops with
  | nil => rfl
  | cons l rest => exact absurd hquiet (h.leaving hidle (by simp [hloops]))

/-- When a stop returns, all loops have ended, and the monitor is not running. -/
theorem loops_of_stopped {id : Nat} (h : IsLone past m) (hwaits : id ∈ m.stopping)
    (hgone : m.loop? id = none) : m.running = false ∧ m.loops = [] := by
  constructor
  · cases hruns : m.running with
    | false => rfl
    | true =>
      rw [(h.active hruns).1] at hwaits
      cases hwaits
  -- A loop that were left would have the number of the one that is gone.
  · refine List.eq_nil_iff_forall_not_mem.2 fun l hl => ?_
    have hother : ¬l.id = id := by simpa using List.find?_eq_none.1 hgone l hl
    exact hother (h.awaited id hwaits l hl)

theorem start (h : IsLone past m) (hquiet : m.stopping = []) : IsLone past m.start := by
  rw [Monitor.start]
  split
  case isTrue => exact h
  case isFalse hidle =>
    have hloops : m.loops = [] := h.loops_of_idle (by simpa using hidle) hquiet
    exact {
      few := by simp [hloops]
      held := by simp [hloops]
      active := fun _ => ⟨hquiet, by simp [hloops], m.created, rfl, by simp⟩
      awaited := by simp [hquiet]
      leaving := nofun }

theorem requestStop (h : IsLone past m) : IsLone past m.requestStop := by
  rw [Monitor.requestStop]
  split
  case h_1 hfree =>
    have hloops : m.loops = [] := by
      refine List.eq_nil_iff_forall_not_mem.2 fun l hl => ?_
      exact absurd (hfree.symm.trans (h.held l hl)) nofun
    exact of_idle rfl hloops
  case h_2 id hheld =>
    have hids (l) (hl : l ∈ (m.updateLoop id fun l => { l with cancelled := true }).loops) :
        ∃ before ∈ m.loops, before.id = l.id := by
      obtain ⟨before, hbefore, hid, -⟩ := exists_of_mem_updateLoop hl fun _ => rfl
      exact ⟨before, hbefore, hid⟩
    exact {
      few := by simpa [updateLoop] using h.few
      held := by
        intro l hl
        obtain ⟨before, hbefore, hid⟩ := hids l hl
        rw [← hid]
        exact h.held before hbefore
      active := nofun
      awaited := by
        intro other hother l hl
        obtain ⟨before, hbefore, hid⟩ := hids l hl
        rw [← hid]
        rcases List.mem_append.1 hother with hold | hnew
        · exact h.awaited other hold before hbefore
        · rw [List.mem_singleton.1 hnew]
          exact Option.some.inj ((h.held before hbefore).symm.trans hheld)
      leaving := by simp }

theorem updateLoop {change : MonitorLoop → MonitorLoop} (h : IsLone past m) (hmild : IsMild change)
    (id : Nat) : IsLone past (m.updateLoop id change) where
  few := by simpa [Monitor.updateLoop] using h.few
  held := by
    intro l hl
    obtain ⟨before, hbefore, hid, -⟩ := exists_of_mem_updateLoop hl hmild.id
    rw [← hid]
    exact h.held before hbefore
  active := by
    intro hruns
    obtain ⟨hquiet, hlive, held, hheld, hended⟩ := h.active hruns
    refine ⟨hquiet, fun l hl => ?_, held, hheld, fun hnone => ?_⟩
    · obtain ⟨before, hbefore, -, rfl | rfl⟩ := exists_of_mem_updateLoop hl hmild.id
      · exact hmild.cancelled before (hlive before hbefore)
      · exact hlive _ hbefore
    · exact hended (updateLoop_loops_eq_nil.1 hnone)
  awaited := by
    intro waited hwaited l hl
    obtain ⟨before, hbefore, hid, -⟩ := exists_of_mem_updateLoop hl hmild.id
    rw [← hid]
    exact h.awaited waited hwaited before hbefore
  leaving := fun hidle hsome =>
    h.leaving hidle fun hnone => hsome (updateLoop_loops_eq_nil.2 hnone)

/-- While the monitor runs, the loop does not end by itself. -/
theorem dropLoop {id : Nat} {l : MonitorLoop} {fault : Option Fault} (h : IsLone past m)
    (hl : m.loop? id = some l)
    (hends : (l.cancelled = true ∨ m.running = false) ∨ EndedIn past id) :
    IsLone past (m.dropLoop id fault) := by
  have hmem : l ∈ m.loops := List.mem_of_find?_eq_some hl
  have hid : l.id = id := by simpa using List.find?_some hl
  have hleft {other : MonitorLoop} (hother : other ∈ (m.dropLoop id fault).loops) :
      other ∈ m.loops := (List.mem_filter.1 hother).1
  exact {
    few := Nat.le_trans (List.length_filter_le ..) h.few
    held := fun other hother => h.held other (hleft hother)
    active := by
      intro hruns
      obtain ⟨hquiet, hlive, -⟩ := h.active hruns
      refine ⟨hquiet, fun other hother => hlive other (hleft hother), id,
        hid ▸ h.held l hmem, fun _ => ?_⟩
      -- A loop that ends by itself was cancelled or found the monitor not running.
      rcases hends with (hcancelled | hidle) | hended
      · exact absurd ((hlive l hmem).symm.trans hcancelled) nofun
      · exact absurd (hidle.symm.trans hruns) nofun
      · exact hended
    awaited := fun waited hwaited other hother => h.awaited waited hwaited other (hleft hother)
    leaving := by
      intro hidle _
      exact h.leaving hidle (List.ne_nil_of_mem hmem) }

theorem endStop {id : Nat} (h : IsLone past m) (hwaits : id ∈ m.stopping)
    (hgone : m.loop? id = none) : IsLone past (m.endStop id) := by
  obtain ⟨hidle, hloops⟩ := h.loops_of_stopped hwaits hgone
  exact of_idle hidle hloops

/-- A step keeps this, unless it is a start that comes in while a stop waits. -/
theorem step (h : IsLone past m) (hstep : m.step? event = some after)
    (hpeace : event = .start → m.stopping = []) : IsLone (past ++ [event]) after := by
  have hlonger : IsLone (past ++ [event]) m := h.mono (List.subset_append_left past [event])
  obtain ⟨hevent, rfl⟩ | ⟨-, rfl⟩ | ⟨id, change, hmild, rfl, -⟩ |
    ⟨id, l, fault, hl, rfl, hends⟩ | ⟨id, -, hwaits, hgone, rfl⟩ := step?_cases hstep
  · exact hlonger.start (hpeace hevent)
  · exact hlonger.requestStop
  · exact hlonger.updateLoop hmild id
  · refine hlonger.dropLoop hl ?_
    obtain ⟨-, -, hfinished⟩ | ⟨rfl, -⟩ | ⟨made, rfl, -⟩ := hends
    · exact .inl hfinished
    · exact .inr (.inr (by simp))
    · exact .inr (.inl ⟨made, by simp⟩)
  · exact hlonger.endStop hwaits hgone

end IsLone

/-! ## Whole runs -/

/-- Whether each start in some steps comes in while no stop waits. -/
def startsInPeace (m : Monitor) : List MonitorEvent → Bool
  | [] => true
  | event :: rest =>
    (event != .start || m.stopping.isEmpty) &&
      (m.step? event).all fun next => next.startsInPeace rest

theorem startsInPeace_cons {rest : List MonitorEvent}
    (h : m.startsInPeace (event :: rest) = true) :
    (event = .start → m.stopping = []) ∧
      ∀ next, m.step? event = some next → next.startsInPeace rest = true := by
  obtain ⟨hpeace, hrest⟩ := Bool.and_eq_true_iff.1 h
  constructor
  · rintro rfl
    simpa using hpeace
  · intro next hnext
    rw [hnext] at hrest
    exact hrest

/-- A run keeps this, unless a start comes in while a stop waits. -/
theorem IsLone.replay? (h : IsLone past m) (hpeace : m.startsInPeace events = true)
    (hevents : m.replay? events = some after) : IsLone (past ++ events) after := by
  induction events generalizing m past with
  | nil =>
    obtain rfl := Option.some.inj hevents
    rwa [List.append_nil]
  | cons event rest ih =>
    rw [replay?_cons] at hevents
    obtain ⟨next, hnext, hrest⟩ := Option.bind_eq_some_iff.1 hevents
    obtain ⟨hfirst, hlater⟩ := startsInPeace_cons hpeace
    rw [List.append_cons]
    exact ih (h.step hnext hfirst) (hlater next hnext) hrest

/-- The beginning of a run starts in peace if the whole run does. -/
theorem startsInPeace_of_append {more : List MonitorEvent}
    (h : m.startsInPeace (events ++ more) = true) : m.startsInPeace events = true := by
  induction events generalizing m with
  | nil => rfl
  | cons event rest ih =>
    obtain ⟨hpeace, hrest⟩ := Bool.and_eq_true_iff.1 h
    refine Bool.and_eq_true_iff.2 ⟨hpeace, ?_⟩
    cases hnext : m.step? event with
    | none => rfl
    | some next =>
      rw [hnext] at hrest
      exact ih hrest

/-- A monitor that is not running stays so but for a start, and begins no poll and no loop. -/
theorem step?_of_idle (hidle : m.running = false) (hevent : event ≠ .start)
    (hstep : m.step? event = some after) :
    after.running = false ∧ (∀ id, event ≠ .poll id) ∧ (m.loops = [] → after.loops = []) := by
  obtain ⟨hstart, -⟩ | ⟨rfl, rfl⟩ | ⟨id, change, -, rfl, hchanged⟩ |
    ⟨id, l, fault, -, rfl, hends⟩ | ⟨id, rfl, -, -, rfl⟩ := step?_cases hstep
  · exact absurd hstart hevent
  · rw [requestStop]
    split
    · exact ⟨rfl, nofun, id⟩
    · exact ⟨rfl, nofun, updateLoop_loops_eq_nil.2⟩
  · refine ⟨hidle, ?_, updateLoop_loops_eq_nil.2⟩
    obtain ⟨-, hruns⟩ | rfl | rfl := hchanged
    · exact absurd (hidle.symm.trans hruns) nofun
    · exact nofun
    · exact nofun
  · refine ⟨hidle, ?_, fun hnone => ?_⟩
    · obtain ⟨rfl, -⟩ | ⟨rfl, -⟩ | ⟨made, rfl, -⟩ := hends
      · exact nofun
      · exact nofun
      · exact nofun
    · rw [dropLoop, hnone]
      rfl
  · exact ⟨hidle, nofun, fun hnone => hnone⟩

/-- From a stop to the next start the monitor does not run, no poll is begun, and no loop. -/
theorem replay?_of_idle (hidle : m.running = false) (hstart : .start ∉ events)
    (hevents : m.replay? events = some after) :
    after.running = false ∧ (∀ id, .poll id ∉ events) ∧ (m.loops = [] → after.loops = []) := by
  induction events generalizing m with
  | nil =>
    obtain rfl := Option.some.inj hevents
    exact ⟨hidle, fun _ => List.not_mem_nil, id⟩
  | cons event rest ih =>
    rw [List.mem_cons, not_or] at hstart
    rw [replay?_cons] at hevents
    obtain ⟨next, hnext, hrest⟩ := Option.bind_eq_some_iff.1 hevents
    obtain ⟨hstill, hpoll, hnone⟩ := step?_of_idle hidle (Ne.symm hstart.1) hnext
    obtain ⟨hlast, hpolls, hnever⟩ := ih hstill hstart.2 hrest
    refine ⟨hlast, fun id hmem => ?_, fun hloops => hnever (hnone hloops)⟩
    rcases List.mem_cons.1 hmem with heq | hlater
    · exact hpoll id heq.symm
    · exact hpolls id hlater

/-- Once a stop has returned no loop is left, until a start. -/
theorem IsLone.loops_of_returned {id : Nat} (h : IsLone past m) (hidle : m.running = false)
    (hstart : .start ∉ events) (hevents : m.replay? events = some after)
    (hreturned : .stopped id ∈ events) : after.loops = [] := by
  induction events generalizing m past with
  | nil => cases hreturned
  | cons event rest ih =>
    rw [List.mem_cons, not_or] at hstart
    rw [replay?_cons] at hevents
    obtain ⟨next, hnext, hrest⟩ := Option.bind_eq_some_iff.1 hevents
    obtain ⟨hstill, -, hnone⟩ := step?_of_idle hidle (Ne.symm hstart.1) hnext
    rcases List.mem_cons.1 hreturned with rfl | hlater
    · obtain ⟨hwaits, hgone⟩ : id ∈ m.stopping ∧ m.loop? id = none := by
        obtain ⟨hevent, -⟩ | ⟨hevent, -⟩ | ⟨_, _, -, -, ⟨hevent, -⟩ | hevent | hevent⟩ |
          ⟨_, _, _, -, -, ⟨hevent, -⟩ | ⟨hevent, -⟩ | ⟨_, hevent, -⟩⟩ |
          ⟨_, hevent, hfound⟩ := step?_cases hnext
        all_goals cases hevent
        exact ⟨hfound.1, hfound.2.1⟩
      have hloops := (h.loops_of_stopped hwaits hgone).2
      exact (replay?_of_idle hstill hstart.2 hrest).2.2 (hnone hloops)
    · exact ih (h.step hnext fun heq => absurd heq.symm hstart.1) hstill hstart.2 hrest hlater

theorem requestStop_running (m : Monitor) : m.requestStop.running = false := by
  rw [requestStop]
  split <;> rfl

/-- From a stop to the next start no loop begins a poll. If no start comes in while a stop waits,
there is never more than one loop. A running monitor holds on to it, unless the loop has been ended
by a fault, or by a poll that was cancelled though no stop had asked for it. When a stop has
returned, or has nothing to wait for, and until the next start, no loop is left. -/
theorem replay?_one_loop (hevents : replay? {} events = some m) :
    (∀ before after, events = before ++ .stop :: after → .start ∉ after →
        ∀ id, .poll id ∉ after) ∧
      (startsInPeace {} events = true →
        m.loops.length ≤ 1 ∧
          (m.running = true → ∃ id, m.task = some id ∧
            ((∃ l, m.loops = [l] ∧ l.id = id) ∨
              m.loops = [] ∧ ((∃ fault, .fail id fault ∈ events) ∨ .quit id ∈ events))) ∧
          ∀ before after, events = before ++ .stop :: after → .start ∉ after →
            m.stopping = [] ∨ (∃ id, .stopped id ∈ after) → m.loops = []) := by
  have hstopped (before after) (hsplit : events = before ++ .stop :: after) :
      ∃ reached, replay? {} before = some reached ∧
        reached.requestStop.replay? after = some m := by
    rw [hsplit, replay?_append] at hevents
    obtain ⟨reached, hreached, hafter⟩ := Option.bind_eq_some_iff.1 hevents
    exact ⟨reached, hreached, hafter⟩
  refine ⟨fun before after hsplit hstart => ?_, fun hpeace => ?_⟩
  · obtain ⟨reached, -, hafter⟩ := hstopped before after hsplit
    exact (replay?_of_idle reached.requestStop_running hstart hafter).2.1
  have hlone : IsLone events m := IsLone.initial.replay? hpeace hevents
  refine ⟨hlone.few, hlone.handle, fun before after hsplit hstart hreturned => ?_⟩
  · obtain ⟨reached, hreached, hafter⟩ := hstopped before after hsplit
    have hidle := reached.requestStop_running
    rcases hreturned with hquiet | ⟨id, hreturned⟩
    · exact hlone.loops_of_idle (replay?_of_idle hidle hstart hafter).1 hquiet
    · have hbefore : IsLone before reached :=
        IsLone.initial.replay? (startsInPeace_of_append (hsplit ▸ hpeace)) hreached
      exact hbefore.requestStop.loops_of_returned hidle hstart hafter hreturned

/-- One loop is stopped while it sleeps, the next while it polls, and in the end none is left. -/
theorem replay?_one_loop_of_restart :
    let before : List MonitorEvent :=
      [.start, .poll 0, .sleep 0, .stop, .finish 0, .stopped 0, .start, .poll 1]
    let after : List MonitorEvent := [.finish 1, .stopped 1]
    ∃ m, replay? {} (before ++ .stop :: after) = some m ∧
      startsInPeace {} (before ++ .stop :: after) = true ∧ m.loops = [] := by
  intro before after
  have hpossible : (replay? {} (before ++ .stop :: after)).isSome = true := by decide
  have hpeace : startsInPeace {} (before ++ .stop :: after) = true := by decide
  obtain ⟨m, hm⟩ := Option.isSome_iff_exists.1 hpossible
  obtain ⟨-, hlone⟩ := replay?_one_loop hm
  obtain ⟨-, -, hreturned⟩ := hlone hpeace
  exact ⟨m, hm, hpeace, hreturned before after rfl (by decide) (.inr ⟨1, by decide⟩)⟩

/-- A start that comes in while a stop waits creates a second loop, of which the stop lets go when
it returns. The next stop finds nothing to wait for, and from the start after it on there are two
loops that poll in turn. And a loop that cannot sleep leaves the monitor running without a loop. -/
theorem replay?_two_loops :
    (∃ m, replay? {} [.start, .poll 0, .sleep 0, .stop, .start, .finish 0, .stopped 0] = some m ∧
        m.running = true ∧ m.task = none ∧ m.loops = [{ id := 1 }]) ∧
      (∃ m, replay? {} [.start, .poll 0, .sleep 0, .stop, .start, .finish 0, .stopped 0, .poll 1,
          .sleep 1, .stop, .start, .poll 2, .sleep 2, .poll 1] = some m ∧
        m.loops = [{ id := 1, phase := .polling }, { id := 2, phase := .sleeping }]) ∧
      ∃ m, replay? {} [.start, .poll 0, .fail 0 .numberTooLarge] = some m ∧
        m.running = true ∧ m.task = some 0 ∧ m.loops = [] :=
  ⟨⟨_, rfl, rfl, rfl, rfl⟩, ⟨_, rfl, rfl⟩, ⟨_, rfl, rfl, rfl, rfl⟩⟩

end Monitor

end DeviceWarnings
