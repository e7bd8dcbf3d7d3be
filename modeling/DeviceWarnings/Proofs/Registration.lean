import DeviceWarnings.Proofs.Serial

/-!
# Who is called after a poll

What is registered is known from the changes that were asked for, whoever asked: callers between two
polls, or callbacks in a round. A change takes some callbacks out, or puts one in at the end that
was not there, so the list stays in the order in which its callbacks were last put in. It has no
room for more than ten, and makes some by giving up the first.

The round of a completed poll is a copy of that list. No later change reaches it: what has been
called in a round and what is left of it always come to the list as it was when the round began. A
fault that is contained and told keeps no callback from being called. Two things cut a round off,
and what is left of it then is never called: a callback that ends by an interruption, or by a fault
that cannot be told, and a cancellation of the poll while a callback waits.
-/

namespace DeviceWarnings

namespace Engine

variable {e : Engine} {callback other : Callback} {requests : List CallbackRequest}
  {change : CallbackRequest} {i j : Nat}

/-! ## One change -/

theorem withRequest_of_mem (h : callback ∈ e.callbacks) :
    e.withRequest (.register callback) = e ∧ e.requestLog (.register callback) = [] :=
  ⟨if_pos h, if_pos h⟩

theorem callbacks_of_not_mem (h : callback ∉ e.callbacks) :
    (e.withRequest (.register callback)).callbacks =
      keepLast (some callbackCapacity) (e.callbacks ++ [callback]) := by
  rw [withRequest, if_neg h]

/-- While there is room, a new callback is put in at the end. -/
theorem callbacks_of_room (h : callback ∉ e.callbacks)
    (hroom : e.callbacks.length < callbackCapacity) :
    (e.withRequest (.register callback)).callbacks = e.callbacks ++ [callback] := by
  have hfits : (e.callbacks ++ [callback]).length - callbackCapacity = 0 := by
    rw [List.length_append, List.length_singleton]
    omega
  rw [callbacks_of_not_mem h, keepLast, hfits, List.drop_zero]

/-- When there is no room, the first callback is taken out for a new one. -/
theorem callbacks_of_full (h : callback ∉ e.callbacks)
    (hfull : e.callbacks.length = callbackCapacity) :
    (e.withRequest (.register callback)).callbacks = e.callbacks.tail ++ [callback] := by
  have hover : (e.callbacks ++ [callback]).length - callbackCapacity = 1 := by
    rw [List.length_append, List.length_singleton]
    omega
  have hsome : 1 ≤ e.callbacks.length := by
    rw [hfull]
    decide
  rw [callbacks_of_not_mem h, keepLast, hover, List.drop_append_of_le_length hsome, List.drop_one]

/-- A change takes callbacks out, or puts a new one in at the end. -/
theorem callbacks_withRequest (e : Engine) (change : CallbackRequest) :
    (e.withRequest change).callbacks.Sublist e.callbacks ∨
      ∃ callback, change = .register callback ∧ callback ∉ e.callbacks ∧
        (e.withRequest change).callbacks.Sublist (e.callbacks ++ [callback]) := by
  cases change with
  | register callback =>
    by_cases h : callback ∈ e.callbacks
    · rw [(withRequest_of_mem h).1]
      exact .inl (List.Sublist.refl _)
    · rw [callbacks_of_not_mem h]
      exact .inr ⟨callback, rfl, h, (keepLast_suffix _ _).sublist⟩
  | unregister callback => exact .inl List.erase_sublist
  | clear => exact .inl (List.nil_sublist _)

theorem length_callbacks_withRequest (h : e.callbacks.length ≤ callbackCapacity) :
    (e.withRequest change).callbacks.length ≤ callbackCapacity := by
  cases change with
  | register callback =>
    by_cases hmem : callback ∈ e.callbacks
    · rwa [(withRequest_of_mem hmem).1]
    · rw [callbacks_of_not_mem hmem, length_keepLast]
      exact Nat.min_le_left _ _
  | unregister callback => exact Nat.le_trans (List.length_erase_le ..) h
  | clear => exact Nat.zero_le _

/-! ## Many changes -/

/-- The engine after some changes of the callbacks. -/
def withRequests (e : Engine) (requests : List CallbackRequest) : Engine :=
  requests.foldl withRequest e

theorem withRequests_concat :
    e.withRequests (requests ++ [change]) = (e.withRequests requests).withRequest change :=
  List.foldl_concat ..

theorem withRequests_append (more : List CallbackRequest) :
    e.withRequests (requests ++ more) = (e.withRequests requests).withRequests more :=
  List.foldl_append

/-- Whether the change at some place of a list registers a callback that is not registered then. -/
def Enrols (e : Engine) (requests : List CallbackRequest) (callback : Callback) (i : Nat) : Prop :=
  requests[i]? = some (.register callback) ∧
    callback ∉ (e.withRequests (requests.take i)).callbacks

/-- Whether this is the last such place of a list. -/
def LastEnrols (e : Engine) (requests : List CallbackRequest) (callback : Callback) (i : Nat) :
    Prop :=
  e.Enrols requests callback i ∧ ∀ j, e.Enrols requests callback j → j ≤ i

theorem Enrols.lt (h : e.Enrols requests callback i) : i < requests.length :=
  (List.getElem?_eq_some_iff.1 h.1).1

theorem enrols_concat :
    e.Enrols (requests ++ [change]) callback i ↔ e.Enrols requests callback i ∨
      i = requests.length ∧ change = .register callback ∧
        callback ∉ (e.withRequests requests).callbacks := by
  rcases Nat.lt_trichotomy i requests.length with hlt | rfl | hgt
  · rw [Enrols, List.getElem?_append_left hlt, List.take_append_of_le_length (by omega), Enrols]
    simp [Nat.ne_of_lt hlt]
  · simp [Enrols]
  · have hend : (requests ++ [change]).length ≤ i := by
      rw [List.length_append, List.length_singleton]
      exact hgt
    rw [Enrols, Enrols, List.getElem?_eq_none hend, List.getElem?_eq_none (by omega)]
    simp [Nat.ne_of_gt hgt]

/-- A change enrols no callback that is registered. -/
theorem lastEnrols_concat_of_mem (h : callback ∈ (e.withRequests requests).callbacks) :
    e.LastEnrols (requests ++ [change]) callback i ↔ e.LastEnrols requests callback i := by
  have hsame (j : Nat) :
      e.Enrols (requests ++ [change]) callback j ↔ e.Enrols requests callback j := by
    rw [enrols_concat]
    exact or_iff_left fun hlast => hlast.2.2 h
  simp only [LastEnrols, hsame]

/-- A new callback is enrolled last where it is registered now. -/
theorem lastEnrols_concat_self (h : callback ∉ (e.withRequests requests).callbacks) :
    e.LastEnrols (requests ++ [.register callback]) callback i ↔ i = requests.length := by
  have hlast : e.Enrols (requests ++ [.register callback]) callback requests.length :=
    enrols_concat.2 (.inr ⟨rfl, rfl, h⟩)
  constructor
  · rintro ⟨hthis, hall⟩
    have hle := hall _ hlast
    have hlt := hthis.lt
    rw [List.length_append, List.length_singleton] at hlt
    omega
  · rintro rfl
    refine ⟨hlast, fun j hj => ?_⟩
    have hlt := hj.lt
    rw [List.length_append, List.length_singleton] at hlt
    omega

/-- Whether some callbacks are there once each, in the order in which they were last enrolled. -/
structure InOrder (e : Engine) (requests : List CallbackRequest) (callbacks : List Callback) :
    Prop where
  nodup : callbacks.Nodup
  enrolled : ∀ callback ∈ callbacks, ∃ i, e.LastEnrols requests callback i
  ordered : callbacks.Pairwise fun callback other =>
    ∀ i j, e.LastEnrols requests callback i → e.LastEnrols requests other j → i < j

namespace InOrder

variable {callbacks fewer : List Callback}

theorem sublist (h : e.InOrder requests callbacks) (hless : fewer.Sublist callbacks) :
    e.InOrder requests fewer where
  nodup := hless.nodup h.nodup
  enrolled callback hcallback := h.enrolled callback (hless.subset hcallback)
  ordered := h.ordered.sublist hless

/-- A change does not enrol those that are registered, so they stay in order. -/
theorem kept (h : e.InOrder requests (e.withRequests requests).callbacks)
    (change : CallbackRequest) :
    e.InOrder (requests ++ [change]) (e.withRequests requests).callbacks where
  nodup := h.nodup
  enrolled callback hcallback := by
    obtain ⟨i, hi⟩ := h.enrolled callback hcallback
    exact ⟨i, (lastEnrols_concat_of_mem hcallback).2 hi⟩
  ordered := by
    refine h.ordered.imp_of_mem fun hcallback hother horder i j => ?_
    rw [lastEnrols_concat_of_mem hcallback, lastEnrols_concat_of_mem hother]
    exact horder i j

/-- A new callback is enrolled after all those that are registered. -/
theorem enrol (h : e.InOrder requests (e.withRequests requests).callbacks)
    (hnew : callback ∉ (e.withRequests requests).callbacks) :
    e.InOrder (requests ++ [.register callback])
      ((e.withRequests requests).callbacks ++ [callback]) where
  nodup := by
    rw [← List.concat_eq_append]
    exact h.nodup.concat hnew
  enrolled other hother := by
    rcases List.mem_append.1 hother with hold | hthis
    · exact (h.kept _).enrolled other hold
    · obtain rfl := List.mem_singleton.1 hthis
      exact ⟨_, (lastEnrols_concat_self hnew).2 rfl⟩
  ordered := by
    refine List.pairwise_append.2 ⟨(h.kept _).ordered, List.pairwise_singleton _ _, ?_⟩
    intro other hold new hthis i j hi hj
    obtain rfl := List.mem_singleton.1 hthis
    rw [(lastEnrols_concat_self hnew).1 hj]
    exact ((lastEnrols_concat_of_mem hold).1 hi).1.lt

end InOrder

/-- Whatever changes are asked for, the callbacks of an engine that had none are in order, and no
more than there is room for. -/
theorem inOrder_withRequests (h : e.callbacks = []) (requests : List CallbackRequest) :
    e.InOrder requests (e.withRequests requests).callbacks ∧
      (e.withRequests requests).callbacks.length ≤ callbackCapacity := by
  induction requests using List.reverseRecOn with
  | nil =>
    have hstart : (e.withRequests []).callbacks = [] := h
    rw [hstart]
    exact ⟨⟨List.nodup_nil, nofun, .nil⟩, Nat.zero_le _⟩
  | append_singleton before change ih =>
    obtain ⟨horder, hlength⟩ := ih
    rw [withRequests_concat]
    refine ⟨?_, length_callbacks_withRequest hlength⟩
    rcases callbacks_withRequest (e.withRequests before) change with
      hless | ⟨new, rfl, hnew, hless⟩
    · exact (horder.kept change).sublist hless
    · exact (horder.enrol hnew).sublist hless

end Engine

/-! ## Sessions -/

/-- Something that is noted of a session: a change of the callbacks was asked for, a callback was
run with a report in the round of a poll, and how, or a poll was cancelled while one waited. -/
inductive Occurrence where
  | request (change : CallbackRequest)
  | call (id : Nat) (callback : Callback) (report : PollReport) (run : CallbackRun)
  | cancel (id : Nat)

namespace Occurrence

/-- The change that was asked for. -/
def request? : Occurrence → Option CallbackRequest
  | request change => some change
  | _ => none

/-- The callback that was run, and the report. -/
def run? : Occurrence → Option (Callback × PollReport)
  | call _ callback report _ => some (callback, report)
  | _ => none

/-- The callback that was run in the round of a given poll, and the report. -/
def runOf? (id : Nat) : Occurrence → Option (Callback × PollReport)
  | call other callback report _ => if other = id then some (callback, report) else none
  | _ => none

/-- The fault that has cut off the round of a given poll. -/
def cutOf? (id : Nat) : Occurrence → Option Fault
  | call other _ _ run => if other = id then run.escape else none
  | cancel other => if other = id then some .cancelled else none
  | request _ => none

variable (id other : Nat) (callback : Callback) (report : PollReport) (run : CallbackRun)
  (requests : List CallbackRequest)

/-- A callback that is run and asks for its changes is noted with them. -/
theorem request?_of_call :
    (call other callback report run :: requests.map request).filterMap request? = requests := by
  rw [List.filterMap_cons_none rfl, List.filterMap_map]
  exact List.filterMap_some

theorem run?_of_call :
    (call other callback report run :: requests.map request).filterMap run? =
      [(callback, report)] := by
  have hrequests : (requests.map request).filterMap run? = [] :=
    List.filterMap_eq_nil_iff.2 (by simp [run?])
  rw [List.filterMap_cons, hrequests]
  rfl

theorem runOf?_of_call :
    (call other callback report run :: requests.map request).filterMap (runOf? id) =
      if other = id then [(callback, report)] else [] := by
  have hrequests : (requests.map request).filterMap (runOf? id) = [] :=
    List.filterMap_eq_nil_iff.2 (by simp [runOf?])
  rw [List.filterMap_cons, hrequests, runOf?]
  by_cases h : other = id
  · rw [if_pos h, if_pos h]
  · rw [if_neg h, if_neg h]

theorem cutOf?_of_call :
    (call other callback report run :: requests.map request).filterMap (cutOf? id) =
      if other = id then run.escape.toList else [] := by
  have hrequests : (requests.map request).filterMap (cutOf? id) = [] :=
    List.filterMap_eq_nil_iff.2 (by simp [cutOf?])
  rw [List.filterMap_cons, hrequests, cutOf?]
  by_cases h : other = id
  · rw [if_pos h, if_pos h]
    cases run.escape <;> rfl
  · rw [if_neg h, if_neg h]

theorem cutOf?_of_cancel :
    [cancel other].filterMap (cutOf? id) = if other = id then [.cancelled] else [] := by
  rw [List.filterMap_cons, cutOf?]
  by_cases h : other = id
  · rw [if_pos h, if_pos h]
    rfl
  · rw [if_neg h, if_neg h]
    rfl

end Occurrence

namespace PollTurns

/-- What is noted of a move: a callback is run and asks for its changes, or a poll is cancelled. -/
def noted (turns : PollTurns) : PollMove → List Occurrence
  | .callback id behaviour =>
    match turns.next? id with
    | some (round, callback, _) =>
      let run := behaviour callback round.report
      .call id callback round.report run :: run.requests.map .request
    | none => []
  | .cancel id _ => [.cancel id]
  | .enter _ => []
  | .resume => []

/-- What outstanding polls can come to, by moves of theirs and by changes of the callbacks that
others ask for, and what is noted meanwhile. -/
inductive Session (polls : Nat → Tick) (start : PollTurns) : List Occurrence → PollTurns → Prop
  | start : Session polls start [] start
  | request {log : List Occurrence} {turns : PollTurns} (h : Session polls start log turns)
      (change : CallbackRequest) :
      Session polls start (log ++ [.request change])
        (turns.advance (Section.request change turns.engine))
  | move {log : List Occurrence} {turns after : PollTurns} {move : PollMove}
      (h : Session polls start log turns) (hmove : turns.move? polls move = some after) :
      Session polls start (log ++ turns.noted move) after

end PollTurns

/-! ### What a callback asks for -/

theorem Engine.withRequests_congr {e other : Engine} (h : e.callbacks = other.callbacks)
    (requests : List CallbackRequest) :
    (e.withRequests requests).callbacks = (other.withRequests requests).callbacks := by
  induction requests generalizing e other with
  | nil => exact h
  | cons change rest ih =>
    refine ih ?_
    cases change with
    | register callback =>
      by_cases hmem : callback ∈ e.callbacks
      · rw [(withRequest_of_mem hmem).1, (withRequest_of_mem (h ▸ hmem)).1, h]
      · rw [callbacks_of_not_mem hmem, callbacks_of_not_mem (h ▸ hmem), h]
    | unregister callback => exact congrArg (·.erase callback) h
    | clear => rfl

/-- All that a callback does to the engine is to change the callbacks as it asks for. -/
theorem Section.runCallback_engine (behaviour : CallbackBehaviour) (report : PollReport)
    (callback : Callback) (e : Engine) :
    (runCallback behaviour report callback e).engine =
      e.withRequests (behaviour callback report).requests := by
  have hrequests (requests : List CallbackRequest) (e : Engine) :
      (requests.forM request e).engine = e.withRequests requests := by
    induction requests generalizing e with
    | nil => rfl
    | cons change rest ih => exact ih (e.withRequest change)
  have hends : ((behaviour callback report).requests.forM request e).outcome = .ok () :=
    forM_outcome (fun _ _ => rfl) _ e
  have hperform : (perform (.callback callback report (behaviour callback report).printed)
      e).outcome = .ok () := rfl
  rw [runCallback, bind_apply_of_ok hperform]
  dsimp only [perform]
  rw [bind_apply_of_ok hends]
  -- only log records can come after the requests
  cases (behaviour callback report).escape with
  | some fault => exact hrequests _ e
  | none =>
    have htold : Keeps (fun e => e) ((behaviour callback report).fault.forM fun fault =>
        log .error .engine
          ("Poll callback error in " ++ callback.name ++ ": " ++ fault.message)) :=
      keeps_optionForM _ fun _ => keeps_log _ _ _
    exact (htold _).trans (hrequests _ e)

namespace PollTurns

variable {polls : Nat → Tick} {start turns after : PollTurns} {log : List Occurrence}
  {report : PollReport} {callback : Callback} {rest : List Callback} {id : Nat}

theorem noted_callback {round : CallbackRound}
    (hnext : turns.next? id = some (round, callback, rest)) (behaviour : CallbackBehaviour) :
    turns.noted (.callback id behaviour) =
      .call id callback round.report (behaviour callback round.report) ::
        (behaviour callback round.report).requests.map .request := by
  simp only [noted, hnext]

/-! ### What a move leaves as it is -/

/-- A poll that takes the lock leaves the callbacks and the rounds as they are. -/
theorem beginPoll_spec (turns : PollTurns) (id : Nat) (readings : ThermalReadings) :
    let after := turns.beginPoll id readings
    after.engine.callbacks = turns.engine.callbacks ∧
      callbackRuns after.effects = callbackRuns turns.effects ∧ after.rounds = turns.rounds ∧
      turns.ended ⊆ after.ended := by
  have hkeeps : Section.Keeps Engine.callbacks (Section.pollFirst readings) :=
    Section.keeps_pollFirst (fun _ _ => rfl) (fun _ _ => rfl) (fun _ _ => rfl) (fun _ _ => rfl)
      (fun _ _ => rfl) _
  have hruns : callbackRuns (turns.advance (Section.pollFirst readings turns.engine)).effects =
      callbackRuns turns.effects := by
    rw [advance, callbackRuns_append, Section.pollFirst_callbackRuns, List.append_nil]
  cases h : (Section.pollFirst readings turns.engine).outcome with
  | ok first =>
    rw [beginPoll_of_ok h]
    exact ⟨hkeeps _, hruns, rfl, List.Subset.refl _⟩
  | error fault =>
    rw [beginPoll_of_error h]
    exact ⟨hkeeps _, hruns, rfl, List.map_subset _ (List.subset_append_left _ _)⟩

/-- A poll that lets go of the lock leaves the callbacks as they are, and at most adds rounds after
those that there are. -/
theorem finishPoll_spec (turns : PollTurns) (half : HalfPoll) (readings : PowerReadings) :
    let after := turns.finishPoll half readings
    after.engine.callbacks = turns.engine.callbacks ∧
      callbackRuns after.effects = callbackRuns turns.effects ∧
      (∃ new, after.rounds = turns.rounds ++ new) ∧
      turns.ended ⊆ after.ended := by
  have hkeeps : Section.Keeps Engine.callbacks
      (Section.pollSecond half.settings half.thermal readings) :=
    Section.keeps_pollSecond (fun _ _ => rfl) (fun _ _ => rfl) (fun _ _ => rfl) (fun _ _ => rfl)
      _ _ _
  have hruns : callbackRuns (turns.advance (Section.pollSecond half.settings half.thermal readings
      turns.engine)).effects = callbackRuns turns.effects := by
    rw [advance, callbackRuns_append, Section.pollSecond_callbackRuns, List.append_nil]
  cases h : (Section.pollSecond half.settings half.thermal readings turns.engine).outcome with
  | ok report =>
    rw [finishPoll_of_ok h]
    exact ⟨hkeeps _, hruns, ⟨[_], rfl⟩, List.map_subset _ (List.subset_append_left _ _)⟩
  | error fault =>
    rw [finishPoll_of_error h]
    exact ⟨hkeeps _, hruns, ⟨[], (List.append_nil _).symm⟩,
      List.map_subset _ (List.subset_append_left _ _)⟩

/-- What a session has noted is what was asked for and who was run. -/
theorem Session.log_spec (h : Session polls start log turns) :
    turns.engine.callbacks =
        (start.engine.withRequests (log.filterMap Occurrence.request?)).callbacks ∧
      callbackRuns turns.effects =
        callbackRuns start.effects ++ log.filterMap Occurrence.run? := by
  induction h with
  | start => exact ⟨rfl, (List.append_nil _).symm⟩
  | @request log turns h change ih =>
    have hquiet : callbackRuns (Section.request change turns.engine).effects = [] :=
      List.filterMap_eq_nil_iff.2 fun effect heffect => by
        obtain ⟨record, -, rfl⟩ := List.mem_map.1 heffect
        rfl
    rw [List.filterMap_append, List.filterMap_append, Engine.withRequests_append]
    refine ⟨Engine.withRequests_congr ih.1 [change], ?_⟩
    rw [advance, callbackRuns_append, ih.2, hquiet, List.append_assoc]
    rfl
  | @move log turns after move h hmove ih =>
    obtain ⟨id, rfl, -, -, rfl⟩ | ⟨half, rfl, -, rfl⟩ |
      ⟨id, behaviour, round, callback, rest, rfl, hnext, rfl⟩ |
      ⟨id, behaviour, round, callback, rest, rfl, -, -, rfl⟩ := move?_cases hmove
    · obtain ⟨hcallbacks, hruns, -⟩ := beginPoll_spec turns id (polls id).readings.thermal
      rw [hcallbacks, hruns, noted, List.append_nil]
      exact ih
    · obtain ⟨hcallbacks, hruns, -⟩ := finishPoll_spec turns half (polls half.id).readings.power
      rw [hcallbacks, hruns, noted, List.append_nil]
      exact ih
    · have hrun := (Section.runCallback_spec behaviour round.report callback turns.engine).2
      have hengine := Section.runCallback_engine behaviour round.report callback turns.engine
      rw [noted_callback hnext, List.filterMap_append, List.filterMap_append,
        Occurrence.request?_of_call, Occurrence.run?_of_call, Engine.withRequests_append,
        ← Engine.withRequests_congr ih.1, ← List.append_assoc, ← ih.2, ← hrun,
        ← callbackRuns_append, ← hengine]
      exact ⟨rfl, rfl⟩
    · rw [noted, List.filterMap_append, List.filterMap_append, List.filterMap_cons_none rfl,
        List.filterMap_cons_none rfl, List.filterMap_nil, List.filterMap_nil, List.append_nil,
        List.append_nil]
      exact ih

/-! ### Rounds -/

/-- No two polls have the same round, and the poll that holds the lock has none yet. -/
structure HasOwnRounds (turns : PollTurns) : Prop where
  rounds : ∀ round ∈ turns.rounds, round.id ∈ turns.ended
  holder : ∀ half, turns.holder = some half → half.id ∉ turns.ended

namespace HasOwnRounds

theorem beginPoll (h : turns.HasOwnRounds) (hfree : turns.holder = none)
    (hnew : turns.outcomes.lookup id = none) (readings : ThermalReadings) :
    (turns.beginPoll id readings).HasOwnRounds := by
  cases hfirst : (Section.pollFirst readings turns.engine).outcome with
  | ok first =>
    rw [beginPoll_of_ok hfirst]
    refine ⟨h.rounds, fun half hhalf hended => ?_⟩
    obtain rfl := Option.some.inj hhalf
    obtain ⟨⟨other, outcome⟩, hmem, rfl⟩ := List.mem_map.1 hended
    simpa using List.lookup_eq_none_iff.1 hnew _ hmem
  | error fault =>
    rw [beginPoll_of_error hfirst]
    refine ⟨fun round hround => ?_, fun half hhalf => ?_⟩
    · rw [ended, List.map_append]
      exact List.mem_append_left _ (h.rounds round hround)
    · cases hfree.symm.trans hhalf

theorem finishPoll (h : turns.HasOwnRounds) (half : HalfPoll) (readings : PowerReadings) :
    (turns.finishPoll half readings).HasOwnRounds := by
  have hholder : (turns.finishPoll half readings).holder = none := finishPoll_holder half readings
  refine ⟨?_, fun other hother => ?_⟩
  case refine_2 => cases hholder.symm.trans hother
  cases hsecond : (Section.pollSecond half.settings half.thermal readings turns.engine).outcome with
  | ok report =>
    rw [finishPoll_of_ok hsecond]
    intro round hround
    rw [ended, List.map_append]
    rcases List.mem_append.1 hround with hold | hnew
    · exact List.mem_append_left _ (h.rounds round hold)
    · obtain rfl := List.mem_singleton.1 hnew
      exact List.mem_append_right _ (List.mem_singleton_self _)
  | error fault =>
    rw [finishPoll_of_error hsecond]
    intro round hround
    rw [ended, List.map_append]
    exact List.mem_append_left _ (h.rounds round hround)

theorem advance {α : Type} (h : turns.HasOwnRounds) (progress : Progress α) :
    (turns.advance progress).HasOwnRounds :=
  ⟨h.rounds, h.holder⟩

theorem updateRound {change : CallbackRound → CallbackRound} (h : turns.HasOwnRounds)
    (hkeeps : ∀ round, (change round).id = round.id ∧ (change round).report = round.report) :
    (turns.updateRound id change).HasOwnRounds where
  rounds := by
    intro round hround
    obtain ⟨before, hbefore, hid, -⟩ := exists_of_mem_updateRound hround hkeeps
    rw [hid]
    exact h.rounds before hbefore
  holder := h.holder

end HasOwnRounds

theorem Session.hasOwnRounds {e : Engine} (h : Session polls { engine := e } log turns) :
    turns.HasOwnRounds := by
  induction h with
  | start =>
    refine ⟨fun round hround => ?_, fun half hhalf => ?_⟩
    · cases hround
    · cases hhalf
  | request h change ih => exact ih.advance _
  | move h hmove ih =>
    obtain ⟨id, rfl, hfree, hnew, rfl⟩ | ⟨half, rfl, -, rfl⟩ |
      ⟨id, behaviour, round, callback, rest, rfl, -, rfl⟩ |
      ⟨id, behaviour, round, callback, rest, rfl, -, -, rfl⟩ := move?_cases hmove
    · exact ih.beginPoll hfree hnew _
    · exact ih.finishPoll half _
    · exact (ih.advance _).updateRound fun _ => ⟨rfl, rfl⟩
    · exact ih.updateRound fun _ => ⟨rfl, rfl⟩

/-- The round of a poll begins with the callbacks that are registered then. -/
theorem HasOwnRounds.round?_finishPoll (h : turns.HasOwnRounds) {half : HalfPoll}
    (hholds : turns.holder = some half) {readings : PowerReadings}
    (hreport : (Section.pollSecond half.settings half.thermal readings turns.engine).outcome =
      .ok report) :
    (turns.finishPoll half readings).round? half.id =
      some ⟨half.id, report, (turns.finishPoll half readings).engine.callbacks, none⟩ := by
  have hnone : turns.rounds.find? (fun round => round.id = half.id) = none := by
    refine List.find?_eq_none.2 fun round hround hsame => ?_
    exact h.holder half hholds (of_decide_eq_true hsame ▸ h.rounds round hround)
  rw [finishPoll_of_ok hreport, round?]
  dsimp only
  rw [List.find?_append, hnone]
  simp

/-- A move that neither runs a callback of a poll nor cancels it leaves its round as it is. -/
theorem move?_keeps {move : PollMove} {round : CallbackRound}
    (hmove : turns.move? polls move = some after) (hround : turns.round? id = some round)
    (hother : ∀ behaviour, move ≠ .callback id behaviour ∧ move ≠ .cancel id behaviour) :
    after.round? id = some round ∧ (turns.noted move).filterMap (Occurrence.runOf? id) = [] ∧
      (turns.noted move).filterMap (Occurrence.cutOf? id) = [] := by
  obtain ⟨other, rfl, -, -, rfl⟩ | ⟨half, rfl, -, rfl⟩ |
    ⟨other, behaviour, found, callback, left, rfl, hnext, rfl⟩ |
    ⟨other, behaviour, found, callback, left, rfl, hnext, -, rfl⟩ := move?_cases hmove
  · obtain ⟨-, -, hrounds, -⟩ := beginPoll_spec turns other (polls other).readings.thermal
    refine ⟨?_, rfl, rfl⟩
    rw [round?, hrounds]
    exact hround
  · obtain ⟨-, -, ⟨new, hrounds⟩, -⟩ := finishPoll_spec turns half (polls half.id).readings.power
    refine ⟨?_, rfl, rfl⟩
    rw [round?] at hround ⊢
    rw [hrounds, List.find?_append, hround]
    rfl
  · have hne : other ≠ id := fun heq => (hother behaviour).1 (by rw [heq])
    rw [round?_runCallback behaviour (next?_eq_some.1 hnext).1, if_neg (Ne.symm hne), hround,
      noted_callback hnext, Occurrence.runOf?_of_call, Occurrence.cutOf?_of_call, if_neg hne,
      if_neg hne]
    exact ⟨rfl, rfl, rfl⟩
  · have hne : other ≠ id := fun heq => (hother behaviour).2 (by rw [heq])
    refine ⟨?_, rfl, ?_⟩
    · rw [cancelRound, round?_updateRound, if_neg (Ne.symm hne), hround]
      exact fun _ => rfl
    · rw [noted, Occurrence.cutOf?_of_cancel, if_neg hne]

/-- A callback that is run for a poll is the next of its round, which it may cut off. -/
theorem move?_runs {behaviour : CallbackBehaviour} {round : CallbackRound}
    (hmove : turns.move? polls (.callback id behaviour) = some after)
    (hround : turns.round? id = some round) :
    let noted := turns.noted (.callback id behaviour)
    round.cut = none ∧ ∃ callback left, round.remaining = callback :: left ∧
      after.round? id =
        some { round with remaining := left, cut := (behaviour callback round.report).escape } ∧
      noted.filterMap (Occurrence.runOf? id) = [(callback, round.report)] ∧
      noted.filterMap (Occurrence.cutOf? id) =
        (behaviour callback round.report).escape.toList := by
  intro noted
  obtain ⟨_, hmade, -⟩ | ⟨_, hmade, -⟩ | ⟨_, _, found, callback, left, hmade, hnext, rfl⟩ |
    ⟨_, _, _, _, _, hmade, -⟩ := move?_cases hmove
  all_goals cases hmade
  obtain ⟨hfound, hfree, hleft⟩ := next?_eq_some.1 hnext
  obtain rfl := Option.some.inj (hround.symm.trans hfound)
  have hnoted : noted = _ := noted_callback hnext behaviour
  refine ⟨hfree, callback, left, hleft, ?_, ?_, ?_⟩
  · rw [round?_runCallback behaviour hround, if_pos rfl]
  · rw [hnoted, Occurrence.runOf?_of_call, if_pos rfl]
  · rw [hnoted, Occurrence.cutOf?_of_call, if_pos rfl]

/-- A cancellation of a poll cuts its round off, and nothing is run by it. -/
theorem move?_cuts {behaviour : CallbackBehaviour} {round : CallbackRound}
    (hmove : turns.move? polls (.cancel id behaviour) = some after)
    (hround : turns.round? id = some round) :
    let noted := turns.noted (.cancel id behaviour)
    round.cut = none ∧ after.round? id = some { round with cut := some .cancelled } ∧
      noted.filterMap (Occurrence.runOf? id) = [] ∧
      noted.filterMap (Occurrence.cutOf? id) = [.cancelled] := by
  intro noted
  obtain ⟨_, hmade, -⟩ | ⟨_, hmade, -⟩ | ⟨_, _, _, _, _, hmade, -⟩ |
    ⟨_, _, found, callback, left, hmade, hnext, -, rfl⟩ := move?_cases hmove
  all_goals cases hmade
  obtain ⟨hfound, hfree, -⟩ := next?_eq_some.1 hnext
  obtain rfl := Option.some.inj (hround.symm.trans hfound)
  refine ⟨hfree, ?_, rfl, ?_⟩
  · rw [cancelRound, round?_updateRound, if_pos rfl, hround]
    · rfl
    · exact fun _ => rfl
  · exact (Occurrence.cutOf?_of_cancel ..).trans (if_pos rfl)

/-- What has been called in a round and what is left of it come to what was to be called in the
first place, and the round is cut off exactly if something that was noted has done so. -/
theorem Session.calls_and_rest {callbacks : List Callback}
    (hround : start.round? id = some ⟨id, report, callbacks, none⟩)
    (h : Session polls start log turns) :
    ∃ rest cut, turns.round? id = some ⟨id, report, rest, cut⟩ ∧
      log.filterMap (Occurrence.runOf? id) ++ rest.map (·, report) =
        callbacks.map (·, report) ∧
      log.filterMap (Occurrence.cutOf? id) = cut.toList := by
  induction h with
  | start => exact ⟨callbacks, none, hround, rfl, rfl⟩
  | request h change ih =>
    obtain ⟨rest, cut, hrest, hcalls, hcut⟩ := ih
    refine ⟨rest, cut, hrest, ?_, ?_⟩
    · rw [List.filterMap_append, ← hcalls]
      exact congrArg (· ++ _) (List.append_nil _)
    · rw [List.filterMap_append, hcut]
      exact List.append_nil _
  | @move log turns after move h hmove ih =>
    obtain ⟨rest, cut, hrest, hcalls, hcut⟩ := ih
    rw [List.filterMap_append, List.filterMap_append]
    by_cases hthis : ∃ behaviour, move = .callback id behaviour ∨ move = .cancel id behaviour
    case neg =>
      obtain ⟨hkept, hruns, hcuts⟩ := move?_keeps hmove hrest fun behaviour =>
        ⟨fun heq => hthis ⟨behaviour, .inl heq⟩, fun heq => hthis ⟨behaviour, .inr heq⟩⟩
      refine ⟨rest, cut, hkept, ?_, ?_⟩
      · rwa [hruns, List.append_nil]
      · rwa [hcuts, List.append_nil]
    case pos =>
      obtain ⟨behaviour, rfl | rfl⟩ := hthis
      · obtain ⟨rfl, callback, left, rfl, hleft, hruns, hcuts⟩ := move?_runs hmove hrest
        refine ⟨left, _, hleft, ?_, ?_⟩
        · rw [hruns, List.append_assoc]
          exact hcalls
        · rw [hcuts, hcut]
          rfl
      · obtain ⟨rfl, hleft, hruns, hcuts⟩ := move?_cuts hmove hrest
        refine ⟨rest, _, hleft, ?_, ?_⟩
        · rwa [hruns, List.append_nil]
        · rw [hcuts, hcut]
          rfl

/-- Nothing more is run in a round that is cut off. -/
theorem Session.runOf?_of_cut {round : CallbackRound} (hround : start.round? id = some round)
    (hcut : round.cut.isSome = true) (h : Session polls start log turns) :
    turns.round? id = some round ∧ log.filterMap (Occurrence.runOf? id) = [] := by
  induction h with
  | start => exact ⟨hround, rfl⟩
  | request h change ih =>
    refine ⟨ih.1, ?_⟩
    rw [List.filterMap_append, ih.2]
    rfl
  | @move log turns after move h hmove ih =>
    have hlocked : round.cut ≠ none := Option.isSome_iff_ne_none.1 hcut
    have hother (behaviour : CallbackBehaviour) :
        move ≠ .callback id behaviour ∧ move ≠ .cancel id behaviour := by
      constructor
      · rintro rfl
        exact hlocked (move?_runs hmove ih.1).1
      · rintro rfl
        exact hlocked (move?_cuts hmove ih.1).1
    obtain ⟨hkept, hruns, -⟩ := move?_keeps hmove ih.1 hother
    exact ⟨hkept, by rw [List.filterMap_append, ih.2, hruns]; rfl⟩

/-- Callbacks are run for polls only that have ended. -/
theorem Session.mem_ended_of_call {e : Engine} {run : CallbackRun}
    (h : Session polls { engine := e } log turns)
    (hcall : .call id callback report run ∈ log) : id ∈ turns.ended := by
  induction h with
  | start => cases hcall
  | request h change ih =>
    rcases List.mem_append.1 hcall with hold | hnew
    · exact ih hold
    · cases List.mem_singleton.1 hnew
  | @move log turns after move h hmove ih =>
    obtain ⟨other, rfl, -, -, rfl⟩ | ⟨half, rfl, -, rfl⟩ |
      ⟨other, behaviour, round, next, rest, rfl, hnext, rfl⟩ |
      ⟨other, behaviour, round, next, rest, rfl, -, -, rfl⟩ := move?_cases hmove
    · obtain ⟨-, -, -, hended⟩ := beginPoll_spec turns other (polls other).readings.thermal
      rw [noted, List.append_nil] at hcall
      exact hended (ih hcall)
    · obtain ⟨-, -, -, hended⟩ := finishPoll_spec turns half (polls half.id).readings.power
      rw [noted, List.append_nil] at hcall
      exact hended (ih hcall)
    · have hround := (next?_eq_some.1 hnext).1
      rw [noted_callback hnext] at hcall
      rcases List.mem_append.1 hcall with hold | hnew
      · exact ih hold
      · have hother : id = other := by
          rcases List.mem_cons.1 hnew with hthis | hrequest
          · exact (Occurrence.call.inj hthis).1
          · obtain ⟨change, -, hchange⟩ := List.mem_map.1 hrequest
            cases hchange
        have hid : round.id = other := by simpa using List.find?_some hround
        rw [hother, ← hid]
        exact h.hasOwnRounds.rounds round (List.mem_of_find?_eq_some hround)
    · rcases List.mem_append.1 hcall with hold | hnew
      · exact ih hold
      · cases List.mem_singleton.1 hnew

/-- No callback is run in the round of a poll before the poll has ended. -/
theorem Session.runOf?_eq_nil {e : Engine} (h : Session polls { engine := e } log turns)
    (hid : id ∉ turns.ended) : log.filterMap (Occurrence.runOf? id) = [] := by
  refine List.filterMap_eq_nil_iff.2 fun occurrence hmem => ?_
  cases occurrence with
  | request change => rfl
  | cancel other => rfl
  | call other callback report run =>
    have hended : other ∈ turns.ended := h.mem_ended_of_call hmem
    exact if_neg fun hother : other = id => hid (hother ▸ hended)

/-- Moves alone make up a session. -/
theorem Session.of_replay? {moves : List PollMove} (h : turns.replay? polls moves = some after) :
    ∃ log, Session polls turns log after := by
  induction moves using List.reverseRecOn generalizing after with
  | nil =>
    obtain rfl := Option.some.inj h
    exact ⟨[], .start⟩
  | append_singleton before move ih =>
    rw [replay?_append] at h
    obtain ⟨reached, hreached, hmove⟩ := Option.bind_eq_some_iff.1 h
    rw [replay?_singleton] at hmove
    obtain ⟨log, hlog⟩ := ih hreached
    exact ⟨_, hlog.move hmove⟩

variable (polls) in
/-- Whether some callbacks are run in the round of a poll with a report, each once and in order,
whatever happens from some moment on, until the round is cut off: those that have been run then and
those that are left come to all of them. As long as nothing has cut the round off, the next one can
be run, until none is left, and afterwards none is. -/
def RunsEach (start : PollTurns) (id : Nat) (report : PollReport) (callbacks : List Callback) :
    Prop :=
  ∀ log turns, Session polls start log turns →
    ∃ rest cut, turns.round? id = some ⟨id, report, rest, cut⟩ ∧
      log.filterMap (Occurrence.runOf? id) ++ rest.map (·, report) = callbacks.map (·, report) ∧
      log.filterMap (Occurrence.cutOf? id) = cut.toList ∧
      (rest ≠ [] → cut = none →
        ∀ behaviour, (turns.move? polls (.callback id behaviour)).isSome = true) ∧
      (∀ fault, cut = some fault → ∀ more done, Session polls turns more done →
        more.filterMap (Occurrence.runOf? id) = []) ∧
      ∃ more done, Session polls turns more done ∧ done.RoundEnded id

/-- A round runs each callback that it begins with, until it is cut off. -/
theorem runsEach_of_round {callbacks : List Callback}
    (hround : start.round? id = some ⟨id, report, callbacks, none⟩) :
    RunsEach polls start id report callbacks := by
  intro log turns h
  obtain ⟨rest, cut, hrest, hcalls, hcut⟩ := h.calls_and_rest hround
  refine ⟨rest, cut, hrest, hcalls, hcut, fun hsome hfree behaviour => ?_,
    fun fault hfault more done hmore => ?_, ?_⟩
  · obtain ⟨callback, left, rfl⟩ := List.exists_cons_of_ne_nil hsome
    rw [move?_callback behaviour (next?_eq_some.2 ⟨hrest, hfree, rfl⟩)]
    rfl
  · exact (hmore.runOf?_of_cut hrest (by rw [hfault]; rfl)).2
  · obtain ⟨done, ⟨moves, hmoves, -⟩, hended, -⟩ := exists_roundEnded polls turns id
    obtain ⟨more, hmore⟩ := Session.of_replay? hmoves
    exact ⟨more, done, hmore, hended⟩

/-- Whatever polls do and whoever asks for changes of the callbacks of a new engine, they are in the
order in which they were last put in, each there once, and no more than ten; one that is there is
not put in again, and one that is not comes last, for which the first is given up if there is no
room. When a poll is completed, the callbacks of that moment are run with its report, each once and
in order, whatever they ask for, whichever of them fail, and whatever happens meanwhile, unless one
of them ends by a fault that nobody contains, or the poll is cancelled while one waits: this cuts
off those that are left. -/
theorem session_callbacks {clock : Binary64}
    (h : Session polls { engine := .new clock } log turns) :
    let callbacks := turns.engine.callbacks
    ((Engine.new clock).InOrder (log.filterMap Occurrence.request?) callbacks ∧
      callbacks.length ≤ callbackCapacity) ∧
    (∀ callback,
      (callback ∈ callbacks →
        turns.engine.withRequest (.register callback) = turns.engine ∧
          turns.engine.requestLog (.register callback) = []) ∧
      (callback ∉ callbacks →
        (turns.engine.withRequest (.register callback)).callbacks =
          (if callbacks.length < callbackCapacity then callbacks else callbacks.tail) ++
            [callback])) ∧
    callbackRuns turns.effects = log.filterMap Occurrence.run? ∧
    ∀ half report, turns.holder = some half →
      (Section.pollSecond half.settings half.thermal (polls half.id).readings.power
        turns.engine).outcome = .ok report →
      ∃ after, turns.move? polls .resume = some after ∧ after.engine.callbacks = callbacks ∧
        log.filterMap (Occurrence.runOf? half.id) = [] ∧
        RunsEach polls after half.id report callbacks := by
  intro callbacks
  obtain ⟨hcallbacks, hruns⟩ := h.log_spec
  have hspec : (Engine.new clock).InOrder (log.filterMap Occurrence.request?) callbacks ∧
      callbacks.length ≤ callbackCapacity := by
    rw [show callbacks = _ from hcallbacks]
    exact Engine.inOrder_withRequests rfl _
  refine ⟨hspec, fun callback => ⟨Engine.withRequest_of_mem, fun hnew => ?_⟩, hruns,
    fun half report hholds hreport => ?_⟩
  · split
    case isTrue hroom => exact Engine.callbacks_of_room hnew hroom
    case isFalse hfull =>
      exact Engine.callbacks_of_full hnew (Nat.le_antisymm hspec.2 (Nat.not_lt.1 hfull))
  · have hown := h.hasOwnRounds
    have hround := hown.round?_finishPoll hholds hreport
    obtain ⟨hsame, -⟩ := finishPoll_spec turns half (polls half.id).readings.power
    rw [hsame] at hround
    exact ⟨_, move?_resume hholds, hsame, h.runOf?_eq_nil (hown.holder half hholds),
      runsEach_of_round hround⟩

/-- Two callbacks are registered, one of them twice, before a poll begins. When it is completed both
are run with its report, even if one of them clears the list meanwhile, or fails. -/
theorem session_callbacks_of_two :
    let lamp : Callback := .named "lamp"
    let siren : Callback := .named "siren"
    let polls (_ : Nat) : Tick := .ofPower {}
    let report : PollReport := ⟨{}, {}, some {}⟩
    ∃ log turns after, Session polls { engine := .new .zero } log turns ∧
      turns.engine.callbacks = [lamp, siren] ∧ turns.move? polls .resume = some after ∧
      ∀ more later, Session polls after more later → later.RoundEnded 0 →
        more.filterMap (Occurrence.cutOf? 0) = [] →
          more.filterMap (Occurrence.runOf? 0) = [(lamp, report), (siren, report)] := by
  intro lamp siren polls report
  let request (turns : PollTurns) (change : CallbackRequest) :=
    turns.advance (Section.request change turns.engine)
  let free := request (request (request { engine := .new .zero } (.register lamp))
    (.register siren)) (.register lamp)
  let turns := free.beginPoll 0 (polls 0).readings.thermal
  have hsession : Session polls { engine := .new .zero } _ turns :=
    .move (.request (.request (.request .start (.register lamp)) (.register siren))
      (.register lamp)) (move?_enter rfl (List.not_mem_nil))
  have hcallbacks : turns.engine.callbacks = [lamp, siren] := by decide +kernel
  have hholds : turns.holder = some ⟨0, {}, {}⟩ := by decide +kernel
  have hreport : (Section.pollSecond {} {} (polls 0).readings.power turns.engine).outcome =
      .ok report := by decide +kernel
  obtain ⟨-, -, -, hrounds⟩ := session_callbacks hsession
  obtain ⟨after, hafter, -, -, hround⟩ := hrounds _ report hholds hreport
  refine ⟨_, turns, after, hsession, hcallbacks, hafter, fun more later hlater hended huncut => ?_⟩
  obtain ⟨rest, cut, hrest, hcalls, hcut, -⟩ := hround more later hlater
  obtain rfl : cut = none := by simpa [huncut] using hcut.symm
  obtain rfl : rest = [] := (hended _ hrest).resolve_right nofun
  rw [hcallbacks] at hcalls
  simpa using hcalls

/-- It is not so that all callbacks are called: when a poll is cancelled while the second of three
waits, only the first ever is run, and the third is never called. -/
theorem not_all_called_of_cancel :
    let lamp : Callback := .named "lamp"
    let siren : Callback := .named "siren"
    let horn : Callback := .named "horn"
    let polls (_ : Nat) : Tick := .ofPower {}
    let report : PollReport := ⟨{}, {}, some {}⟩
    ∃ log turns after more later, Session polls { engine := .new .zero } log turns ∧
      turns.engine.callbacks = [lamp, siren, horn] ∧ turns.move? polls .resume = some after ∧
      Session polls after more later ∧
      more.filterMap (Occurrence.runOf? 0) = [(lamp, report)] ∧
      ∀ rest done, Session polls later rest done →
        rest.filterMap (Occurrence.runOf? 0) = [] := by
  intro lamp siren horn polls report
  let request (turns : PollTurns) (change : CallbackRequest) :=
    turns.advance (Section.request change turns.engine)
  let free := request (request (request { engine := .new .zero } (.register lamp))
    (.register siren)) (.register horn)
  let turns := free.beginPoll 0 (polls 0).readings.thermal
  let after := turns.finishPoll ⟨0, {}, {}⟩ (polls 0).readings.power
  let whole : CallbackRound := ⟨0, report, [lamp, siren, horn], none⟩
  let first := after.runCallback (fun _ _ => {}) whole lamp [siren, horn]
  have hsession : Session polls { engine := .new .zero } _ turns :=
    .move (.request (.request (.request .start (.register lamp)) (.register siren))
      (.register horn)) (move?_enter rfl (List.not_mem_nil))
  have hholds : turns.holder = some ⟨0, {}, {}⟩ := by decide +kernel
  have hnext : after.next? 0 = some (whole, lamp, [siren, horn]) := by decide +kernel
  have hwaiting : first.next? 0 = some (⟨0, report, [siren, horn], none⟩, siren, [horn]) := by
    decide +kernel
  have hcancelled : first.move? polls (.cancel 0 fun _ _ => { waits := true }) =
      some (first.cancelRound 0) := by
    rw [move?, step?, hwaiting]
    rfl
  have hcalled : Session polls after _ first :=
    .move .start (move?_callback (fun _ _ => {}) hnext)
  have hcut : (first.cancelRound 0).round? 0 =
      some ⟨0, report, [siren, horn], some .cancelled⟩ := by decide +kernel
  refine ⟨_, turns, after, _, first.cancelRound 0, hsession, by decide +kernel,
    move?_resume hholds, hcalled.move hcancelled, ?_, fun rest done hdone => ?_⟩
  · rw [noted_callback hnext]
    rfl
  · exact (hdone.runOf?_of_cut hcut rfl).2

end PollTurns

end DeviceWarnings
