import DeviceWarnings.Engine.Turns
import DeviceWarnings.Proofs.Completion
import Mathlib.Data.List.Forall2
import Mathlib.Data.List.Nodup

/-!
# Outstanding polls are served one after the other

However the halves of outstanding polls and the callbacks of completed ones are interleaved, the
engine and the display come to what they come to when the same polls are run one at a time, in the
order in which they took the lock. Between the halves of a poll only callbacks of earlier polls are
run. They change nothing but what is registered, at which polls do not look, so the two halves fit
together as if nothing had been in between. What is registered may differ in the end, since
callbacks may register others later or earlier than they would one poll at a time.

A poll keeps its report: its callbacks are run with it and its caller gets it, however many polls
have changed the engine meanwhile. A round that is cut off, by a callback whose fault nobody
contains or by a cancellation while a callback waits, ends early, and the caller gets the fault.
-/

namespace DeviceWarnings

/-- What happens next among outstanding polls. -/
inductive PollMove where
  /-- A poll takes the lock. -/
  | enter (id : Nat)
  /-- The poll that holds the lock is told what its power reading has come to. -/
  | resume
  /-- The next callback of a poll is run, and behaves so. -/
  | callback (id : Nat) (behaviour : CallbackBehaviour)
  /-- A poll is cancelled while its next callback waits. -/
  | cancel (id : Nat) (behaviour : CallbackBehaviour)

namespace PollMove

/-- The poll that takes the lock. -/
def entrant? : PollMove → Option Nat
  | enter id => some id
  | _ => none

/-- The poll one of whose callbacks is run. -/
def caller? : PollMove → Option Nat
  | callback id _ => some id
  | _ => none

end PollMove

/-- The polls that take the lock in some moves, in order. -/
def entrants (moves : List PollMove) : List Nat := moves.filterMap PollMove.entrant?

/-- The polls whose callbacks are run in some moves, once for each of them, in order. -/
def callers (moves : List PollMove) : List Nat := moves.filterMap PollMove.caller?

theorem entrants_append (moves more : List PollMove) :
    entrants (moves ++ more) = entrants moves ++ entrants more :=
  List.filterMap_append

theorem callers_append (moves more : List PollMove) :
    callers (moves ++ more) = callers moves ++ callers more :=
  List.filterMap_append

/-- The run of an engine through some polls, one at a time. -/
def Engine.serve (e : Engine) (polls : Nat → Tick) (ids : List Nat) : Run := e.run (ids.map polls)

theorem Engine.serve_concat (e : Engine) (polls : Nat → Tick) (ids : List Nat) (id : Nat) :
    e.serve polls (ids ++ [id]) = (e.serve polls ids).tick (polls id) := by
  rw [serve, serve, List.map_append, List.map_singleton, run_concat]

namespace PollTurns

variable (polls : Nat → Tick)

/-- The polls after a move, if the move is possible. What the sources answer to a poll is told with
the poll. -/
def move? (turns : PollTurns) : PollMove → Option PollTurns
  | .enter id => turns.step? (polls id).behaviour (.begin id (polls id).readings.thermal)
  | .resume => turns.holder.bind fun half =>
      turns.step? (polls half.id).behaviour (.finish (polls half.id).readings.power)
  | .callback id behaviour => turns.step? behaviour (.callback id)
  | .cancel id behaviour => turns.step? behaviour (.cancel id)

/-- The polls after some moves, if each is possible in its turn. -/
def replay? (turns : PollTurns) (moves : List PollMove) : Option PollTurns :=
  moves.foldlM (move? polls) turns

theorem replay?_append (turns : PollTurns) (moves more : List PollMove) :
    turns.replay? polls (moves ++ more) =
      (turns.replay? polls moves).bind fun after => after.replay? polls more :=
  List.foldlM_append

theorem replay?_singleton (turns : PollTurns) (move : PollMove) :
    turns.replay? polls [move] = turns.move? polls move := by
  rw [replay?, List.foldlM_cons]
  exact bind_pure _

variable {polls} {turns after : PollTurns} {e : Engine} {moves : List PollMove}

/-- The next callback in a round that is not cut off is the first of those that are left. -/
theorem next?_eq_some {id : Nat} {round : CallbackRound} {callback : Callback}
    {rest : List Callback} :
    turns.next? id = some (round, callback, rest) ↔
      turns.round? id = some round ∧ round.cut = none ∧ round.remaining = callback :: rest := by
  rw [next?, Option.bind_eq_some_iff]
  constructor
  · rintro ⟨found, hfound, h⟩
    split at h
    case h_1 hcut hremaining =>
      obtain ⟨rfl, rfl, rfl⟩ : found = round ∧ _ = callback ∧ _ = rest := by simpa using h
      exact ⟨hfound, hcut, hremaining⟩
    case h_2 => cases h
  · rintro ⟨hround, hcut, hremaining⟩
    refine ⟨round, hround, ?_⟩
    rw [hcut, hremaining]

/-- What a move can be, and what it changes. -/
theorem move?_cases {move : PollMove} (h : turns.move? polls move = some after) :
    (∃ id, move = .enter id ∧ turns.holder = none ∧ turns.outcomes.lookup id = none ∧
        after = turns.beginPoll id (polls id).readings.thermal) ∨
      (∃ half, move = .resume ∧ turns.holder = some half ∧
        after = turns.finishPoll half (polls half.id).readings.power) ∨
      (∃ id behaviour round callback rest, move = .callback id behaviour ∧
        turns.next? id = some (round, callback, rest) ∧
        after = turns.runCallback behaviour round callback rest) ∨
      ∃ id behaviour round callback rest, move = .cancel id behaviour ∧
        turns.next? id = some (round, callback, rest) ∧
        (behaviour callback round.report).waits = true ∧ after = turns.cancelRound id := by
  cases move with
  | enter id =>
    simp only [move?, step?] at h
    split at h
    case isTrue hfree =>
      refine .inl ⟨id, rfl, by simpa using hfree.1, by simpa using hfree.2, ?_⟩
      exact (Option.some.inj h).symm
    case isFalse => cases h
  | resume =>
    obtain ⟨half, hhalf, h⟩ := Option.bind_eq_some_iff.1 h
    rw [step?, hhalf, Option.map_some] at h
    exact .inr (.inl ⟨half, rfl, hhalf, (Option.some.inj h).symm⟩)
  | callback id behaviour =>
    obtain ⟨⟨round, callback, rest⟩, hnext, h⟩ := Option.map_eq_some_iff.1 h
    exact .inr (.inr (.inl ⟨id, behaviour, round, callback, rest, rfl, hnext, h.symm⟩))
  | cancel id behaviour =>
    obtain ⟨⟨round, callback, rest⟩, hnext, h⟩ := Option.bind_eq_some_iff.1 h
    dsimp only at h
    split at h
    case isTrue hwaits =>
      exact .inr (.inr (.inr ⟨id, behaviour, round, callback, rest, rfl, hnext, hwaits,
        (Option.some.inj h).symm⟩))
    case isFalse => cases h

end PollTurns

/-! ## One poll in a run and in two halves -/

/-- A run in which one more poll has gone through its first half. -/
def Run.firstHalf (run : Run) (readings : ThermalReadings) : Run :=
  let progress := Section.pollFirst readings run.engine
  { run with engine := progress.engine, effects := run.effects ++ progress.effects }

/-- A run in which the poll that holds the lock, if any, has gone through its first half. -/
def Run.underway (run : Run) (polls : Nat → Tick) (holder : Option HalfPoll) : Run :=
  holder.elim run fun half => run.firstHalf (polls half.id).readings.thermal

namespace Run

/-- A tick leaves the engine as its poll does, apart from what is registered. -/
theorem tick_engine (run : Run) (t : Tick) :
    (run.tick t).engine.withoutCallbacks =
      (Section.poll t.readings run.engine).engine.withoutCallbacks := by
  have hkeeps (report : PollReport) : Section.Keeps Engine.withoutCallbacks
      (do Section.runCallbacks t.behaviour report; return report.state) :=
    (Section.keeps_runCallbacks (fun _ _ => rfl) _ _).bind fun _ => Section.keeps_pure _
  rw [tick, Section.pollOnce]
  cases h : (Section.poll t.readings run.engine).outcome with
  | error fault => rw [Section.bind_apply_of_error h]
  | ok report =>
    rw [Section.bind_apply_of_ok h]
    exact hkeeps report _

theorem tick_display (run : Run) (t : Tick) :
    displayChanges (run.tick t).effects =
      displayChanges run.effects ++
        displayChanges (Section.poll t.readings run.engine).effects := by
  have hchanges := (Section.pollOnce_changes t.behaviour t.readings run.engine).2
  simp only [tick, displayChanges_append, hchanges]

end Run

namespace PollTurns

variable {turns : PollTurns}

theorem beginPoll_of_ok {id : Nat} {readings : ThermalReadings}
    {first : WarningSettings × ThermalDecision}
    (h : (Section.pollFirst readings turns.engine).outcome = .ok first) :
    turns.beginPoll id readings =
      { turns.advance (Section.pollFirst readings turns.engine) with
        holder := some ⟨id, first.1, first.2⟩ } := by
  simp only [beginPoll, h]

theorem beginPoll_of_error {id : Nat} {readings : ThermalReadings} {fault : Fault}
    (h : (Section.pollFirst readings turns.engine).outcome = .error fault) :
    turns.beginPoll id readings =
      { turns.advance (Section.pollFirst readings turns.engine) with
        outcomes := turns.outcomes ++ [(id, .error fault)] } := by
  simp only [beginPoll, h]
  rfl

theorem finishPoll_of_ok {half : HalfPoll} {readings : PowerReadings} {report : PollReport}
    (h : (Section.pollSecond half.settings half.thermal readings turns.engine).outcome =
      .ok report) :
    let after := turns.advance (Section.pollSecond half.settings half.thermal readings turns.engine)
    turns.finishPoll half readings =
      { after with
        holder := none
        outcomes := turns.outcomes ++ [(half.id, .ok report)]
        rounds := turns.rounds ++ [⟨half.id, report, after.engine.callbacks, none⟩] } := by
  simp only [finishPoll, h]
  rfl

theorem finishPoll_of_error {half : HalfPoll} {readings : PowerReadings} {fault : Fault}
    (h : (Section.pollSecond half.settings half.thermal readings turns.engine).outcome =
      .error fault) :
    turns.finishPoll half readings =
      { turns.advance (Section.pollSecond half.settings half.thermal readings turns.engine) with
        holder := none
        outcomes := turns.outcomes ++ [(half.id, .error fault)] } := by
  simp only [finishPoll, h]
  rfl

section Rounds

variable {id : Nat} {change : CallbackRound → CallbackRound}

/-- A change of one round leaves the others as they are. -/
theorem round?_updateRound (hid : ∀ round, (change round).id = round.id) (other : Nat) :
    (turns.updateRound id change).round? other =
      if other = id then (turns.round? id).map change else turns.round? other := by
  have hsame : (fun round => decide (round.id = other)) ∘
      (fun round : CallbackRound => if round.id = id then change round else round) =
        fun round => decide (round.id = other) := by
    funext round
    rw [Function.comp]
    split
    · rw [hid]
    · rfl
  change List.find? _ (List.map _ _) = _
  rw [List.find?_map, hsame]
  change Option.map _ (turns.round? other) = _
  cases hother : turns.round? other with
  | none =>
    split
    case isTrue heq => rw [← heq, hother, Option.map_none, Option.map_none]
    case isFalse => rfl
  | some found =>
    have hfound : found.id = other := by simpa using List.find?_some hother
    rw [Option.map_some, hfound]
    split
    case isTrue heq => rw [← heq, hother, Option.map_some]
    case isFalse => rfl

theorem map_id_updateRound (hid : ∀ round, (change round).id = round.id) :
    (turns.updateRound id change).rounds.map CallbackRound.id =
      turns.rounds.map CallbackRound.id := by
  change List.map _ (List.map _ _) = _
  rw [List.map_map]
  refine List.map_congr_left fun round _ => ?_
  rw [Function.comp]
  split
  · exact hid round
  · rfl

/-- A round that is changed keeps its report, if the change does. -/
theorem exists_of_mem_updateRound {round : CallbackRound}
    (h : round ∈ (turns.updateRound id change).rounds)
    (hkeeps : ∀ round, (change round).id = round.id ∧ (change round).report = round.report) :
    ∃ before ∈ turns.rounds, round.id = before.id ∧ round.report = before.report := by
  obtain ⟨before, hbefore, rfl⟩ := List.mem_map.1 h
  refine ⟨before, hbefore, ?_⟩
  split
  · exact hkeeps before
  · exact ⟨rfl, rfl⟩

end Rounds

variable {run : Run} {t : Tick}

/-- Whether outstanding polls have come to what a run has come to, apart from what is registered. -/
structure ComesTo (turns : PollTurns) (run : Run) : Prop where
  engine : turns.engine.withoutCallbacks = run.engine.withoutCallbacks
  display : displayChanges turns.effects = displayChanges run.effects

namespace ComesTo

/-- A poll that takes the lock goes through its first half as in the run. -/
theorem advance_first (h : turns.ComesTo run) (readings : ThermalReadings) :
    let progress := Section.pollFirst readings turns.engine
    (turns.advance progress).ComesTo (run.firstHalf readings) ∧
      progress.outcome = (Section.pollFirst readings run.engine).outcome := by
  intro progress
  obtain ⟨hengine, heffects, houtcome⟩ :=
    (Section.overlooks_pollFirst readings).congr h.engine
  refine ⟨⟨hengine, ?_⟩, houtcome⟩
  simp only [advance, progress, Run.firstHalf, displayChanges_append, h.display, heffects]

/-- After a first half that fails, the polls have come to what the whole poll comes to. -/
theorem tick_of_error {fault : Fault} (h : turns.ComesTo (run.firstHalf t.readings.thermal))
    (hfirst : (Section.pollFirst t.readings.thermal run.engine).outcome = .error fault) :
    turns.ComesTo (run.tick t) ∧
      (Section.poll t.readings run.engine).outcome = .error fault := by
  have hpoll : Section.poll t.readings run.engine =
      ⟨(run.firstHalf t.readings.thermal).engine,
        (Section.pollFirst t.readings.thermal run.engine).effects, .error fault⟩ :=
    Section.bind_apply_of_error hfirst _
  refine ⟨⟨?_, ?_⟩, by rw [hpoll]⟩
  · rw [run.tick_engine, hpoll, h.engine]
  · rw [run.tick_display, hpoll, h.display, Run.firstHalf, displayChanges_append]

/-- The second half of a poll goes on where the first has ended, whatever callbacks were run in
between. -/
theorem tick_of_ok {settings : WarningSettings} {thermal : ThermalDecision}
    (h : turns.ComesTo (run.firstHalf t.readings.thermal))
    (hfirst : (Section.pollFirst t.readings.thermal run.engine).outcome = .ok (settings, thermal)) :
    let progress := Section.pollSecond settings thermal t.readings.power turns.engine
    (turns.advance progress).ComesTo (run.tick t) ∧
      (Section.poll t.readings run.engine).outcome = progress.outcome := by
  intro progress
  -- The two engines may differ in what is registered, by the callbacks that came in between.
  obtain ⟨hengine, heffects, houtcome⟩ :=
    (Section.overlooks_pollSecond settings thermal t.readings.power).congr h.engine
  have hpoll : Section.poll t.readings run.engine = _ :=
    Section.bind_apply_of_ok hfirst fun first =>
      Section.pollSecond first.1 first.2 t.readings.power
  refine ⟨⟨?_, ?_⟩, ?_⟩
  · rw [run.tick_engine, hpoll]
    exact hengine
  · rw [run.tick_display, hpoll]
    simp only [advance, progress, Run.firstHalf, displayChanges_append, h.display, heffects,
      List.append_assoc]
  · rw [hpoll]
    exact houtcome.symm

/-- A callback changes nothing that the run comes to. -/
theorem runCallback (h : turns.ComesTo run) (behaviour : CallbackBehaviour)
    (round : CallbackRound) (callback : Callback) (rest : List Callback) :
    (turns.runCallback behaviour round callback rest).ComesTo run where
  engine := by
    have hkeeps : Section.Keeps Engine.withoutCallbacks
        (Section.runCallback behaviour round.report callback) :=
      Section.keeps_runCallback (fun _ _ => rfl) _ _ _
    exact (hkeeps turns.engine).trans h.engine
  display := by
    obtain ⟨-, hquiet⟩ := Section.quiet_runCallback behaviour round.report callback turns.engine
    change displayChanges (turns.effects ++ _) = _
    rw [displayChanges_append, hquiet, List.append_nil, h.display]

end ComesTo

end PollTurns

/-! ## Interleaved polls -/

/-- Whether a poll ends so if polls are run one at a time in some order. -/
def Engine.Ends (e : Engine) (polls : Nat → Tick) (order : List Nat) (id : Nat)
    (outcome : Except Fault PollReport) : Prop :=
  ∃ before after, order = before ++ id :: after ∧
    outcome = (Section.poll (polls id).readings (e.serve polls before).engine).outcome

theorem Engine.Ends.append {e : Engine} {polls : Nat → Tick} {order : List Nat} {id : Nat}
    {outcome : Except Fault PollReport} (h : e.Ends polls order id outcome) (more : List Nat) :
    e.Ends polls (order ++ more) id outcome := by
  obtain ⟨before, after, rfl, houtcome⟩ := h
  exact ⟨before, after ++ more, by simp, houtcome⟩

namespace PollTurns

/-- The polls that have ended, in order. -/
def ended (turns : PollTurns) : List Nat := turns.outcomes.map Prod.fst

/-- How polls are outstanding that are served one after the other from an engine on: in the order in
which they took the lock they have come to what they come to one at a time, and so has the first
half of the one that holds it. Each round goes on with the report of its own poll, as did all
callbacks so far. -/
structure IsSerial (e : Engine) (polls : Nat → Tick) (moves : List PollMove) (turns : PollTurns) :
    Prop where
  order : entrants moves = turns.ended ++ (turns.holder.map HalfPoll.id).toList
  nodup : (entrants moves).Nodup
  comesTo : turns.ComesTo ((e.serve polls turns.ended).underway polls turns.holder)
  held : ∀ half, turns.holder = some half →
    (Section.pollFirst (polls half.id).readings.thermal
      (e.serve polls turns.ended).engine).outcome = .ok (half.settings, half.thermal)
  outcomes : ∀ id outcome, (id, outcome) ∈ turns.outcomes → e.Ends polls turns.ended id outcome
  rounds : ∀ round ∈ turns.rounds, (round.id, .ok round.report) ∈ turns.outcomes
  heard : List.Forall₂ (fun id run => (id, .ok run.2) ∈ turns.outcomes) (callers moves)
    (callbackRuns turns.effects)

namespace IsSerial

variable {e : Engine} {polls : Nat → Tick} {moves : List PollMove} {turns : PollTurns}

theorem initial (e : Engine) (polls : Nat → Tick) : IsSerial e polls [] { engine := e } where
  order := rfl
  nodup := List.nodup_nil
  comesTo := by
    constructor
    · rfl
    · rfl
  held := by
    intro half hhalf
    cases hhalf
  outcomes := by
    intro id outcome hmem
    cases hmem
  rounds := by
    intro round hmem
    cases hmem
  heard := .nil

/-- While nobody holds the lock, the polls have come to what those that have ended come to. -/
theorem comesTo_of_free (h : IsSerial e polls moves turns) (hfree : turns.holder = none) :
    turns.ComesTo (e.serve polls turns.ended) := by
  have hcomes := h.comesTo
  rwa [hfree] at hcomes

/-- What is kept when one more poll ends, and leaves what it comes to one at a time. -/
theorem conclude {id : Nat} {outcome : Except Fault PollReport} {later : List PollMove}
    {after : PollTurns} (h : IsSerial e polls moves turns)
    (hentrants : entrants later = turns.ended ++ [id]) (hnodup : (turns.ended ++ [id]).Nodup)
    (hcallers : callers later = callers moves)
    (hholder : after.holder = none) (houtcomes : after.outcomes = turns.outcomes ++ [(id, outcome)])
    (hcomes : after.ComesTo ((e.serve polls turns.ended).tick (polls id)))
    (hpoll : (Section.poll (polls id).readings
      (e.serve polls turns.ended).engine).outcome = outcome)
    (hrounds : ∀ round ∈ after.rounds, round ∈ turns.rounds ∨
      round.id = id ∧ outcome = .ok round.report)
    (hruns : callbackRuns after.effects = callbackRuns turns.effects) :
    IsSerial e polls later after := by
  have hended : after.ended = turns.ended ++ [id] := by
    rw [ended, houtcomes, List.map_append]
    rfl
  exact {
    order := by
      rw [hentrants, hended, hholder]
      exact (List.append_nil _).symm
    nodup := hentrants ▸ hnodup
    comesTo := by
      rw [hended, hholder, Engine.serve_concat]
      exact hcomes
    held := by
      intro half hhalf
      rw [hholder] at hhalf
      cases hhalf
    outcomes := by
      intro other made hmade
      rw [hended]
      rw [houtcomes] at hmade
      rcases List.mem_append.1 hmade with hold | hnew
      · exact (h.outcomes other made hold).append [id]
      · obtain ⟨rfl, rfl⟩ := Prod.mk.inj (List.mem_singleton.1 hnew)
        exact ⟨turns.ended, [], rfl, hpoll.symm⟩
    rounds := by
      intro round hround
      rw [houtcomes]
      rcases hrounds round hround with hold | ⟨rfl, hreport⟩
      · exact List.mem_append_left _ (h.rounds round hold)
      · exact List.mem_append_right _ (by rw [hreport]; exact List.mem_singleton_self _)
    heard := by
      rw [hcallers, hruns, houtcomes]
      exact h.heard.imp fun _ _ hmem => List.mem_append_left _ hmem }

/-- A poll takes the lock, and goes through its first half or fails in it. -/
theorem enter {id : Nat} (h : IsSerial e polls moves turns) (hfree : turns.holder = none)
    (hnew : turns.outcomes.lookup id = none) :
    IsSerial e polls (moves ++ [.enter id])
      (turns.beginPoll id (polls id).readings.thermal) := by
  have horder : entrants (moves ++ [.enter id]) = turns.ended ++ [id] := by
    have hentrants : entrants moves = turns.ended := by simpa [hfree] using h.order
    rw [entrants_append, hentrants]
    rfl
  have hnodup : (turns.ended ++ [id]).Nodup := by
    have hold : turns.ended.Nodup := by
      have hentrants := h.nodup
      rw [h.order] at hentrants
      exact hentrants.of_append_left
    have hfresh : id ∉ turns.ended := by
      intro hmem
      obtain ⟨⟨other, outcome⟩, hended, rfl⟩ := List.mem_map.1 hmem
      simpa using List.lookup_eq_none_iff.1 hnew _ hended
    rw [← List.concat_eq_append]
    exact hold.concat hfresh
  have hcallers : callers (moves ++ [.enter id]) = callers moves := by
    rw [callers_append]
    exact List.append_nil _
  obtain ⟨hadvanced, houtcome⟩ :=
    (h.comesTo_of_free hfree).advance_first (polls id).readings.thermal
  have hruns : callbackRuns (turns.advance
      (Section.pollFirst (polls id).readings.thermal turns.engine)).effects =
        callbackRuns turns.effects := by
    rw [advance, callbackRuns_append, Section.pollFirst_callbackRuns, List.append_nil]
  cases hfirst : (Section.pollFirst (polls id).readings.thermal turns.engine).outcome with
  | ok first =>
    rw [beginPoll_of_ok hfirst]
    exact {
      order := horder
      nodup := horder ▸ hnodup
      comesTo := ⟨hadvanced.engine, hadvanced.display⟩
      held := by
        intro half hhalf
        obtain rfl := Option.some.inj hhalf
        exact houtcome.symm.trans hfirst
      outcomes := h.outcomes
      rounds := h.rounds
      heard := by
        rw [hcallers]
        exact hruns ▸ h.heard }
  | error fault =>
    obtain ⟨hticked, hpoll⟩ := hadvanced.tick_of_error (houtcome.symm.trans hfirst)
    rw [beginPoll_of_error hfirst]
    exact h.conclude horder hnodup hcallers hfree rfl ⟨hticked.engine, hticked.display⟩ hpoll
      (fun _ hround => .inl hround) hruns

/-- The poll that holds the lock goes through its second half. -/
theorem resume {half : HalfPoll} (h : IsSerial e polls moves turns)
    (hholds : turns.holder = some half) :
    IsSerial e polls (moves ++ [.resume])
      (turns.finishPoll half (polls half.id).readings.power) := by
  have horder : entrants (moves ++ [.resume]) = turns.ended ++ [half.id] := by
    rw [entrants_append, h.order, hholds]
    exact List.append_nil _
  have hnodup : (turns.ended ++ [half.id]).Nodup := by
    have hentrants := h.nodup
    rw [h.order, hholds] at hentrants
    exact hentrants
  have hcallers : callers (moves ++ [.resume]) = callers moves := by
    rw [callers_append]
    exact List.append_nil _
  have hunderway : turns.ComesTo ((e.serve polls turns.ended).firstHalf
      (polls half.id).readings.thermal) := by
    have hcomes := h.comesTo
    rw [hholds] at hcomes
    exact hcomes
  obtain ⟨hticked, hpoll⟩ := hunderway.tick_of_ok (h.held half hholds)
  have hruns : callbackRuns (turns.advance (Section.pollSecond half.settings half.thermal
      (polls half.id).readings.power turns.engine)).effects = callbackRuns turns.effects := by
    rw [advance, callbackRuns_append, Section.pollSecond_callbackRuns, List.append_nil]
  cases hsecond : (Section.pollSecond half.settings half.thermal (polls half.id).readings.power
      turns.engine).outcome with
  | ok report =>
    rw [finishPoll_of_ok hsecond]
    refine h.conclude horder hnodup hcallers rfl rfl ⟨hticked.engine, hticked.display⟩
      (hpoll.trans hsecond) (fun round hround => ?_) hruns
    rcases List.mem_append.1 hround with hold | hnew
    · exact .inl hold
    · obtain rfl := List.mem_singleton.1 hnew
      exact .inr ⟨rfl, rfl⟩
  | error fault =>
    rw [finishPoll_of_error hsecond]
    exact h.conclude horder hnodup hcallers rfl rfl ⟨hticked.engine, hticked.display⟩
      (hpoll.trans hsecond) (fun _ hround => .inl hround) hruns

/-- A callback is run with the report of the poll in whose round it is. -/
theorem callback {id : Nat} {round : CallbackRound} {callback : Callback} {rest : List Callback}
    (h : IsSerial e polls moves turns) (behaviour : CallbackBehaviour)
    (hnext : turns.next? id = some (round, callback, rest)) :
    IsSerial e polls (moves ++ [.callback id behaviour])
      (turns.runCallback behaviour round callback rest) where
  order := by
    rw [entrants_append]
    exact (List.append_nil _).trans h.order
  nodup := by
    rw [entrants_append]
    exact (List.append_nil (entrants moves)).symm ▸ h.nodup
  comesTo := h.comesTo.runCallback behaviour round callback rest
  held := h.held
  outcomes := h.outcomes
  rounds := by
    intro other hother
    obtain ⟨before, hbefore, hid, hreport⟩ :=
      exists_of_mem_updateRound hother fun _ => ⟨rfl, rfl⟩
    rw [hid, hreport]
    exact h.rounds before hbefore
  heard := by
    have hround := (next?_eq_some.1 hnext).1
    have hid : round.id = id := by simpa using List.find?_some hround
    have hown := h.rounds round (List.mem_of_find?_eq_some hround)
    have hruns := (Section.runCallback_spec behaviour round.report callback turns.engine).2
    change List.Forall₂ _ _ (callbackRuns (turns.effects ++ _))
    rw [callers_append, callbackRuns_append, hruns]
    exact List.rel_append h.heard (.cons (hid ▸ hown) .nil)

/-- A cancellation cuts off a round and runs nothing. -/
theorem cancel {id : Nat} (h : IsSerial e polls moves turns) (behaviour : CallbackBehaviour) :
    IsSerial e polls (moves ++ [.cancel id behaviour]) (turns.cancelRound id) where
  order := by
    rw [entrants_append]
    exact (List.append_nil _).trans h.order
  nodup := by
    rw [entrants_append]
    exact (List.append_nil (entrants moves)).symm ▸ h.nodup
  comesTo := ⟨h.comesTo.engine, h.comesTo.display⟩
  held := h.held
  outcomes := h.outcomes
  rounds := by
    intro other hother
    obtain ⟨before, hbefore, hid, hreport⟩ :=
      exists_of_mem_updateRound hother fun _ => ⟨rfl, rfl⟩
    rw [hid, hreport]
    exact h.rounds before hbefore
  heard := by
    rw [callers_append]
    exact (List.append_nil (callers moves)).symm ▸ h.heard

/-- Each move keeps the polls served one after the other. -/
theorem move {move : PollMove} {after : PollTurns} (h : IsSerial e polls moves turns)
    (hmove : turns.move? polls move = some after) : IsSerial e polls (moves ++ [move]) after := by
  obtain ⟨id, rfl, hfree, hnew, rfl⟩ | ⟨half, rfl, hholds, rfl⟩ |
    ⟨id, behaviour, round, callback, rest, rfl, hnext, rfl⟩ |
    ⟨id, behaviour, round, callback, rest, rfl, -, -, rfl⟩ := move?_cases hmove
  · exact h.enter hfree hnew
  · exact h.resume hholds
  · exact h.callback behaviour hnext
  · exact h.cancel behaviour

/-- However polls take turns, they are served one after the other. -/
theorem replay (h : replay? polls { engine := e } moves = some turns) :
    IsSerial e polls moves turns := by
  induction moves using List.reverseRecOn generalizing turns with
  | nil =>
    obtain rfl := Option.some.inj h
    exact initial e polls
  | append_singleton before move ih =>
    rw [replay?_append] at h
    obtain ⟨reached, hreached, hmove⟩ := Option.bind_eq_some_iff.1 h
    rw [replay?_singleton] at hmove
    exact (ih hreached).move hmove

end IsSerial

/-! ### Nobody is kept waiting for ever -/

section Progress

variable {polls : Nat → Tick} {turns : PollTurns}

theorem finishPoll_holder (half : HalfPoll) (readings : PowerReadings) :
    (turns.finishPoll half readings).holder = none := by
  simp only [finishPoll]
  split <;> rfl

theorem move?_resume {half : HalfPoll} (h : turns.holder = some half) :
    turns.move? polls .resume = some (turns.finishPoll half (polls half.id).readings.power) := by
  rw [move?, h, Option.bind_some, step?, h, Option.map_some]

theorem move?_enter {id : Nat} (hfree : turns.holder = none) (hnew : id ∉ turns.ended) :
    turns.move? polls (.enter id) =
      some (turns.beginPoll id (polls id).readings.thermal) := by
  have hlookup : turns.outcomes.lookup id = none := by
    rw [List.lookup_eq_none_iff]
    intro entry hentry
    have hother : entry.1 ≠ id := fun heq => hnew (heq ▸ List.mem_map_of_mem hentry)
    simpa using hother.symm
  rw [move?, step?, hfree, hlookup, if_pos ⟨rfl, rfl⟩]

theorem move?_callback {id : Nat} {round : CallbackRound} {callback : Callback}
    {rest : List Callback} (behaviour : CallbackBehaviour)
    (hnext : turns.next? id = some (round, callback, rest)) :
    turns.move? polls (.callback id behaviour) =
      some (turns.runCallback behaviour round callback rest) := by
  rw [move?, step?, hnext, Option.map_some]

/-- A callback leaves its round with one callback less, cut off by the fault of it that nobody
contains, and all other rounds as they are. -/
theorem round?_runCallback (behaviour : CallbackBehaviour) {id : Nat} {round : CallbackRound}
    (hround : turns.round? id = some round) (callback : Callback) (rest : List Callback)
    (other : Nat) :
    (turns.runCallback behaviour round callback rest).round? other =
      if other = id then
        some { round with remaining := rest, cut := (behaviour callback round.report).escape }
      else turns.round? other := by
  obtain rfl : round.id = id := by simpa using List.find?_some hround
  have hround' : (turns.advance (Section.runCallback behaviour round.report callback
      turns.engine)).round? round.id = some round := hround
  rw [runCallback, round?_updateRound, hround', Option.map_some]
  · rfl
  · exact fun _ => rfl

variable (polls) in
/-- Whether some polls can come to others by running callbacks alone. -/
def CallsTo (turns done : PollTurns) : Prop :=
  ∃ more, turns.replay? polls more = some done ∧ entrants more = [] ∧
    done.holder = turns.holder ∧
    done.rounds.map CallbackRound.id = turns.rounds.map CallbackRound.id

namespace CallsTo

variable {next done : PollTurns}

theorem refl (turns : PollTurns) : CallsTo polls turns turns := ⟨[], rfl, rfl, rfl, rfl⟩

theorem trans (h : CallsTo polls turns next) (hnext : CallsTo polls next done) :
    CallsTo polls turns done := by
  obtain ⟨moves, hmoves, henter, hholder, hrounds⟩ := h
  obtain ⟨more, hmore, henterMore, hholderMore, hroundsMore⟩ := hnext
  refine ⟨moves ++ more, ?_, ?_, hholderMore.trans hholder, hroundsMore.trans hrounds⟩
  · rw [replay?_append, hmoves, Option.bind_some, hmore]
  · rw [entrants_append, henter, henterMore, List.append_nil]

theorem callback {id : Nat} {round : CallbackRound} {callback : Callback} {rest : List Callback}
    (hnext : turns.next? id = some (round, callback, rest)) :
    CallsTo polls turns (turns.runCallback (polls id).behaviour round callback rest) := by
  refine ⟨[.callback id (polls id).behaviour], ?_, rfl, rfl, ?_⟩
  · rw [replay?_singleton, move?_callback _ hnext]
  · exact map_id_updateRound fun _ => rfl

end CallsTo

/-- Whether all callbacks of a poll have been run, or its round has been cut off. -/
def RoundEnded (turns : PollTurns) (id : Nat) : Prop :=
  ∀ round, turns.round? id = some round → round.remaining = [] ∨ round.cut.isSome = true

variable (polls) in
/-- The callbacks of a completed poll can be run to the last, or up to one that cuts them off. -/
theorem exists_roundEnded (turns : PollTurns) (id : Nat) :
    ∃ done, CallsTo polls turns done ∧ done.RoundEnded id ∧
      ∀ other, turns.RoundEnded other → done.RoundEnded other := by
  cases hround : turns.round? id with
  | none =>
    refine ⟨turns, .refl turns, fun round hfound => ?_, fun _ hother => hother⟩
    rw [hround] at hfound
    cases hfound
  | some round =>
    -- Each callback changes the engine, so the polls go through the induction with the round.
    generalize hremaining : round.remaining = remaining
    induction remaining generalizing turns round with
    | nil =>
      refine ⟨turns, .refl turns, fun found hfound => ?_, fun _ hother => hother⟩
      obtain rfl := Option.some.inj (hround.symm.trans hfound)
      exact .inl hremaining
    | cons callback rest ih =>
      cases hcut : round.cut with
      | some fault =>
        refine ⟨turns, .refl turns, fun found hfound => ?_, fun _ hother => hother⟩
        obtain rfl := Option.some.inj (hround.symm.trans hfound)
        exact .inr (by rw [hcut]; rfl)
      | none =>
        have hafter := round?_runCallback (polls id).behaviour hround callback rest
        obtain ⟨done, hdone, hended, hkept⟩ := ih _ _ ((hafter id).trans (if_pos rfl)) rfl
        refine ⟨done, .trans (.callback (next?_eq_some.2 ⟨hround, hcut, hremaining⟩)) hdone, hended,
          fun other hother => ?_⟩
        by_cases heq : other = id
        · exact heq ▸ hended
        · refine hkept other fun found hfound => hother found ?_
          rwa [hafter other, if_neg heq] at hfound

variable (polls) in
/-- The callbacks of all completed polls can be run to their ends. -/
theorem exists_all_roundEnded (turns : PollTurns) :
    ∃ done, CallsTo polls turns done ∧ ∀ id, done.RoundEnded id := by
  have hsome (ids : List Nat) :
      ∃ done, CallsTo polls turns done ∧ ∀ id ∈ ids, done.RoundEnded id := by
    induction ids with
    | nil => exact ⟨turns, .refl turns, nofun⟩
    | cons id rest ih =>
      obtain ⟨next, hnext, hrest⟩ := ih
      obtain ⟨done, hdone, hended, hkept⟩ := exists_roundEnded polls next id
      refine ⟨done, hnext.trans hdone, ?_⟩
      rintro other (_ | ⟨_, hmem⟩)
      · exact hended
      · exact hkept other (hrest other hmem)
  obtain ⟨done, hdone, hended⟩ := hsome (turns.rounds.map CallbackRound.id)
  refine ⟨done, hdone, fun id round hround => hended id ?_ round hround⟩
  obtain ⟨-, -, -, -, hids⟩ := hdone
  have hid : round.id = id := by simpa using List.find?_some hround
  rw [← hids, ← hid]
  exact List.mem_map_of_mem (List.mem_of_find?_eq_some hround)

variable {e : Engine} {moves : List PollMove}

/-- Whoever holds the lock can let go of it. -/
theorem exists_free (h : replay? polls { engine := e } moves = some turns) :
    ∃ more done, replay? polls { engine := e } (moves ++ more) = some done ∧
      entrants (moves ++ more) = entrants moves ∧ done.holder = none := by
  cases hholder : turns.holder with
  | none => exact ⟨[], turns, by rwa [List.append_nil], by rw [List.append_nil], hholder⟩
  | some half =>
    refine ⟨[.resume], turns.finishPoll half (polls half.id).readings.power, ?_, ?_,
      finishPoll_holder ..⟩
    · rw [replay?_append, h, Option.bind_some, replay?_singleton, move?_resume hholder]
    · rw [entrants_append]
      exact List.append_nil _

/-- The polls that wait for the lock can have it, one after the other. -/
theorem exists_served (h : replay? polls { engine := e } moves = some turns) {waiting : List Nat}
    (hnodup : (entrants moves ++ waiting).Nodup) :
    ∃ more done, replay? polls { engine := e } (moves ++ more) = some done ∧
      entrants (moves ++ more) = entrants moves ++ waiting ∧ done.holder = none := by
  induction waiting generalizing moves turns with
  | nil =>
    rw [List.append_nil]
    exact exists_free h
  | cons id rest ih =>
    obtain ⟨first, free, hfirst, hentrants, hfree⟩ := exists_free h
    have hended : free.ended = entrants moves := by
      have horder := (IsSerial.replay hfirst).order
      rw [hfree, hentrants] at horder
      exact (horder.trans (List.append_nil _)).symm
    have hnew : id ∉ free.ended := by
      intro hmem
      rw [hended] at hmem
      exact (List.nodup_append.1 hnodup).2.2 id hmem id List.mem_cons_self rfl
    have hentered : entrants (moves ++ first ++ [.enter id]) = entrants moves ++ [id] := by
      rw [entrants_append, hentrants]
      rfl
    have hnext : replay? polls { engine := e } (moves ++ first ++ [.enter id]) =
        some (free.beginPoll id (polls id).readings.thermal) := by
      rw [replay?_append, hfirst, Option.bind_some, replay?_singleton, move?_enter hfree hnew]
    obtain ⟨more, done, hdone, hserved, hholder⟩ :=
      ih hnext (by rwa [hentered, List.append_assoc, List.singleton_append])
    refine ⟨first ++ .enter id :: more, done, ?_, ?_, hholder⟩
    · simpa using hdone
    · rw [hentered] at hserved
      simpa using hserved

/-- All outstanding polls can end, and all their callbacks be run. -/
theorem exists_completion (h : replay? polls { engine := e } moves = some turns)
    {waiting : List Nat} (hnodup : (entrants moves ++ waiting).Nodup) :
    ∃ more done, replay? polls { engine := e } (moves ++ more) = some done ∧
      entrants (moves ++ more) = entrants moves ++ waiting ∧ done.holder = none ∧
      ∀ id, done.RoundEnded id := by
  obtain ⟨first, served, hserved, hentrants, hfree⟩ := exists_served h hnodup
  obtain ⟨done, ⟨more, hmore, hcalls, hholder, -⟩, hended⟩ :=
    exists_all_roundEnded polls served
  refine ⟨first ++ more, done, ?_, ?_, hholder.trans hfree, hended⟩
  · rw [← List.append_assoc, replay?_append, hserved, Option.bind_some, hmore]
  · rw [← List.append_assoc, entrants_append, hcalls, List.append_nil, hentrants]

end Progress

/-! ## The same polls one at a time -/

variable {e : Engine} {polls : Nat → Tick} {moves : List PollMove} {turns : PollTurns}

/-- A caller that is handed a report has that of a poll that was completed. -/
theorem mem_outcomes_of_handed? {id : Nat} {report : PollReport}
    (h : turns.handed? id = some (.ok report)) : (id, .ok report) ∈ turns.outcomes := by
  obtain ⟨outcome, hlookup, hhanded⟩ := Option.map_eq_some_iff.1 h
  cases hcut : turns.cut? id with
  | some fault =>
    rw [hcut] at hhanded
    cases hhanded
  | none =>
    rw [hcut] at hhanded
    obtain rfl : outcome = .ok report := hhanded
    obtain ⟨before, after, hsplit, -⟩ := List.lookup_eq_some_iff.1 hlookup
    simp [hsplit]

/-- However outstanding polls and their callbacks take turns, the engine and the display have come,
whenever the lock is free, to what the same polls come to one at a time, in the order in which they
took it. Each that has ended did so as it does there; its report, which its callbacks were run with,
and which its caller is handed unless its round is cut off, is of the state that it left there
itself. Those that wait for the lock can all be served. -/
theorem replay?_one_at_a_time (h : replay? polls { engine := e } moves = some turns) :
    (entrants moves).Nodup ∧
      entrants moves =
        turns.outcomes.map Prod.fst ++ (turns.holder.map HalfPoll.id).toList ∧
      (turns.holder = none →
        turns.engine.withoutCallbacks =
            (e.serve polls (entrants moves)).engine.withoutCallbacks ∧
          displayChanges turns.effects =
            displayChanges (e.serve polls (entrants moves)).effects) ∧
      (∀ id outcome, (id, outcome) ∈ turns.outcomes →
        ∃ before after, entrants moves = before ++ id :: after ∧
          outcome = (Section.poll (polls id).readings (e.serve polls before).engine).outcome ∧
          ∀ report, outcome = .ok report →
            report.state = (e.serve polls (before ++ [id])).engine.state) ∧
      (∀ id report, turns.handed? id = some (.ok report) → (id, .ok report) ∈ turns.outcomes) ∧
      List.Forall₂ (fun id run => (id, .ok run.2) ∈ turns.outcomes) (callers moves)
        (callbackRuns turns.effects) ∧
      ∀ waiting, (entrants moves ++ waiting).Nodup →
        ∃ more done, replay? polls { engine := e } (moves ++ more) = some done ∧
          entrants (moves ++ more) = entrants moves ++ waiting ∧ done.holder = none ∧
          ∀ id, done.RoundEnded id := by
  have hserial := IsSerial.replay h
  refine ⟨hserial.nodup, hserial.order, fun hfree => ?_, fun id outcome hmade => ?_,
    fun _ _ => mem_outcomes_of_handed?, hserial.heard, fun waiting => exists_completion h⟩
  · have hentrants : entrants moves = turns.ended := by simpa [hfree] using hserial.order
    obtain ⟨hengine, hdisplay⟩ := hserial.comesTo_of_free hfree
    rw [hentrants]
    exact ⟨hengine, hdisplay⟩
  · obtain ⟨before, after, hended, houtcome⟩ := hserial.outcomes id outcome hmade
    refine ⟨before, after ++ (turns.holder.map HalfPoll.id).toList, ?_, houtcome,
      fun report hreport => ?_⟩
    · rw [hserial.order, hended]
      simp
    · rw [Engine.serve_concat, Run.tick_state]
      exact (Section.state_of_poll (houtcome.symm.trans hreport)).symm

/-- The first of two polls raises the warning. The second takes the lock before the callbacks of the
first have all been run, and takes the warning down when the device is plugged in: the last callback
of the first poll still hears that the warning is shown. -/
theorem replay?_one_at_a_time_of_two :
    let low : PowerState := { bucket := .number (.integer (-1)) }
    let polls (id : Nat) : Tick :=
      .ofPower (if id = 0 then low else { low with plugged := .flag true })
    let e : Engine := .fresh .zero [.named "lamp", .named "siren"]
    let moves : List PollMove :=
      [.enter 0, .resume, .callback 0 fun _ _ => {}, .enter 1, .resume,
        .callback 0 fun _ _ => { requests := [.clear] }]
    ∃ turns, replay? polls { engine := e } moves = some turns ∧
      turns.engine.withoutCallbacks = (e.serve polls [0, 1]).engine.withoutCallbacks ∧
      displayChanges turns.effects = displayChanges (e.serve polls [0, 1]).effects ∧
      turns.engine.state.batteryWarning = .hidden ∧
      ∀ run ∈ callbackRuns turns.effects,
        run.2.state = (e.serve polls [0]).engine.state ∧ run.2.state.batteryWarning = .shown := by
  intro low polls e moves
  have hpossible : (replay? polls { engine := e } moves).map (·.holder) = some none := by
    decide +kernel
  have hshown : (e.serve polls [0]).engine.state.batteryWarning = .shown := by decide +kernel
  have hhidden : (e.serve polls [0, 1]).engine.state.batteryWarning = .hidden := by decide +kernel
  clear_value polls e
  obtain ⟨turns, hturns, hfree⟩ := Option.map_eq_some_iff.1 hpossible
  obtain ⟨-, -, hserial, hended, -, hheard, -⟩ := replay?_one_at_a_time hturns
  have horder : entrants moves = [0, 1] := rfl
  have hcallers : callers moves = [0, 0] := rfl
  rw [horder] at hserial hended
  rw [hcallers] at hheard
  obtain ⟨hengine, hdisplay⟩ := hserial hfree
  have hstate : turns.engine.state = (e.serve polls [0, 1]).engine.state :=
    congrArg (·.state) hengine
  have hreport (report : PollReport) (h : (0, .ok report) ∈ turns.outcomes) :
      report.state = (e.serve polls [0]).engine.state ∧
        report.state.batteryWarning = .shown := by
    obtain ⟨before, after, hsplit, -, hown⟩ := hended 0 _ h
    obtain rfl : before = [] := by
      match before, hsplit with
      | [], _ => rfl
      | _ :: [], hsplit => cases hsplit
      | _ :: _ :: _, hsplit => simp at hsplit
    have hown := hown report rfl
    exact ⟨hown, hown ▸ hshown⟩
  refine ⟨turns, hturns, hengine, hdisplay, hstate ▸ hhidden, ?_⟩
  generalize callbackRuns turns.effects = runs at hheard
  obtain _ | ⟨hfirst, _ | ⟨hsecond, ⟨⟩⟩⟩ := hheard
  simpa using ⟨hreport _ hfirst, hreport _ hsecond⟩

end PollTurns

end DeviceWarnings
