import DeviceWarnings.Engine

/-!
# Sections of a poll

A section is a part of what an engine does: it changes the engine, has effects in some order, and
either ends with a value or is cut off by a fault. What was done before a fault stays done, which
is why the engine and the effects stand beside the outcome and not inside it.
-/

namespace DeviceWarnings

/-- The engine after a section, the effects of the section in order, and how it ended. -/
structure Progress (α : Type) where
  engine : Engine
  effects : List Effect
  outcome : Except Fault α

/-- A part of what an engine does. -/
def Section (α : Type) : Type := Engine → Progress α

namespace Section

/-- The section that only has a value. -/
def pure {α : Type} (a : α) : Section α := fun engine => ⟨engine, [], .ok a⟩

/-- A section and then another; after a fault in the first the second is left out. -/
def bind {α β : Type} (first : Section α) (next : α → Section β) : Section β := fun engine =>
  match (first engine).outcome with
  | .ok a =>
    let second := next a (first engine).engine
    ⟨second.engine, (first engine).effects ++ second.effects, second.outcome⟩
  | .error fault => ⟨(first engine).engine, (first engine).effects, .error fault⟩

instance : Monad Section where
  pure := Section.pure
  bind := Section.bind

theorem pure_apply {α : Type} (a : α) (e : Engine) :
    (Pure.pure a : Section α) e = ⟨e, [], .ok a⟩ := rfl

/-- After a value the second section goes on where the first has ended. -/
theorem bind_apply_of_ok {α β : Type} {first : Section α} {e : Engine} {a : α}
    (h : (first e).outcome = .ok a) (next : α → Section β) :
    (first >>= next) e =
      ⟨(next a (first e).engine).engine,
        (first e).effects ++ (next a (first e).engine).effects,
        (next a (first e).engine).outcome⟩ := by
  change Section.bind first next e = _
  simp only [Section.bind, h]

/-- After a fault the second section is left out, and what was done stays done. -/
theorem bind_apply_of_error {α β : Type} {first : Section α} {e : Engine} {fault : Fault}
    (h : (first e).outcome = .error fault) (next : α → Section β) :
    (first >>= next) e = ⟨(first e).engine, (first e).effects, .error fault⟩ := by
  change Section.bind first next e = _
  simp only [Section.bind, h]

/-- It does not matter how a sequence of sections is put into parentheses. -/
instance : LawfulMonad Section :=
  LawfulMonad.mk' Section
    (fun s => by
      funext e
      change Section.bind s Section.pure e = s e
      cases h : (s e).outcome <;> simp [Section.bind, Section.pure, h] <;> rw [← h])
    (fun a next => by
      funext e
      change Section.bind (Section.pure a) next e = next a e
      simp [Section.bind, Section.pure])
    (fun s next last => by
      funext e
      change Section.bind (Section.bind s next) last e =
        Section.bind s (fun a => Section.bind (next a) last) e
      cases h : (s e).outcome with
      | error fault => simp [Section.bind, h]
      | ok a =>
        cases h' : (next a (s e).engine).outcome <;> simp [Section.bind, h, h'])

/-- The engine as it is. -/
def engine : Section Engine := fun e => ⟨e, [], .ok e⟩

/-- Changes the engine. -/
def modify (change : Engine → Engine) : Section Unit := fun e => ⟨change e, [], .ok ()⟩

/-- Has one effect. -/
def perform (effect : Effect) : Section Unit := fun e => ⟨e, [effect], .ok ()⟩

/-- Writes a log record. -/
def log (level : LogLevel) (source : LogSource) (message : Text) : Section Unit :=
  perform (.log ⟨level, source, message⟩)

/-- Ends with a value or a fault that is already there. -/
def ofExcept {α : Type} (outcome : Except Fault α) : Section α := fun e => ⟨e, [], outcome⟩

/-- A section whose fault is handed on as a value. -/
def attempt {α : Type} (s : Section α) : Section (Except Fault α) := fun e =>
  ⟨(s e).engine, (s e).effects, .ok (s e).outcome⟩

/-- Records an event and logs it. -/
def record (clock : Binary64) (channel : Channel) (action : WarningAction)
    (description : Text) : Section Unit := do
  let event : WarningEvent := ⟨clock, channel, action, description⟩
  modify fun e => { e with events := keepLast (some eventCapacity) (e.events ++ [event]) }
  log .info .engine (channel.name ++ " warning " ++ action.name ++ ": " ++ description)

end Section

end DeviceWarnings
