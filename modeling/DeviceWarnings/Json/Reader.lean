import DeviceWarnings.Fault
import DeviceWarnings.Json.Token

/-!
# Reading JSON

The value of a list of JSON tokens. The reader takes one token after the other and keeps the
lists and mappings that are still open; it stops at the first token that cannot follow, so that
of two defects in a text the first one counts. How many lists and mappings may lie one in another
is up to the one who reads.
-/

namespace DeviceWarnings

/-- Why a text has no JSON value. -/
inductive JsonDefect where
  | malformed
  | tooManyDigits (count : Nat)
  | tooDeep (kind : Kind)
  deriving DecidableEq, Repr

/-- A list or mapping around the value that is being read. -/
inductive JsonFrame where
  /-- An open list; its items so far, the last one first. -/
  | list (items : List Value)
  /-- An open mapping with the entries so far, and the key of the value that is being read. -/
  | mapping (entries : Mapping) (key : Text)

/-- What the reader has read last, and so what it expects. -/
inductive JsonStage where
  | value
  | listStart
  | afterItem (items : List Value)
  | mappingStart
  | key (entries : Mapping)
  | afterKey (entries : Mapping) (key : Text)
  | afterEntry (entries : Mapping)
  | done (value : Value)

/-- The reader between two tokens: the open lists and mappings from the inside out, and what is
expected. -/
structure JsonReader where
  frames : List JsonFrame := []
  stage : JsonStage := .value

namespace JsonReader

variable (limit : Nat)

/-- The reader after a complete value inside some open lists and mappings. -/
def complete (value : Value) : List JsonFrame → JsonReader
  | [] => ⟨[], .done value⟩
  | .list items :: frames => ⟨frames, .afterItem (value :: items)⟩
  | .mapping entries key :: frames => ⟨frames, .afterEntry (entries.set key value)⟩

/-- The reader after the start of a list or mapping, which must not lie too deep: no more than so
many may lie one in another. -/
def enter (frames : List JsonFrame) (kind : Kind) (stage : JsonStage) :
    Except JsonDefect JsonReader :=
  if frames.length < limit then .ok ⟨frames, stage⟩ else .error (.tooDeep kind)

/-- The reader after the first token of a value. -/
def beginValue (frames : List JsonFrame) : JsonToken → Except JsonDefect JsonReader
  | .scalar value => .ok (complete value frames)
  | .text t => .ok (complete (.text t) frames)
  | .openList => enter limit frames .list .listStart
  | .openMapping => enter limit frames .mapping .mappingStart
  | .longNumber digits => .error (.tooManyDigits digits)
  | _ => .error .malformed

/-- The reader after one more token. -/
def step (reader : JsonReader) (token : JsonToken) : Except JsonDefect JsonReader :=
  let frames := reader.frames
  match reader.stage, token with
  | .value, _ => beginValue limit frames token
  | .listStart, .closeList => .ok (complete (.list []) frames)
  | .listStart, _ => beginValue limit (.list [] :: frames) token
  | .afterItem items, .comma => .ok ⟨.list items :: frames, .value⟩
  | .afterItem items, .closeList => .ok (complete (.list items.reverse) frames)
  | .mappingStart, .closeMapping => .ok (complete (.mapping []) frames)
  | .mappingStart, .text key => .ok ⟨frames, .afterKey [] key⟩
  | .key entries, .text key => .ok ⟨frames, .afterKey entries key⟩
  | .afterKey entries key, .colon => .ok ⟨.mapping entries key :: frames, .value⟩
  | .afterEntry entries, .comma => .ok ⟨frames, .key entries⟩
  | .afterEntry entries, .closeMapping => .ok (complete (.mapping entries) frames)
  | _, _ => .error .malformed

/-- The value that the reader has read, if it is complete. -/
def result (reader : JsonReader) : Except JsonDefect Value :=
  match reader.stage with
  | .done value => .ok value
  | _ => .error .malformed

end JsonReader

/-- The value of a JSON text in which no more than so many lists and mappings lie one in another. -/
def Value.ofJson (limit : Nat) (t : Text) : Except JsonDefect Value := do
  ((← (JsonToken.tokens t).foldlM (JsonReader.step limit) {})).result

end DeviceWarnings
