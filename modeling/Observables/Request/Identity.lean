import Observables.Document
import Observables.Identity.Supply
import Observables.Identity.KeyHistory

/-!
# Requests about identifiers and keys

How a request about a supply, about some keys or about one key sequence is
read from a document, and how the answers are written.
-/

namespace Observables.Request

/-- Answer the steps of a request about one supply, one after the other. -/
def supplySteps : IdSupply → List Document → List Document
  | _, [] => []
  | supply, step :: steps =>
    match step.text? with
    | some "next" =>
      let (id, supply) := supply.draw
      .nat id :: supplySteps supply steps
    | some "peek" => .nat supply.peek :: supplySteps supply steps
    | some "debug" => .text supply.describe :: supplySteps supply steps
    | _ => .null :: supplySteps supply steps

/-- Answer a request about one supply. -/
def supply (request : Document) : Document :=
  .record [("steps", .list (supplySteps ⟨(request.field "first").nat?.getD 0⟩
    (request.field "steps").entries))]

/-- Read a key from a list of its two numbers. -/
def readKey (document : Document) : Key :=
  match document with
  | .list [container, seq] => ⟨container.nat?.getD 0, seq.nat?.getD 0⟩
  | _ => ⟨0, 0⟩

/-- An ordering as a number. -/
def writeOrdering : Ordering → Document
  | .lt => .int (-1)
  | .eq => .int 0
  | .gt => .int 1

/-- A key as the text of its written form. -/
def writeKey (key : Key) : Document := .text key.text

/-- Everything about one key, compared with the first one. -/
def keyRow (first key : Key) : Document :=
  .record [
    ("display", writeKey key),
    ("debug", .text key.describe),
    ("container", .nat key.container),
    ("seq", .nat key.seq),
    ("cmp", writeOrdering (first.order key)),
    ("eq", .bool (first == key))]

/-- Answer a request about some keys. -/
def keys (request : Document) : Document :=
  let keys := (request.field "keys").entries.map readKey
  .record [
    ("keys", .list (keys.map (keyRow (keys.headD ⟨0, 0⟩)))),
    ("sorted", .list ((Key.ascending keys).map writeKey))]

/-- Read a command to a key sequence. -/
def keyCommand? (step : Document) : Option KeyCommand :=
  let number := (step.entries[1]?.bind Document.nat?).getD 0
  match step.entries.head?.bind Document.text? with
  | some "new_key" => some (.allocate number)
  | some "key_at" => some (.keyAt number)
  | some "release" => some (.release number)
  | some "release_all" => some .releaseAll
  | some "fill" => some (.fill number)
  | some "position_of" =>
    some (.positionOf ((step.entries[1]?.bind Document.text?).bind Key.ofText?))
  | some "container" => some .container
  | some "debug" => some .describe
  | some "save" => some .save
  | some "swap" => some .swap
  | _ => none

/-- What a key sequence answered, as a document. -/
def writeKeyAnswer : KeyAnswer → Document
  | .nothing => .null
  | .key key => writeKey key
  | .keys keys => .list (keys.map writeKey)
  | .number value => .nat value
  | .text value => .text value

/-- An answer with the key sequence after it. -/
def keySequenceRow (answer : Document) (keys : KeySequence) : Document :=
  .record [
    ("r", answer),
    ("keys", .list (keys.inUse.map writeKey)),
    ("len", .nat keys.size),
    ("empty", .bool keys.inUse.isEmpty)]

/-- Answer the steps of a request about one key sequence, one after the other. -/
def keySequenceSteps : KeyHistory → List Document → List Document
  | _, [] => []
  | history, step :: steps =>
    match keyCommand? step with
    | none => keySequenceRow .null history.current :: keySequenceSteps history steps
    | some command =>
      let (answer, history) := history.perform command
      keySequenceRow (writeKeyAnswer answer) history.current :: keySequenceSteps history steps

/-- Answer a request about one key sequence. -/
def keySequence (request : Document) : Document :=
  let container := (request.field "container").nat?.getD 0
  let keys := KeySequence.ofLength container ((request.field "len").nat?.getD 0)
  .record [("steps", .list (keySequenceSteps (.start keys) (request.field "steps").entries))]

end Observables.Request
