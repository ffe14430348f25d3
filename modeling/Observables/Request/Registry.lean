import Observables.Value
import Observables.Subscription.History

/-!
# Requests about one registry

How commands to a registry are read from a document, and how the answers, the
calls that were made and the registry after each command are written. A
callback is a tag, which may be any document; calling it notes the tag and the
argument.
-/

namespace Observables.Request

/-- Read a command to a registry. -/
def registryCommand? (step : Document) : Option (RegistryCommand Document) :=
  let tag (index : Nat) := (step.entries[index]?).getD .null
  let text (index : Nat) := (step.entries[index]?.bind Document.text?).getD ""
  let number (index : Nat) := (step.entries[index]?.bind Document.nat?).getD 0
  match step.entries.head?.bind Document.text? with
  | some "insert" => some (.insert (number 1) (tag 2))
  | some "unsubscribe" => some (.unsubscribe (number 1))
  | some "snapshot" => some (.snapshot (text 1))
  | some "single" => some (.single (text 1) (number 2) (tag 3))
  | some "fire" => some (.fire (text 1))
  | some "active" => some (.active (text 1))
  | some "deactivate" => some (.deactivate (text 1) (number 2))
  | _ => none

/-- What a registry answered, as a document. -/
def writeRegistryAnswer : RegistryAnswer → Document
  | .nothing => .null
  | .flag value => .bool value
  | .ids ids => .list (ids.map .nat)
  | .states states => .list (states.map fun (id, active) => .list [.nat id, .bool active])

/-- An answer with the calls that were made and the registry after it. -/
def registryRow (answer : Document) (argument : Document) (called : List Document)
    (registry : Registry) : Document :=
  .record [
    ("r", answer),
    ("log", .list (called.map fun tag => .list [tag, argument])),
    ("ids", .list (registry.ids.map .nat)),
    ("len", .nat registry.size),
    ("empty", .bool (registry.size == 0))]

/-- Answer the steps of a request about one registry, one after the other. -/
def registrySteps : RegistryHistory Document → List Document → List Document
  | _, [] => []
  | history, step :: steps =>
    match registryCommand? step with
    | none => registryRow .null .null [] history.board.registry :: registrySteps history steps
    | some command =>
      let (answer, called, history) := history.perform command
      registryRow (writeRegistryAnswer answer) (step.entries[2]?.getD .null) called
        history.board.registry :: registrySteps history steps

/-- Answer a request about one registry. -/
def registry (request : Document) : Document :=
  .record [("steps", .list (registrySteps {} (request.field "steps").entries))]

end Observables.Request
