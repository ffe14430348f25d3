import Observables.Machine.Run

/-!
# Sessions

A session runs the actions of a script one after the other on one world and
one set of variables. Each action is reported: what it came to, what it made
visible, and how the container that it was about looks afterwards.
-/

namespace Observables

open Script

/-- What is kept between the actions of a script. -/
structure Session where
  /-- The world. -/
  world : World
  /-- The variables of the outermost level. -/
  locals : Variables := {}

/-- What is told about one action of a script. -/
structure Report where
  /-- What the action came to; nothing if it did not end in the allowed steps. -/
  outcome : Option Reply
  /-- What became visible, in order. -/
  events : List Event
  /-- The container that the action was about, if there is one afterwards. -/
  view : Option Document

namespace Session

/-- A new session. -/
def start (tracing : Bool) : Session := ⟨{ journal := { tracing := tracing } }, {}⟩

/-- How a container is shown after an action. -/
def view (world : World) (container : ContainerRef) : Document :=
  let held := world.container container
  let value := held.value.toDocument
  match held.surface, held.contents with
  | .direct, .cell _ => .record [("v", value), ("n", .nat held.changes.size)]
  | .direct, .list _ keys =>
    .record [
      ("v", value),
      ("k", .list (keys.inUse.map fun key => .text key.text)),
      ("t", .nat (world.realm held.realm).teardowns.tracked)]
  | .shielded, .cell _ => .record [("v", value)]
  | .shielded, .list items keys =>
    .record [
      ("v", value),
      ("k", .list ((List.range items.length).map fun position =>
        .optional (fun key => .text key.text) (keys.keyAt? position)))]

/-- The container that an action was about, as it is afterwards. -/
def subjectView (session : Session) (action : Action) : Option Document := do
  let subject ← action.subject
  let name := (subject.evaluate session.world.held session.locals).joined
  let container ← session.world.names.find? name
  return view session.world container

/-- The variables after an action that came to a reply. -/
def keep (locals : Variables) (action : Action) : Focus → Variables
  | .unwind _ => locals
  | .resume reply =>
    match action.result with
    | none => locals
    | some name => locals.insert name reply.kept

/-- Perform one action in at most the given number of steps. -/
def perform (session : Session) (steps : Nat) (action : Action) : Session × Report :=
  let world := { session.world with journal := session.world.journal.clear }
  let machine := (Machine.start world session.locals action).run steps
  let session : Session :=
    ⟨machine.world, keep machine.locals action machine.focus⟩
  (session, ⟨machine.outcome?, machine.world.journal.events, session.subjectView action⟩)

/-- Perform actions one after the other, each in at most the given number of steps. -/
def performAll (session : Session) (steps : Nat) : List Action → List Report
  | [] => []
  | action :: actions =>
    let (session, report) := session.perform steps action
    report :: session.performAll steps actions

end Session

end Observables
