import Observables.InitialValue
import Observables.Channel
import Observables.Identity.KeySequence

/-!
# The trace

What happens inside containers and realms can be followed in a trace. Each
event of the trace has a level, a message and named fields; a realm without a
label is called unlabelled.
-/

namespace Observables

/-- What happens inside containers and realms. -/
inductive TraceEvent where
  /-- A realm was made. -/
  | realmCreated (label : Option String) (firstId : Nat)
  /-- A key sequence changed. -/
  | keyMoved (movement : KeyMovement)
  /-- A list was made. -/
  | listCreated (container length : Nat)
  /-- An element was added. -/
  | elementAdded (container : Nat) (key : Key) (position : Nat)
  /-- An element was removed. -/
  | elementRemoved (container : Nat) (key : Key) (position : Nat)
  /-- All elements were replaced; so many keys were released. -/
  | listReplaced (container released : Nat)
  /-- The subscriptions of a channel are about to be called. -/
  | dispatching (channel : Channel) (subscribers : Nat)
  /-- A teardown was refused because no key is open. -/
  | teardownIgnored (label : Option String)
  /-- A teardown was bound to a key. -/
  | teardownRegistered (label : Option String) (key : Key)
  /-- The teardowns of a key are about to be run. -/
  | teardownsRunning (label : Option String) (key : Key) (count : Nat)
  /-- A value was refused as the contents of a list. -/
  | contentsRejected (error : InitialValueError)
  deriving DecidableEq

namespace TraceEvent

/-- How a realm is called in the trace. -/
def realmName (label : Option String) : Document := .text (label.getD "unlabelled")

/-- The level, the message and the fields of a trace event. -/
def parts : TraceEvent → String × String × List (String × Document)
  | .realmCreated label firstId =>
    ("DEBUG", "creating runtime", [("label", realmName label), ("first_id", .nat firstId)])
  | .keyMoved (.allocated key position) =>
    ("TRACE", "key allocated", [("key", .text key.text), ("position", .nat position)])
  | .keyMoved (.released key position) =>
    ("TRACE", "key released", [("key", .text key.text), ("position", .nat position)])
  | .listCreated container length =>
    ("TRACE", "list created", [("container", .nat container), ("len", .nat length)])
  | .elementAdded container key position =>
    ("TRACE", "element added",
      [("container", .nat container), ("key", .text key.text), ("position", .nat position)])
  | .elementRemoved container key position =>
    ("TRACE", "element removed",
      [("container", .nat container), ("key", .text key.text), ("position", .nat position)])
  | .listReplaced container released =>
    ("TRACE", "list replaced", [("container", .nat container), ("released", .nat released)])
  | .dispatching channel subscribers =>
    ("TRACE", "dispatching notification",
      [("channel", .text channel.name), ("subscribers", .nat subscribers)])
  | .teardownIgnored label =>
    ("TRACE", "teardown registered outside of a dispatch, ignored",
      [("runtime", realmName label)])
  | .teardownRegistered label key =>
    ("TRACE", "teardown registered", [("runtime", realmName label), ("key", .text key.text)])
  | .teardownsRunning label key count =>
    ("DEBUG", "running teardowns",
      [("runtime", realmName label), ("key", .text key.text), ("count", .nat count)])
  | .contentsRejected error =>
    ("DEBUG", "rejected lstate initial value", [("error", .text error.text)])

/-- The written form of a trace event. -/
def toDocument (event : TraceEvent) : Document :=
  let (level, message, fields) := event.parts
  .list [.text "trace", .text level, .text message, .record fields]

end TraceEvent

end Observables
