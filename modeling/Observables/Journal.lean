import Observables.Outcome
import Observables.Trace

/-!
# The journal of a run

Everything that a run makes visible is an event: what scripts log, what their
actions answer, the calls of callbacks and, on request, the trace of what
happens inside. The journal keeps the events of one step of a script. Each
event has one written form.
-/

namespace Observables

/-- What a run makes visible. The key of a call is the one that is open. -/
inductive Event where
  /-- A script logged a value. -/
  | logged (value : Value)
  /-- An action in a body answered. -/
  | answered (verb : String) (reply : Reply)
  /-- A change subscription is called with the contents. -/
  | change (tag : String) (value : Value) (active : Option Key)
  /-- An add subscription is called with an element and its position. -/
  | add (tag : String) (item : Value) (position : Nat) (active : Option Key)
  /-- A remove subscription is called with a position. -/
  | remove (tag : String) (position : Nat) (active : Option Key)
  /-- A teardown is called. -/
  | teardown (tag : String) (active : Option Key)
  /-- Something happened inside. -/
  | trace (event : TraceEvent)
  deriving DecidableEq

namespace Event

/-- The open key, or null. -/
def activeKey (active : Option Key) : Document := .optional (.text ·.text) active

/-- The written form of an event. -/
def toDocument : Event → Document
  | .logged value => .list [.text "log", value.toDocument]
  | .answered verb reply => .list [.text "=", .text verb, reply.toDocument]
  | .change tag value active =>
    .list [.text "change", .text tag, value.toDocument, activeKey active]
  | .add tag item position active =>
    .list [.text "add", .text tag, item.toDocument, .nat position, activeKey active]
  | .remove tag position active =>
    .list [.text "remove", .text tag, .nat position, activeKey active]
  | .teardown tag active => .list [.text "teardown", .text tag, activeKey active]
  | .trace event => event.toDocument

end Event

/-- The events of one step of a script. -/
structure Journal where
  /-- The trace is part of the journal. -/
  tracing : Bool := false
  /-- The events, the latest first. -/
  latest : List Event := []

namespace Journal

/-- Note an event. -/
def note (journal : Journal) (event : Event) : Journal :=
  { journal with latest := event :: journal.latest }

/-- Note an event of the trace, if the trace is wanted. -/
def trace (journal : Journal) (event : TraceEvent) : Journal :=
  if journal.tracing then journal.note (.trace event) else journal

/-- Note several events of the trace, in order. -/
def traceAll (journal : Journal) (events : List TraceEvent) : Journal :=
  events.foldl trace journal

/-- The events in the order in which they were noted. -/
def events (journal : Journal) : List Event := journal.latest.reverse

/-- Forget the events. -/
def clear (journal : Journal) : Journal := { journal with latest := [] }

end Journal

end Observables
