/-!
# Channels and surfaces

A container tells its subscribers about changes, additions and removals, each
on a channel of its own. Its surface says what becomes of failures in the
script functions that it calls.
-/

namespace Observables

/-- What a subscription can be told about. -/
inductive Channel where
  /-- What the container holds has changed. -/
  | change
  /-- An element was added to a list. -/
  | added
  /-- An element was removed from a list. -/
  | removed
  deriving Repr, DecidableEq, Inhabited

/-- The channel as it is named in scripts and in the trace. -/
def Channel.name : Channel → String
  | .change => "change"
  | .added => "add"
  | .removed => "remove"

/-- How a container treats the failures of its script functions. -/
inductive Surface where
  /-- Failures pass through the container to whoever called it, and through
  every shield on the way. -/
  | direct
  /-- What subscribers and teardowns throw themselves ends where it arises, and
  setters run while nothing is borrowed. -/
  | shielded
  deriving Repr, DecidableEq, Inhabited

end Observables
