import Observables.Value

/-!
# Failures and replies

An action ends with a reply or is left early because of a failure. A failure
that was caught on the way is a reply too. A thrown value can be stopped by a
shield as long as it has not left a direct call; after that, and in the case
of a borrow from the start, only an attempt stops it.
-/

namespace Observables

/-- Why an action was left early. -/
inductive Failure where
  /-- A script threw a value, which has not left a direct call yet. -/
  | thrown (value : Value)
  /-- A script threw a value, which has left a direct call. -/
  | escaped (value : Value)
  /-- The contents of a container were to be changed while they were borrowed. -/
  | borrowed
  deriving DecidableEq, Inhabited

/-- A failure as an answer. -/
def Failure.toDocument : Failure → Document
  | .thrown value | .escaped value =>
    .record [("error", .text "throw"), ("value", value.toDocument)]
  | .borrowed => .record [("error", .text "borrow")]

/-- The failure after it has left a direct call. -/
def Failure.escape : Failure → Failure
  | .thrown value => .escaped value
  | failure => failure

/-- A shield stops the failure. -/
def Failure.isStoppable : Failure → Bool
  | .thrown _ => true
  | _ => false

/-- What an action answers: a value, or the failure that it caught. -/
inductive Reply where
  /-- A value. -/
  | value (value : Value)
  /-- A failure that did not go further. -/
  | failure (failure : Failure)
  deriving DecidableEq, Inhabited

namespace Reply

/-- A reply as an answer. -/
def toDocument : Reply → Document
  | .value answer => answer.toDocument
  | .failure cause => cause.toDocument

/-- What a variable keeps of a reply. -/
def kept : Reply → Value
  | .value answer => answer.plain
  | .failure _ => .null

/-- The value of a reply; a caught failure has none. -/
def content : Reply → Value
  | .value answer => answer
  | .failure _ => .null

end Reply

end Observables
