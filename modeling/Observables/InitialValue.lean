import Observables.Value

/-!
# Initial values of lists

A list can only start from a list of values, and can only be replaced by one.
Anything else is refused with an error that carries a message and has one
written form.
-/

namespace Observables

/-- Why a value was refused. -/
inductive InitialValueError where
  /-- The value cannot be the contents of a list. -/
  | invalid (message : String)
  deriving Repr, DecidableEq

namespace InitialValueError

/-- The message that the error carries. -/
def message : InitialValueError → String
  | .invalid message => message

/-- The written form of the error. -/
def text : InitialValueError → String
  | .invalid message => "Invalid initial value: " ++ message

/-- The error for a value that is not a list. -/
def notAList : InitialValueError := .invalid "initial value of lstate must be an array"

end InitialValueError

/-- The contents that a value stands for. -/
def Value.toContents (value : Value) : Except InitialValueError (List Value) :=
  match value.items? with
  | some items => .ok items
  | none => .error .notAList

/-- The contents of a list are its items. -/
theorem Value.toContents_eq_ok {value : Value} {items : List Value} :
    value.toContents = .ok items ↔ value = .list items := by
  cases value <;> simp [Value.toContents, Value.items?]

end Observables
