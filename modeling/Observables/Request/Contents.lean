import Observables.InitialValue
import Observables.Script.Reader

/-!
# Requests about list contents and the error that refuses them

A request may ask how the error is written and compared, or for the contents
that the value of an expression stands for.
-/

namespace Observables.Request

/-- Answer a request about the error that refuses a value. -/
def refusal (request : Document) : Document :=
  let message := ((request.field "message").text?).getD ""
  let error := InitialValueError.invalid message
  let other := InitialValueError.invalid (((request.field "other").text?).getD "")
  .record [
    ("display", .text error.text),
    ("message", .text error.message),
    ("eq", .bool (error == other)),
    ("clone_eq", .bool (error == error)),
    ("js", .text error.text)]

/-- Answer a request for the contents that a value stands for. -/
def contents (request : Document) : Document :=
  let value := (Script.readExpression (request.field "value")).evaluate (fun _ => .null) {}
  match value.toContents with
  | .ok items =>
    .record [("len", .nat items.length), ("value", (Value.list items).toDocument)]
  | .error error =>
    .record [("error", .text "InvalidInitialValue"), ("message", .text error.text)]

end Observables.Request
