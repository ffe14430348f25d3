import Observables.Request.Identity
import Observables.Request.Registry
import Observables.Request.Contents
import Observables.Request.Script

/-!
# Requests

A request is a document whose field `op` names what is asked. The answer is a
document.
-/

namespace Observables.Request

/-- Answer a request. Each action of a script may take the given number of steps. -/
def answer (steps : Nat) (request : Document) : Document :=
  match (request.field "op").text? with
  | some "ids" => supply request
  | some "keys" => keys request
  | some "tracker" => keySequence request
  | some "registry" => registry request
  | some "error" => refusal request
  | some "sequence" => contents request
  | some "script" => script steps request
  | _ => .null

end Observables.Request
