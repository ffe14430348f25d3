import Observables.Session
import Observables.Script.Reader

/-!
# Requests to run a script

The actions of the request are performed in one session, with the trace if it
is asked for, and each is answered by its report.
-/

namespace Observables.Request

/-- The written form of a report. -/
def writeReport (report : Report) : Document :=
  .record ([
    ("r", .optional Reply.toDocument report.outcome),
    ("log", .list (report.events.map Event.toDocument))] ++
    (report.view.map fun view => ("s", view)).toList)

/-- Answer a request to run a script, with a limit on the steps of each action. -/
def script (steps : Nat) (request : Document) : Document :=
  let tracing := match request.field "trace" with
    | .bool tracing => tracing
    | _ => false
  let actions := Script.readActions (request.field "steps").entries
  let reports := (Session.start tracing).performAll steps actions
  .record [("steps", .list (reports.map writeReport))]

end Observables.Request
