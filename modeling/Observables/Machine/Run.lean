import Observables.Machine.Perform

/-!
# Running a machine

One step takes the innermost frame off the stack and either resumes it or
unwinds through it. A machine whose stack is empty has finished. Scripts need
not come to an end, so a run is given the number of steps that it may take.
-/

namespace Observables.Machine

open Script

/-- Note the reply of an action, unless it is null, and keep it in a variable, if asked to. -/
def finish (machine : Machine) (action : Action) (reply : Reply) : Machine :=
  let world := if reply = .value .null then machine.world
    else machine.world.emit (.answered action.verb reply)
  let locals := match action.result with
    | none => machine.locals
    | some name => machine.locals.insert name reply.kept
  { machine.withWorld world with locals := locals }.proceed

/-- Go on with a frame that has been taken off the stack. -/
def resume (machine : Machine) (frame : Frame) (reply : Reply) : Machine :=
  match frame with
  | .body [] => machine.proceed
  | .body (action :: actions) => (machine.push [.finish action, .body actions]).perform action
  | .finish action => machine.finish action reply
  | .answer expression => machine.answer (machine.evaluate expression)
  | .yield value => machine.answer value
  | .restore locals => { machine with locals := locals }
  | .attempt => machine.answer (.text "ok")
  | .shield => machine.proceed
  | .boundary => machine
  | .scope realm _ => machine.withWorld (machine.world.leave realm)
  | .borrowed container => machine.withWorld (machine.world.release container)
  | .operating _ => machine
  | .store container => machine.store container reply.content
  | .replace container => machine.replace container reply.content
  | .notify container notice => machine.notify container notice
  | .dispatch container notice waiting => machine.dispatch container notice waiting
  | .announce container key item position => machine.announce container key item position
  | .settle container key => machine.settle container key
  | .discharge realm keys => machine.discharge realm keys
  | .teardown realm key waiting => machine.teardown realm key waiting
  | .search container position rest body test =>
    machine.search container position rest body test
  | .verdict container position rest body test =>
    machine.verdict container position rest body test reply.content

/-- Leave a frame that has been taken off the stack because of a failure. -/
def unwind (machine : Machine) (frame : Frame) (failure : Failure) : Machine :=
  match frame with
  | .attempt => { machine with focus := .resume (.failure failure) }
  | .shield => if failure.isStoppable then machine.proceed else machine
  | .boundary => machine.fail failure.escape
  | .restore locals => { machine with locals := locals }
  | .scope realm _ => machine.withWorld (machine.world.leave realm)
  | .borrowed container => machine.withWorld (machine.world.release container)
  | _ => machine

/-- Take one step. A finished machine stays as it is. -/
def step (machine : Machine) : Machine :=
  match machine.stack, machine.focus with
  | [], _ => machine
  | frame :: stack, .resume reply => { machine with stack := stack }.resume frame reply
  | frame :: stack, .unwind failure => { machine with stack := stack }.unwind frame failure

/-- The machine has nothing left to do. -/
def isFinished (machine : Machine) : Bool := machine.stack.isEmpty

/-- Take steps until the machine has finished, but no more than a number of them. -/
def run (machine : Machine) : Nat → Machine
  | 0 => machine
  | steps + 1 => if machine.isFinished then machine else machine.step.run steps

/-- A machine that performs one action. -/
def start (world : World) (locals : Variables) (action : Action) : Machine :=
  (⟨world, locals, [], .resume (.value .null)⟩ : Machine).perform action

/-- What a finished machine came to: a reply, or the failure that left it. -/
def outcome? (machine : Machine) : Option Reply :=
  if machine.isFinished then
    match machine.focus with
    | .resume reply => some reply
    | .unwind failure => some (.failure failure)
  else none

/-- A finished machine has an empty stack. -/
theorem stack_eq_nil {machine : Machine} (finished : machine.isFinished = true) :
    machine.stack = [] := List.isEmpty_iff.mp finished

/-- A machine whose stack is not empty has not finished. -/
theorem not_isFinished {machine : Machine} {height : Nat}
    (above : height < machine.stack.length) : machine.isFinished = false := by
  cases stack : machine.stack with
  | nil =>
    rw [stack] at above
    exact absurd above (Nat.not_lt_zero _)
  | cons frame rest => simp only [isFinished, stack, List.isEmpty_cons]

/-- A machine that has not finished has an innermost frame. -/
theorem exists_frame {machine : Machine} (busy : machine.isFinished = false) :
    ∃ frame rest, machine.stack = frame :: rest := by
  cases stack : machine.stack with
  | nil =>
    rw [isFinished, stack] at busy
    cases busy
  | cons frame rest => exact ⟨frame, rest, rfl⟩

/-- A finished machine does not change any more. -/
theorem run_of_isFinished {machine : Machine} (finished : machine.isFinished = true)
    (steps : Nat) : machine.run steps = machine := by
  cases steps with
  | zero => rfl
  | succ steps => simp only [run, finished, if_true]

/-- Running on is running for the sum of the steps. -/
theorem run_add (machine : Machine) (first second : Nat) :
    machine.run (first + second) = (machine.run first).run second := by
  induction first generalizing machine with
  | zero => simp only [Nat.zero_add, run]
  | succ first ih =>
    rw [Nat.succ_add]
    by_cases finished : machine.isFinished = true
    · simp only [run, finished, if_true, run_of_isFinished finished]
    · simp only [run, finished, Bool.false_eq_true, if_false]
      exact ih machine.step

end Observables.Machine
