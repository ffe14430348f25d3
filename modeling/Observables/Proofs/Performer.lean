import Observables.Proofs.Chain
import Observables.Proofs.Retention

/-!
# Who performs an action

An action is performed by a machine that has nothing left to do, or by one that
goes on with a body and will come back to it. All that an action does in its
first step is said of this machine. Only actions reach what is kept under names,
so a step that performs none leaves names and handles as they are.
-/

namespace Observables

open Script

/-- The machine on which an action is performed next. -/
def Moment.performer (moment : Moment) : Machine :=
  if moment.machine.isFinished then moment.idle else moment.machine

/-- An action carries out an operation on a container that knows it. It has taken its first step
at the next moment, and is over when the stack is down to the height. -/
def Moment.Operates (moment : Moment) (container : ContainerRef)
    (operation : Operation (List Action)) (height : Nat) (next : Moment) : Prop :=
  ∃ action, moment.Performs action height next ∧ action.command = .operate operation ∧
    moment.world.names.find? (moment.performer.subjectName action) = some container ∧
    operation.isKnown (moment.world.container container).surface
      (moment.world.container container).contents.isList = true

namespace Machine

/-- An operation that is known begins on the container of its name. -/
theorem perform_operates {machine : Machine} {action : Action}
    {operation : Operation (List Action)} {container : ContainerRef}
    (operates : action.command = .operate operation)
    (found : machine.world.names.find? (machine.subjectName action) = some container)
    (known : operation.isKnown (machine.world.container container).surface
      (machine.world.container container).contents.isList = true) :
    machine.perform action = (machine.push [.operating container]).operate container operation := by
  simp only [perform, operates, command, operateOn, found, known, if_true]

end Machine

namespace Moment

/-- A machine on which an action begins at a moment, and what it keeps of the moment. -/
structure Begun (moment : Moment) (action : Action) (height : Nat) (next : Moment)
    (machine : Machine) : Prop where
  /-- Its world is that of the moment, with a fresh journal before an action of the script. -/
  world : machine.world = moment.performer.world
  /-- Its variables are those of the body that goes on, or of the script. -/
  locals : machine.locals = moment.performer.locals
  /-- When the action is over the stack is as it was. -/
  length : machine.stack.length = height
  /-- Inside a body it will come back to note the reply and to go on with the others. -/
  stack : moment.machine.stack = [] ∧ machine.stack = [] ∨ ∃ actions base,
    moment.machine.stack = .body (action :: actions) :: base ∧
      machine.stack = .finish action :: .body actions :: base ∧ next = moment.step
  /-- The same keys are open. -/
  chain : machine.stack.flatMap Frame.scopes = moment.chain
  /-- The same containers exist. -/
  isAlive : ∀ container, machine.isAlive container = moment.machine.isAlive container
  /-- It takes the first step of the action. -/
  performs : next.machine = machine.perform action
  /-- It does what the action does first. -/
  history : next.history = machine.actionDeed action :: moment.history

/-- The action that took its first step at the first moment is in progress at the other one, or
has just ended: the stack has not been down to the height before. -/
def Lasts (first : Moment) (height : Nat) (moment : Moment) : Prop :=
  ∃ steps, first.machine.StaysAbove height steps ∧ moment = first.run steps

variable {moment next first : Moment} {action : Action} {container : ContainerRef}
  {operation : Operation (List Action)} {height steps : Nat}

/-- Before an action of the script the journal is cleared, and nothing else changes. -/
theorem world_performer (moment : Moment) : moment.performer.world =
    { moment.world with journal := moment.performer.world.journal } := by
  unfold performer
  split
  · rfl
  · rfl

/-- Every action begins on a machine. -/
theorem Performs.exists_begun (performs : moment.Performs action height next) :
    ∃ machine, moment.Begun action height next machine := by
  cases performs with
  | outermost finished =>
    have same : moment.performer = moment.idle := by rw [performer, if_pos finished]
    have empty := Machine.stack_eq_nil finished
    refine ⟨moment.idle, by rw [same], by rw [same], rfl, .inl ⟨empty, rfl⟩, ?_,
      fun container => ?_, rfl, rfl⟩
    · rw [Moment.chain, empty]
      rfl
    · rw [Machine.isAlive, Machine.isAlive, Machine.operatesOn, Machine.operatesOn, empty]
      rfl
  | @inside _ actions base reply stack focus =>
    have busy : moment.machine.isFinished = false := by rw [Machine.isFinished, stack]; rfl
    have same : moment.performer = moment.machine := by
      rw [performer, if_neg (by rw [busy]; exact Bool.false_ne_true)]
    refine ⟨Machine.push { moment.machine with stack := base } [.finish action, .body actions],
      by rw [same]; rfl, by rw [same]; rfl, rfl, .inr ⟨actions, base, stack, rfl, rfl⟩, ?_,
      fun container => ?_,
      Machine.step_of_resume stack focus, ?_⟩
    · rw [Moment.chain, stack]
      rfl
    · rw [Machine.isAlive, Machine.isAlive, Machine.operatesOn, Machine.operatesOn, stack]
      rfl
    · have deed : moment.machine.deed = (Machine.push { moment.machine with stack := base }
          [.finish action, .body actions]).actionDeed action := by
        simp only [Machine.deed, stack, focus]
        rfl
      exact congrArg (· :: moment.history) deed

/-- The machine has the world of the moment but for the journal. -/
theorem Begun.world_eq {machine : Machine} (begun : moment.Begun action height next machine) :
    machine.world = { moment.world with journal := machine.world.journal } := by
  rw [begun.world]
  exact moment.world_performer

/-- The machine has the containers of the moment. -/
theorem Begun.container_eq {machine : Machine} (begun : moment.Begun action height next machine)
    (container : ContainerRef) :
    machine.world.container container = moment.world.container container := by
  rw [begun.world_eq]
  rfl

/-- An expression has the value for the machine that it has for the moment. -/
theorem Begun.evaluate {machine : Machine} (begun : moment.Begun action height next machine)
    (expression : Expression) :
    machine.evaluate expression = moment.performer.evaluate expression := by
  rw [Machine.evaluate, Machine.evaluate, begun.world, begun.locals]

/-- An expression has the value as a name for the machine that it has for the moment. -/
theorem Begun.evaluateName {machine : Machine} (begun : moment.Begun action height next machine)
    (expression : Expression) :
    machine.evaluateName expression = moment.performer.evaluateName expression := by
  rw [Machine.evaluateName, Machine.evaluateName, begun.evaluate]

/-- The name that an action is about stands for the same container on the machine and at the
moment. -/
theorem Begun.find?_subject {machine : Machine} (begun : moment.Begun action height next machine) :
    machine.world.names.find? (machine.subjectName action) =
      moment.world.names.find? (moment.performer.subjectName action) := by
  rw [begun.world_eq, Machine.subjectName, begun.evaluateName]
  rfl

/-- From one moment to the next an action is performed, or names and handles stay as they are
and nothing is done that only actions do. -/
theorem Next.performs_or (follows : moment.Next next) :
    (∃ action height, moment.Performs action height next) ∨
      next.world.names = moment.world.names ∧ next.world.handles = moment.world.handles ∧
        ∃ deed, next.history = deed :: moment.history ∧ deed.isScripted = false := by
  cases follows with
  | begin finished action => exact .inl ⟨action, 0, .outermost finished action⟩
  | step busy =>
    obtain ⟨frame, rest, top⟩ := Machine.exists_frame busy
    cases focus : moment.machine.focus with
    | unwind failure =>
      have step := Machine.step_of_unwind top focus
      have retains :=
        (Machine.retains_unwind { moment.machine with stack := rest } frame failure).world
      have world : moment.step.world =
          (Machine.unwind { moment.machine with stack := rest } frame failure).world :=
        congrArg Machine.world step
      refine .inr ⟨world ▸ retains.names, world ▸ retains.handles, _, rfl, ?_⟩
      simp only [Machine.deed, top, focus]
      cases frame <;> rfl
    | resume reply =>
      by_cases body : ∃ action actions, frame = .body (action :: actions)
      · obtain ⟨action, actions, rfl⟩ := body
        exact .inl ⟨action, _, .inside top focus⟩
      · have other (action : Action) (actions : List Action) :
            frame ≠ .body (action :: actions) := fun same => body ⟨action, actions, same⟩
        have step := Machine.step_of_resume top focus
        have world : moment.step.world =
            (Machine.resume { moment.machine with stack := rest } frame reply).world :=
          congrArg Machine.world step
        have deed : moment.machine.deed.isScripted = false := by
          simp only [Machine.deed, top, focus]
          exact Machine.not_isScripted_resumeDeed _ reply other
        refine .inr ?_
        rw [world]
        by_cases finishes : ∃ action, frame = .finish action
        · obtain ⟨action, rfl⟩ := finishes
          have kept : ∀ machine : Machine, (machine.finish action reply).world.names =
              machine.world.names ∧ (machine.finish action reply).world.handles =
                machine.world.handles := by
            intro machine
            unfold Machine.finish
            dsimp only
            split
            · exact ⟨rfl, rfl⟩
            · exact ⟨rfl, rfl⟩
          exact ⟨(kept _).1, (kept _).2, _, rfl, deed⟩
        · have retains := (Machine.retains_resume { moment.machine with stack := rest } frame
            reply other fun action same => finishes ⟨action, same⟩).world
          exact ⟨retains.names, retains.handles, _, rfl, deed⟩

/-- An operation begins over a frame that says so, on the machine of its action. -/
theorem Operates.exists_begun (operates : moment.Operates container operation height next) :
    ∃ action machine, moment.Begun action height next machine ∧
      next.machine = (machine.push [.operating container]).operate container operation := by
  obtain ⟨action, performs, operates, found, known⟩ := operates
  obtain ⟨machine, begun⟩ := performs.exists_begun
  refine ⟨action, machine, begun, begun.performs.trans (Machine.perform_operates operates ?_ ?_)⟩
  · rw [begun.find?_subject]
    exact found
  · rw [begun.container_eq]
    exact known

/-- An operation begins over a frame that says so, with the world and the variables of the
moment. -/
theorem Operates.begins (operates : moment.Operates container operation height next) :
    ∃ (begun : Machine) (base : List Frame), base.length = height ∧
      begun.stack = .operating container :: base ∧
      begun.world = moment.performer.world ∧ begun.locals = moment.performer.locals ∧
      next.machine = begun.operate container operation := by
  obtain ⟨action, machine, begun, operated⟩ := operates.exists_begun
  exact ⟨machine.push [.operating container], machine.stack, begun.length, rfl, begun.world,
    begun.locals, operated⟩

/-- An operation takes its first step from one moment to the next. -/
theorem Operates.follows (operates : moment.Operates container operation height next) :
    moment.Next next := by
  obtain ⟨action, performs, _⟩ := operates
  exact performs.next

/-- The machine on which an action is performed next has the containers of the moment. -/
theorem containers_performer (moment : Moment) :
    moment.performer.world.containers = moment.world.containers := by
  unfold performer
  split
  · rfl
  · rfl

/-- An action is in progress when it has taken its first step. -/
theorem Lasts.refl (first : Moment) (height : Nat) : first.Lasts height first :=
  ⟨0, fun _ before => absurd before (Nat.not_lt_zero _), rfl⟩

/-- What has not ended is in progress for as long as the stack stays above its height. -/
theorem Lasts.run (lasts : first.Lasts height moment)
    (stays : moment.machine.StaysAbove height steps) : first.Lasts height (moment.run steps) := by
  obtain ⟨before, earlier, rfl⟩ := lasts
  rw [(first.machine_run before).1] at stays
  exact ⟨before + steps, earlier.trans stays, (run_add _ _ _).symm⟩

/-- What has not ended is in progress at the next moment. -/
theorem Lasts.step (lasts : first.Lasts height moment)
    (above : height < moment.machine.stack.length) : first.Lasts height moment.step := by
  obtain ⟨steps, stays, rfl⟩ := lasts
  have busy := Machine.not_isFinished above
  rw [(first.machine_run steps).1] at above
  exact ⟨steps + 1, stays.succ above, (run_succ busy).symm⟩

/-- What is in progress ends when the stack is down to its height. -/
theorem Lasts.returns (lasts : first.Lasts height moment)
    (returns : moment.machine.Returns height steps) :
    ∃ total, first.machine.Returns height total ∧ moment.run steps = first.run total := by
  obtain ⟨before, earlier, rfl⟩ := lasts
  rw [(first.machine_run before).1] at returns
  exact ⟨before + steps, .of_run earlier returns, (run_add _ _ _).symm⟩

end Moment

end Observables
