import Observables.Proofs.Nesting
import Observables.Proofs.Return
import Observables.Proofs.Alignment

/-!
# When a borrow error is raised

What changes the contents of a container takes hold of them alone for a
moment, and that fails while a reader holds on to them. This module reads off
the machine of whose contents the next step takes hold in this way. A borrow
error is raised exactly if a reader of that container has a frame on the stack,
that is, inside a setter or a borrowing body of a direct container. The frames
of readers are gone when an action is over, however it ends.
-/

namespace Observables

open Script

/-- Contents are held exactly if a reader has a frame. -/
theorem World.Read.isBorrowed_iff {world : World} {stack : List Frame} (read : world.Read stack)
    (container : ContainerRef) :
    world.isBorrowed container = true ↔ .borrowed container ∈ stack := by
  refine ⟨read.mem_of_isBorrowed, fun inside => ?_⟩
  have counted : 0 < stack.countP (Frame.reads container) :=
    List.countP_pos_iff.mpr ⟨_, inside, by simp [Frame.reads]⟩
  have readers := read.borrows container
  have some : (world.container container).borrows ≠ 0 := by omega
  simpa [World.isBorrowed, Container.isBorrowed] using some

namespace Machine

variable {machine : Machine} {container : ContainerRef}

/-- The first step of an operation takes hold of the contents of the container alone. -/
def operationSeizes (machine : Machine) (container : ContainerRef) :
    Operation (List Action) → Bool
  | .push _ => true
  | .insertAt position _ | .removeAt position => (machine.evaluate position).position?.isSome
  | .pop => (machine.world.container container).items.length != 0
  | _ => false

/-- The container of whose contents the first step of a command takes hold alone. -/
def commandSeizure? (machine : Machine) (subject : String) :
    Command (List Action) → Option ContainerRef
  | .operate operation =>
    (machine.world.names.find? subject).filter fun container =>
      let held := machine.world.container container
      operation.isKnown held.surface held.contents.isList &&
        machine.operationSeizes container operation
  | _ => none

/-- The container of whose contents the first step of an action takes hold alone. -/
def actionSeizure? (machine : Machine) (action : Action) : Option ContainerRef :=
  machine.commandSeizure? (machine.subjectName action) action.command

/-- The container of whose contents going on with a frame takes hold alone: because a setter
has answered, a predicate has accepted an element, or an action begins. -/
def resumeSeizure? (machine : Machine) (frame : Frame) (reply : Reply) : Option ContainerRef :=
  match frame with
  | .body (action :: _) => machine.actionSeizure? action
  | .store container => some container
  | .replace container =>
    match replacement (machine.world.container container).surface reply.content with
    | .error _ => none
    | .ok _ => some container
  | .verdict container _ _ _ _ => if reply.content.truthy then some container else none
  | _ => none

/-- The container of whose contents the next step takes hold alone. -/
def seizure? (machine : Machine) : Option ContainerRef :=
  match machine.stack, machine.focus with
  | frame :: stack, .resume reply => { machine with stack := stack }.resumeSeizure? frame reply
  | _, _ => none

/-- The machine is about to leave its innermost frame because of a borrow error. -/
def HasCollided (machine : Machine) : Prop := machine.focus = .unwind .borrowed

/-- Who answers does not collide. -/
@[simp] theorem not_answer_collides (value : Value) : ¬ (machine.answer value).HasCollided := by
  simp [HasCollided, answer]

/-- Nor does who goes on without a value. -/
@[simp] theorem not_proceed_collides : ¬ machine.proceed.HasCollided :=
  machine.not_answer_collides .null

/-- Nor does who puts frames on the stack. -/
@[simp] theorem not_push_collides (frames : List Frame) :
    ¬ (machine.push frames).HasCollided := by
  simp [HasCollided, push, proceed, answer]

/-- Nor does who says that something does not fit. -/
@[simp] theorem not_unsuitable_collides : ¬ machine.unsuitable.HasCollided :=
  machine.not_answer_collides _

/-- Nor does who says that something does not exist. -/
@[simp] theorem not_missing_collides : ¬ machine.missing.HasCollided :=
  machine.not_answer_collides _

/-- Nor does who throws a value. -/
@[simp] theorem not_throw_collides (value : Value) : ¬ (machine.throw value).HasCollided := by
  simp [HasCollided, throw, fail]

/-- Nor does who runs a setter, a predicate or a borrowing body. -/
@[simp] theorem not_invoke_collides (surface : Surface) (arguments : List (String × Value))
    (body : List Action) (result : Expression) :
    ¬ (machine.invoke surface arguments body result).HasCollided := by
  simp [HasCollided, invoke, push, proceed, answer]

/-- An insertion collides with the readers of the list. -/
theorem insertAt_collides (position : Nat) (item : Value) :
    (machine.insertAt container position item).HasCollided ↔
      machine.world.isBorrowed container = true := by
  unfold insertAt
  cases machine.world.isBorrowed container with
  | true => simp [HasCollided, fail]
  | false => simp

/-- A removal collides with the readers of the list, also where nothing is to be removed. -/
theorem removeAt_collides (position : Nat) :
    (machine.removeAt container position).HasCollided ↔
      machine.world.isBorrowed container = true := by
  unfold removeAt
  cases machine.world.isBorrowed container with
  | true => simp [HasCollided, fail]
  | false =>
    cases found : (machine.world.container container).items[position]? with
    | none => simp [found]
    | some item => simp [found]

/-- A search that goes on does not collide. -/
theorem not_search_collides (position : Nat) (rest : List Value) (body : List Action)
    (test : Expression) :
    ¬ (machine.search container position rest body test).HasCollided := by
  cases rest with
  | nil => exact machine.not_answer_collides _
  | cons item rest => exact not_invoke_collides _ _ _ _

/-- The first step of an operation collides exactly if it takes hold of contents that are
read. -/
theorem operate_collides (operation : Operation (List Action)) :
    (machine.operate container operation).HasCollided ↔
      machine.operationSeizes container operation = true ∧
        machine.world.isBorrowed container = true := by
  cases operation with
  | push item => simp [operate, append, insertAt_collides, operationSeizes]
  | insertAt position item =>
    cases found : (machine.evaluate position).position? with
    | none => simp [operate, atPosition, operationSeizes, found]
    | some place => simp [operate, atPosition, operationSeizes, found, insertAt_collides]
  | removeAt position =>
    cases found : (machine.evaluate position).position? with
    | none => simp [operate, atPosition, operationSeizes, found]
    | some place => simp [operate, atPosition, operationSeizes, found, removeAt_collides]
  | pop =>
    cases length : (machine.world.container container).items.length with
    | zero => simp [operate, pop, operationSeizes, length]
    | succ before => simp [operate, pop, operationSeizes, length, removeAt_collides]
  | findAndRemove body test => simp [operate, operationSeizes, not_search_collides]
  | keyAt position =>
    cases found : (machine.evaluate position).position? with
    | none => simp [operate, atPosition, operationSeizes, found]
    | some place => simp [operate, atPosition, operationSeizes, found]
  | positionOf key =>
    cases found : (machine.evaluate key).key? with
    | none => simp [operate, operationSeizes, found]
    | some key => simp [operate, operationSeizes, found]
  | borrow body result => simp [operate, withBorrow, operationSeizes]
  | set body result => simp [operate, set, operationSeizes]
  | subscribe tag channel body => simp [operate, subscribe, operationSeizes]
  | _ => simp [operate, operationSeizes]

/-- Calling a callback does not collide. -/
theorem not_call_collides (callback : Callback) (event : Option Key → Event)
    (arguments : List (String × Value)) :
    ¬ (machine.call callback event arguments).HasCollided := by
  simp [HasCollided, call, push, proceed, answer]

/-- Giving the next waiting subscription its turn does not collide. -/
theorem not_dispatch_collides (container : ContainerRef) (notice : Notice)
    (waiting : List SubscriptionRef) :
    ¬ (machine.dispatch container notice waiting).HasCollided := by
  cases waiting with
  | nil => exact not_proceed_collides
  | cons subscription waiting =>
    simp only [dispatch]
    split
    · exact not_push_collides _
    · cases notice <;> exact not_call_collides _ _ _

/-- Running teardowns does not collide. -/
theorem not_runTeardowns_collides (realm : RealmRef) (key : Key) :
    ¬ (machine.runTeardowns realm key).HasCollided :=
  machine.runTeardowns_resumes realm key

/-- Making a list does not collide, also where its elements are refused. -/
theorem not_makeList_collides (name : String) (value : Value) (realm : RealmRef)
    (surface : Surface) : ¬ (machine.makeList name value realm surface).HasCollided := by
  unfold makeList
  split <;> simp

/-- A question to a realm does not collide. -/
theorem not_askRealm_collides (realm : RealmRef) (query : RealmQuery) :
    ¬ (machine.askRealm realm query).HasCollided := by
  cases query <;> simp [askRealm]

/-- Neither does a question to a handle. -/
theorem not_askHandle_collides (name : String) (query : HandleQuery) :
    ¬ (machine.askHandle name query).HasCollided := by
  unfold askHandle
  split
  · simp
  · simp
  · simp
  · split <;> simp
  · split <;> simp

/-- What the first step of an operation takes hold of hangs on the world and the variables. -/
theorem operationSeizes_push (frames : List Frame) (operation : Operation (List Action)) :
    (machine.push frames).operationSeizes container operation =
      machine.operationSeizes container operation := by
  cases operation <;> rfl

/-- The first step of an operation on the container of a name collides exactly if it takes
hold of contents that are read. -/
theorem operateOn_collides (subject : String) (operation : Operation (List Action)) :
    (machine.operateOn subject operation).HasCollided ↔
      ∃ container, machine.commandSeizure? subject (.operate operation) = some container ∧
        machine.world.isBorrowed container = true := by
  simp only [operateOn, commandSeizure?]
  cases machine.world.names.find? subject with
  | none => simp
  | some container =>
    cases known : operation.isKnown (machine.world.container container).surface
        (machine.world.container container).contents.isList with
    | false => simp [known]
    | true =>
      simp only [Option.filter_some, known, Bool.true_and, if_true, operate_collides,
        operationSeizes_push, world_push]
      cases machine.operationSeizes container operation <;> simp

/-- A command that operates on no container does not collide. -/
theorem not_command_collides (subject : String) {command : Command (List Action)}
    (other : ∀ operation, command ≠ .operate operation) :
    ¬ (machine.command subject command).HasCollided := by
  have missing : ¬ machine.missing.HasCollided := not_missing_collides
  have unsuitable : ¬ machine.unsuitable.HasCollided := not_unsuitable_collides
  unfold Machine.command
  cases command with
  | operate operation => exact absurd rfl (other operation)
  | limit id times body =>
    dsimp only
    exact limit_elim (fun _ => not_push_collides _) fun _ => not_proceed_collides
  | sameRealm left right =>
    dsimp only
    exact inRealm_elim missing fun _ _ => inRealm_elim missing fun _ _ => not_answer_collides _
  | realm named query =>
    dsimp only
    exact inRealm_elim missing fun realm _ => not_askRealm_collides realm query
  | pending named key =>
    dsimp only
    exact inRealm_elim missing fun _ _ => withKeyOf_elim unsuitable fun _ _ =>
      not_answer_collides _
  | runTeardowns named key =>
    dsimp only
    exact inRealm_elim missing fun realm _ => withKeyOf_elim unsuitable fun key _ =>
      not_runTeardowns_collides realm key
  | withKey named key body =>
    dsimp only
    exact inRealm_elim missing fun _ _ => withKeyOf_elim unsuitable fun _ _ => not_push_collides _
  | register named tag surface body =>
    dsimp only
    exact inRealm_elim missing fun _ _ => not_answer_collides _
  | handle name query => exact not_askHandle_collides _ query
  | makeCell name value named surface =>
    dsimp only
    exact inRealm_elim missing fun _ _ => not_proceed_collides
  | makeList name value named surface =>
    dsimp only
    exact inRealm_elim missing fun realm _ => not_makeList_collides _ _ realm surface
  | «alias» name =>
    dsimp only
    split <;> simp
  | _ => simp

/-- The first step of a command collides exactly if it takes hold of contents that are read. -/
theorem command_collides (machine : Machine) (subject : String) (command : Command (List Action)) :
    (machine.command subject command).HasCollided ↔
      ∃ container, machine.commandSeizure? subject command = some container ∧
        machine.world.isBorrowed container = true := by
  by_cases operates : ∃ operation, command = .operate operation
  · obtain ⟨operation, rfl⟩ := operates
    exact operateOn_collides subject operation
  · have other (operation : Operation (List Action)) : command ≠ .operate operation :=
      fun same => operates ⟨operation, same⟩
    have quiet := machine.not_command_collides subject other
    have none : machine.commandSeizure? subject command = none := by
      cases command with
      | operate operation => exact absurd rfl (other operation)
      | _ => rfl
    simp [quiet, none]

/-- Going on with a frame collides exactly if it takes hold of contents that are read. -/
theorem resume_collides {frame : Frame} {reply going : Reply}
    (resuming : machine.focus = .resume going) :
    (machine.resume frame reply).HasCollided ↔
      ∃ container, machine.resumeSeizure? frame reply = some container ∧
        machine.world.isBorrowed container = true := by
  have still : ¬ machine.HasCollided := by simp [HasCollided, resuming]
  have never (quiet : ¬ (machine.resume frame reply).HasCollided)
      (none : machine.resumeSeizure? frame reply = none) :
      (machine.resume frame reply).HasCollided ↔
        ∃ container, machine.resumeSeizure? frame reply = some container ∧
          machine.world.isBorrowed container = true := by
    simp [quiet, none]
  cases frame with
  | body actions =>
    cases actions with
    | nil => exact never not_proceed_collides rfl
    | cons action actions =>
      let begun := machine.push [.finish action, .body actions]
      exact begun.command_collides (machine.subjectName action) action.command
  | store container =>
    simp only [resume, store, resumeSeizure?]
    cases held : machine.world.isBorrowed container with
    | true => simp [held, HasCollided, fail]
    | false => simp [held]
  | replace container =>
    simp only [resume, replace, resumeSeizure?]
    cases replacement (machine.world.container container).surface reply.content with
    | error error => simp
    | ok items =>
      cases held : machine.world.isBorrowed container with
      | true => simp [held, HasCollided, fail]
      | false => simp [held]
  | verdict container position rest body test =>
    simp only [resume, verdict, resumeSeizure?]
    cases reply.content.truthy with
    | true => simp [removeAt_collides]
    | false => simp [not_search_collides]
  | notify container notice => exact never (not_push_collides _) rfl
  | dispatch container notice waiting => exact never (not_dispatch_collides _ _ waiting) rfl
  | announce container key item position => exact never (not_push_collides _) rfl
  | settle container key =>
    refine never ?_ rfl
    simp only [resume, settle]
    split
    · exact not_proceed_collides
    · exact not_runTeardowns_collides _ _
  | discharge realm keys =>
    refine never ?_ rfl
    cases keys with
    | nil => exact not_proceed_collides
    | cons key keys => exact not_runTeardowns_collides _ _
  | teardown realm key waiting =>
    refine never ?_ rfl
    cases waiting with
    | nil => exact not_proceed_collides
    | cons teardown waiting => exact not_call_collides _ _ _
  | search container position rest body test =>
    exact never (not_search_collides _ _ _ _) rfl
  | finish action => exact never not_proceed_collides rfl
  | answer expression => exact never (not_answer_collides _) rfl
  | yield value => exact never (not_answer_collides _) rfl
  | attempt => exact never (not_answer_collides _) rfl
  | shield => exact never not_proceed_collides rfl
  | restore | boundary | scope | borrowed | operating => exact never still rfl

/-- A step that goes on with a frame collides exactly if it takes hold of contents that are
read. -/
theorem step_collides (busy : machine.isFinished = false) {reply : Reply}
    (focus : machine.focus = .resume reply) :
    machine.step.HasCollided ↔
      ∃ container, machine.seizure? = some container ∧
        machine.world.isBorrowed container = true := by
  obtain ⟨frame, base, top⟩ := exists_frame busy
  have step := step_of_resume top focus
  have seizes : machine.seizure? = { machine with stack := base }.resumeSeizure? frame reply := by
    simp only [seizure?, top, focus]
  rw [step, seizes]
  exact resume_collides focus

/-- A failure on its way out takes hold of nothing. -/
theorem seizure?_of_unwind {failure : Failure} (focus : machine.focus = .unwind failure) :
    machine.seizure? = none := by
  unfold seizure?
  rw [focus]
  split
  · next same => cases same
  · rfl

end Machine

namespace Moment

variable {moment next : Moment} {container : ContainerRef}

/-- A failure is on its way out of the frames. -/
def IsUnwinding (moment : Moment) : Prop :=
  moment.machine.isFinished = false ∧ ∃ failure, moment.machine.focus = .unwind failure

/-- From one moment to the next a borrow error is raised. One that is only on its way out has
been raised before. -/
def Raises (moment next : Moment) : Prop := ¬ moment.IsUnwinding ∧ next.machine.HasCollided

/-- The container of whose contents something takes hold alone from one moment to the next:
the machine goes on, or the script goes on with an action. -/
def seizure? (moment next : Moment) : Option ContainerRef :=
  if moment.machine.isFinished then next.action.bind moment.idle.actionSeizure?
  else moment.machine.seizure?

/-- The contents of a container are held exactly if a reader has a frame. -/
theorem IsReached.isBorrowed_iff (reached : moment.IsReached) (container : ContainerRef) :
    moment.world.isBorrowed container = true ↔ .borrowed container ∈ moment.machine.stack :=
  reached.held.read.isBorrowed_iff container

/-- When an action is over nobody reads anything. -/
theorem IsReached.not_isBorrowed (reached : moment.IsReached)
    (finished : moment.machine.isFinished = true) (container : ContainerRef) :
    moment.world.isBorrowed container = false := by
  have readers := reached.isBorrowed_iff container
  rw [Machine.stack_eq_nil finished] at readers
  simpa using readers

/-- A borrow error is raised exactly if contents are taken hold of that are read. -/
theorem IsReached.raises_iff (reached : moment.IsReached) (follows : moment.Next next) :
    moment.Raises next ↔
      ∃ container, moment.seizure? next = some container ∧
        .borrowed container ∈ moment.machine.stack := by
  simp only [← reached.isBorrowed_iff]
  cases follows with
  | step busy =>
    have seizes : moment.seizure? moment.step = moment.machine.seizure? := by
      simp [seizure?, busy]
    rw [seizes]
    cases focus : moment.machine.focus with
    | unwind failure =>
      have unwinding : moment.IsUnwinding := ⟨busy, failure, focus⟩
      simp [Raises, unwinding, Machine.seizure?_of_unwind focus]
    | resume reply =>
      have calm : ¬ moment.IsUnwinding := by simp [IsUnwinding, focus]
      have collides := Machine.step_collides busy focus
      exact ⟨fun raises => collides.mp raises.2, fun seizes => ⟨calm, collides.mpr seizes⟩⟩
  | begin finished action =>
    have seizes : moment.seizure? (moment.begin action) = moment.idle.actionSeizure? action := by
      simp only [seizure?, finished, if_true]
      rfl
    have calm : ¬ moment.IsUnwinding := by simp [IsUnwinding, finished]
    have collides := moment.idle.command_collides (moment.idle.subjectName action) action.command
    rw [seizes]
    exact ⟨fun raises => collides.mp raises.2, fun seizes => ⟨calm, collides.mpr seizes⟩⟩

/-- The frame of a reader comes when a setter or a borrowing body begins and goes when it is
over. -/
theorem Next.countP_reads (follows : moment.Next next) (container : ContainerRef) :
    ∃ deed, next.history = deed :: moment.history ∧
      next.machine.stack.countP (Frame.reads container) =
        deed.onBorrows container (moment.machine.stack.countP (Frame.reads container)) := by
  obtain ⟨world, rest, taken, put, deed, _, before, _, after, history, turn⟩ := follows.exists_turn
  have readers := turn.countP_reads container (rest.countP (Frame.reads container))
  refine ⟨deed, history, ?_⟩
  rw [before, after, List.countP_append, List.countP_append, readers]

/-- What an outermost operation does itself raises no borrow error. -/
theorem IsReached.not_raises_outermost (reached : moment.IsReached) (follows : moment.Next next)
    {frame : Frame} {rest : List Frame} (top : moment.machine.stack = frame :: rest)
    (free : ∀ container, .borrowed container ∉ rest) : ¬ moment.Raises next := by
  intro raises
  obtain ⟨container, seizes, read⟩ := (reached.raises_iff follows).mp raises
  rw [top] at read
  rcases List.mem_cons.mp read with same | inside
  · subst same
    have busy : moment.machine.isFinished = false := by simp [Machine.isFinished, top]
    have nothing : moment.machine.seizure? = none := by
      cases focus : moment.machine.focus with
      | resume reply => simp only [Machine.seizure?, top, focus, Machine.resumeSeizure?]
      | unwind failure => exact Machine.seizure?_of_unwind focus
    simp only [seizure?, busy, Bool.false_eq_true, if_false] at seizes
    simp [nothing] at seizes
  · exact free container inside

end Moment

/-- From any moment of any script to the next,

* a borrow error is raised exactly if contents are taken hold of alone, by a setter that has
  answered, an insertion, a removal, the removal of the last of some elements or of an element
  that a predicate has accepted, while a reader of the same container has a frame;
* the frame of a reader comes when a setter or a borrowing body of the container begins and
  goes when it is over, and only direct containers have readers, so that what takes hold of
  the contents of a shielded one raises nothing;
* nothing is raised where no reader has a frame under the innermost one, as when an outermost
  operation goes on;
* when an action is over, whether it has replied or failed, no contents are held, no reader
  has a frame, and the first step of the next action raises nothing. -/
theorem borrow_errors_meet_readers {moment next : Moment} (reached : moment.IsReached)
    (follows : moment.Next next) :
    (moment.Raises next ↔ ∃ container, moment.seizure? next = some container ∧
      .borrowed container ∈ moment.machine.stack) ∧
    (∀ container,
      (∃ deed, next.history = deed :: moment.history ∧
        next.machine.stack.countP (Frame.reads container) =
          deed.onBorrows container (moment.machine.stack.countP (Frame.reads container))) ∧
      ((moment.world.container container).surface = .shielded →
        .borrowed container ∉ moment.machine.stack ∧
          (moment.seizure? next = some container → ¬ moment.Raises next))) ∧
    (∀ frame rest, moment.machine.stack = frame :: rest →
      (∀ container, .borrowed container ∉ rest) → ¬ moment.Raises next) ∧
    (moment.machine.isFinished = true →
      (∀ container, moment.world.isBorrowed container = false ∧
        .borrowed container ∉ moment.machine.stack) ∧ ¬ moment.Raises next) := by
  have raises := reached.raises_iff follows
  refine ⟨raises, fun container => ⟨follows.countP_reads container, fun shielded => ?_⟩,
    fun frame rest top free => reached.not_raises_outermost follows top free, fun finished => ?_⟩
  · have unread : .borrowed container ∉ moment.machine.stack := by
      intro inside
      have direct := reached.held.read.direct container inside
      rw [shielded] at direct
      cases direct
    refine ⟨unread, fun seizes raised => ?_⟩
    obtain ⟨other, seized, inside⟩ := raises.mp raised
    rw [seizes] at seized
    cases seized
    exact unread inside
  · have empty := Machine.stack_eq_nil finished
    refine ⟨fun container => ⟨reached.not_isBorrowed finished container, by simp [empty]⟩,
      fun raised => ?_⟩
    obtain ⟨container, _, inside⟩ := raises.mp raised
    simp [empty] at inside

/-- An action that adds an element to the list L. -/
def itemAdded : Action :=
  ⟨"push", none, some (.literal (.text "L")), .operate (.push (.literal (.int 9)))⟩

/-- An action that tries another one while the elements of the list L are borrowed. -/
def triedInside (change : Action) : Action :=
  ⟨"with", none, some (.literal (.text "L")), .operate
    (.borrow [⟨"try", none, none, .attempt [change]⟩] (.literal .null))⟩

/-- When the list L is borrowed and a change of it is about to be tried. -/
def changeDue (change : Action) : Moment :=
  (((Moment.start false).begin pairMade).begin (triedInside change)).run 1

theorem changeDue_isReached (change : Action) : (changeDue change).IsReached := by
  have made := (Moment.IsReached.start false).begin rfl pairMade
  exact (made.begin rfl (triedInside change)).run 1

theorem changeDue_reads (change : Action) :
    .borrowed 0 ∈ (changeDue change).machine.stack := by
  have held : (changeDue change).world.isBorrowed 0 = true := rfl
  exact ((changeDue_isReached change).isBorrowed_iff 0).mp held

/-- Adding an element inside a borrowing body of the list raises a borrow error. -/
theorem borrow_errors_meet_readers_push :
    let moment := changeDue itemAdded
    moment.IsReached ∧ moment.Next moment.step ∧ moment.seizure? moment.step = some 0 ∧
      moment.Raises moment.step := by
  intro moment
  have reached := changeDue_isReached itemAdded
  have follows : moment.Next moment.step := .step rfl
  have seizes : moment.seizure? moment.step = some 0 := rfl
  have raises := (borrow_errors_meet_readers reached follows).1
  exact ⟨reached, follows, seizes, raises.mpr ⟨0, seizes, changeDue_reads itemAdded⟩⟩

end Observables
