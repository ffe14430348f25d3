import Observables.Proofs.Alignment
import Observables.Proofs.Inquiry

/-!
# Operations that fail leave nothing behind

An operation that asks a setter or a predicate does so before it does anything
itself: only a reader holds on to a direct container while its setter runs. So
when the function fails, or when the answer of a setter is refused, all that
remains to be done is to pass the failure on and to let the reader go, and what
the run keeps is what the function has left. The same holds of a list that is to
be made of something else than a list.
-/

namespace Observables

open Script

namespace Frame

/-- No failure ends at the frame, and no key is closed there. -/
def passes : Frame → Bool
  | .attempt | .shield | .scope _ _ => false
  | _ => true

/-- What becomes of a failure that passes the frame. -/
def escapes : Frame → Failure → Failure
  | .boundary, failure => failure.escape
  | _, failure => failure

/-- The variables after a failure has passed the frame. -/
def restores : Frame → Variables → Variables
  | .restore locals, _ => locals
  | _, locals => locals

/-- The world after a failure has passed the frame. -/
def frees : Frame → World → World
  | .borrowed container, world => world.release container
  | _, world => world

/-- The frame holds on for the answer of a function. -/
def holds : Frame → Bool
  | .borrowed _ | .store _ | .replace _ | .verdict .. => true
  | _ => false

variable {frame : Frame} {frames : List Frame}

/-- A failure passes a frame that holds on for an answer as it is. -/
theorem passes_of_holds (holds : frame.holds = true) (failure : Failure) (locals : Variables) :
    frame.passes = true ∧ frame.escapes failure = failure ∧ frame.restores locals = locals := by
  cases frame with
  | borrowed | store | replace | verdict => exact ⟨rfl, rfl, rfl⟩
  | _ => cases holds

/-- A failure passes frames that hold on for an answer as it is. -/
theorem foldl_of_holds (holds : ∀ frame ∈ frames, frame.holds = true) (failure : Failure)
    (locals : Variables) :
    frames.foldl (fun failure frame => frame.escapes failure) failure = failure ∧
      frames.foldl (fun locals frame => frame.restores locals) locals = locals := by
  induction frames with
  | nil => exact ⟨rfl, rfl⟩
  | cons frame frames ih =>
    obtain ⟨first, others⟩ := List.forall_mem_cons.mp holds
    obtain ⟨_, escapes, restores⟩ := passes_of_holds first failure locals
    rw [List.foldl_cons, List.foldl_cons, escapes, restores]
    exact ih others

end Frame

/-- The deed passes a failure on, or lets a reader go because of it. -/
def Deed.isPassing : Deed → Bool
  | .abandoned _ | .released _ => true
  | _ => false

/-- What becomes of the failure of a function that is called through the surface. -/
def Surface.passes : Surface → Failure → Failure
  | .direct, failure => failure.escape
  | .shielded, failure => failure

/-- A failure is shown the same after it has passed a surface. -/
theorem Surface.toDocument_passes (surface : Surface) (failure : Failure) :
    (surface.passes failure).toDocument = failure.toDocument := by
  cases surface <;> cases failure <;> rfl

/-- The world after a setter of a container of the surface. -/
def Surface.frees (container : ContainerRef) : Surface → World → World
  | .direct, world => world.release container
  | .shielded, world => world

namespace Machine

variable {machine : Machine} {frame : Frame} {failure : Failure}

/-- A failure that passes a frame undoes what the frame stands for. -/
theorem unwind_of_passes (passes : frame.passes = true) (focus : machine.focus = .unwind failure) :
    machine.unwind frame failure =
      ⟨frame.frees machine.world, frame.restores machine.locals, machine.stack,
        .unwind (frame.escapes failure)⟩ := by
  rcases machine with ⟨world, locals, stack, _⟩
  obtain rfl := focus
  cases frame with
  | attempt | shield | scope => cases passes
  | _ => rfl

/-- A shielded list refuses what is no list of elements, before anything is done. -/
theorem replace_of_refused {container : ContainerRef} {value : Value}
    (surface : (machine.world.container container).surface = .shielded)
    (refused : value.items? = none) :
    machine.replace container value =
      machine.throw (.text InitialValueError.notAList.text) := by
  have invalid : value.toContents = .error .notAList := by rw [Value.toContents, refused]
  simp only [replace, surface, replacement, invalid]

end Machine

namespace Inquiry

variable (inquiry : Inquiry)

/-- The frames that a failure of the function passes until the operation is over. -/
def pending (hold : List Frame) : List Frame :=
  Machine.edge inquiry.surface ++
    .restore inquiry.locals :: (hold ++ [.operating inquiry.container])

variable {hold : List Frame}

/-- Under the body of the function lies what a failure passes, and then the base. -/
theorem exit_eq : inquiry.exit hold = inquiry.pending hold ++ inquiry.base := by
  simp only [exit, beneath, pending, List.append_assoc, List.cons_append, List.nil_append]

/-- Every failure of the function passes what lies over the base. -/
theorem passes_pending (holds : ∀ frame ∈ hold, frame.holds = true) :
    ∀ frame ∈ inquiry.pending hold, frame.passes = true := by
  intro frame inside
  rcases List.mem_append.mp inside with edge | others
  · cases surface : inquiry.surface with
    | direct =>
      rw [surface] at edge
      obtain rfl := List.mem_singleton.mp edge
      rfl
    | shielded =>
      rw [surface] at edge
      cases edge
  · rcases List.mem_cons.mp others with rfl | others
    · rfl
    · rcases List.mem_append.mp others with held | operating
      · exact (Frame.passes_of_holds (holds frame held) .borrowed {}).1
      · obtain rfl := List.mem_singleton.mp operating
        rfl

/-- What a failure of the function passes makes of the failure, the variables and the world. -/
theorem foldl_pending (holds : ∀ frame ∈ hold, frame.holds = true) (failure : Failure)
    (locals : Variables) (world : World) :
    (inquiry.pending hold).foldl (fun failure frame => frame.escapes failure) failure =
        inquiry.surface.passes failure ∧
      (inquiry.pending hold).foldl (fun locals frame => frame.restores locals) locals =
        inquiry.locals ∧
      (inquiry.pending hold).foldl (fun world frame => frame.frees world) world =
        hold.foldl (fun world frame => frame.frees world) world := by
  have kept (failure : Failure) (locals : Variables) := Frame.foldl_of_holds holds failure locals
  cases surface : inquiry.surface with
  | direct =>
    simp only [pending, surface, Machine.edge, List.foldl_append, List.foldl_cons, List.foldl_nil]
    exact ⟨(kept failure.escape inquiry.locals).1, (kept failure inquiry.locals).2, rfl⟩
  | shielded =>
    simp only [pending, surface, Machine.edge, List.foldl_append, List.foldl_cons, List.foldl_nil]
    exact ⟨(kept failure inquiry.locals).1, (kept failure inquiry.locals).2, rfl⟩

/-- All that lies under a setter holds on for its answer. -/
theorem holds_setting (contents : Contents) :
    ∀ frame ∈ inquiry.setting contents, frame.holds = true := by
  rw [setting]
  cases inquiry.surface <;> cases contents <;>
    simp [Surface.reading, Machine.setterTarget, Frame.holds]

/-- When a setter has failed a direct container is let go. -/
theorem frees_setting (contents : Contents) (world : World) :
    (inquiry.setting contents).foldl (fun world frame => frame.frees world) world =
      inquiry.surface.frees inquiry.container world := by
  rw [setting]
  cases inquiry.surface <;> cases contents <;> rfl

end Inquiry

namespace Moment

/-- The action that is performed at the caller and has taken its first step at the next moment is
over at the final one, with the failure and the world. Since the moment at which it was left by
what has failed nothing has run. -/
structure Aborts (caller next left : Moment) (height : Nat) (failure : Failure) (world : World)
    (final : Moment) : Prop where
  /-- The action is over. -/
  ends : ∃ steps, next.machine.Returns height steps ∧ final = next.run steps
  /-- It has failed. -/
  fails : final.machine.focus = .unwind failure
  /-- The world is the one given. -/
  world : final.world = world
  /-- The variables are those of the body that goes on. -/
  locals : final.machine.locals = caller.performer.locals
  /-- Nothing has been done but to pass the failure on and to let a reader go. -/
  passed : ∃ recent, final.history = recent ++ left.history ∧
    ∀ deed ∈ recent, deed.isPassing = true
  /-- The keys are open that were open before. -/
  chain : final.chain = caller.chain
  /-- Every container has the readers that it had before. -/
  borrows : ∀ container,
    (final.world.container container).borrows = (caller.world.container container).borrows

variable {moment caller next left during : Moment} {action : Action}
  {frames base hold : List Frame} {failure : Failure} {height : Nat} {inquiry : Inquiry}
  {argument : String × Value}

/-- A failure comes to what lies under frames that let it pass. -/
theorem run_of_passes (stack : moment.machine.stack = frames ++ base)
    (focus : moment.machine.focus = .unwind failure)
    (passes : ∀ frame ∈ frames, frame.passes = true) :
    moment.machine.Returns base.length frames.length ∧
      (moment.run frames.length).machine =
        ⟨frames.foldl (fun world frame => frame.frees world) moment.world,
          frames.foldl (fun locals frame => frame.restores locals) moment.machine.locals, base,
          .unwind (frames.foldl (fun failure frame => frame.escapes failure) failure)⟩ ∧
      (moment.run frames.length).history =
        (frames.map Machine.unwindDeed).reverse ++ moment.history := by
  induction frames generalizing moment failure with
  | nil =>
    refine ⟨⟨Nat.le_of_eq (congrArg List.length stack), fun _ before => ?_⟩, ?_, rfl⟩
    · exact absurd before (Nat.not_lt_zero _)
    · rw [List.length_nil, run]
      rcases moment with ⟨action, ⟨world, locals, rest, _⟩, history⟩
      obtain rfl : rest = base := stack
      obtain rfl := focus
      rfl
  | cons frame frames ih =>
    have above : base.length < moment.machine.stack.length := by
      rw [stack, List.length_append]
      exact Nat.lt_add_of_pos_left (Nat.succ_pos _)
    have top : moment.machine.stack = frame :: (frames ++ base) := stack
    have step : moment.step.machine =
        ⟨frame.frees moment.world, frame.restores moment.machine.locals, frames ++ base,
          .unwind (frame.escapes failure)⟩ := by
      have popped := Machine.unwind_of_passes (passes frame List.mem_cons_self)
        (show ({ moment.machine with stack := frames ++ base } : Machine).focus =
          .unwind failure from focus)
      exact (Machine.step_of_unwind top focus).trans popped
    have deed : moment.machine.deed = Machine.unwindDeed frame := by
      simp only [Machine.deed, top, focus]
    have runs : moment.run (frame :: frames).length = moment.step.run frames.length := by
      rw [List.length_cons, run, Machine.not_isFinished above]
      rfl
    have beneath : moment.step.machine.stack = frames ++ base := by rw [step]
    have leaving : moment.step.machine.focus = .unwind (frame.escapes failure) := by rw [step]
    obtain ⟨returns, machine, history⟩ :=
      ih beneath leaving fun other inside => passes other (List.mem_cons_of_mem _ inside)
    refine ⟨.of_step above returns, ?_, ?_⟩
    · rw [runs, machine, world, step]
      rfl
    · rw [runs, history, List.map_cons, List.reverse_cons, List.append_assoc, ← deed]
      rfl

/-- What lies over the base of an action lets a failure pass, and the action is over. -/
theorem Rests.aborts (rests : caller.Rests next base) (lasts : next.Lasts base.length left)
    (stack : left.machine.stack = frames ++ base) (focus : left.machine.focus = .unwind failure)
    (passes : ∀ frame ∈ frames, frame.passes = true)
    (restored : frames.foldl (fun locals frame => frame.restores locals) left.machine.locals =
      caller.performer.locals) :
    ∃ final, caller.Aborts next left base.length
      (frames.foldl (fun failure frame => frame.escapes failure) failure)
      (frames.foldl (fun world frame => frame.frees world) left.world) final := by
  obtain ⟨returns, machine, history⟩ := run_of_passes stack focus passes
  obtain ⟨total, ends, same⟩ := lasts.returns returns
  have reached : (left.run frames.length).IsReached := by
    rw [same]
    exact (rests.reached.leads (.single rests.follows)).run total
  have beneath : (left.run frames.length).machine.stack = base := by rw [machine]
  refine ⟨left.run frames.length, ⟨total, ends, same⟩, by rw [machine], by rw [world, machine],
    by rw [machine, ← restored], ⟨_, history, fun deed inside => ?_⟩, ?_, fun container => ?_⟩
  · rw [List.mem_reverse, List.mem_map] at inside
    obtain ⟨frame, there, rfl⟩ := inside
    have through := passes frame there
    cases frame with
    | scope => cases through
    | _ => rfl
  · rw [Moment.chain, beneath, rests.chain]
  · rw [reached.held.read.borrows, rests.reached.held.read.borrows, beneath, rests.reads]

/-- A function that fails ends its operation, and leaves the world as it is but for a reader. -/
theorem Asks.aborts (asks : during.Asks inquiry hold argument)
    (fails : during.Fails inquiry hold failure left)
    (lasts : next.Lasts inquiry.base.length during) (rests : caller.Rests next inquiry.base)
    (locals : inquiry.locals = caller.performer.locals)
    (holds : ∀ frame ∈ hold, frame.holds = true) :
    ∃ final, caller.Aborts next left inquiry.base.length (inquiry.surface.passes failure)
      (hold.foldl (fun world frame => frame.frees world) left.world) final := by
  obtain ⟨stack, lasts⟩ := asks.failed fails lasts
  obtain ⟨_, _, _, focus⟩ := fails
  rw [inquiry.exit_eq] at stack
  obtain ⟨escapes, restores, frees⟩ := inquiry.foldl_pending holds failure left.machine.locals
    left.world
  have aborts := rests.aborts lasts stack focus (inquiry.passes_pending holds)
    (restores.trans locals)
  rw [escapes, frees] at aborts
  exact aborts

/-- A setter of a shielded list that answers what is no list of elements fails its operation. -/
theorem Asks.aborts_refused {items : List Value} {keys : KeySequence} {reply : Reply}
    (asks : during.Asks inquiry (inquiry.setting (.list items keys)) argument)
    (replies : during.Replies inquiry (inquiry.setting (.list items keys)) reply left)
    (lasts : next.Lasts inquiry.base.length during) (rests : caller.Rests next inquiry.base)
    (locals : inquiry.locals = caller.performer.locals)
    (surface : inquiry.surface = .shielded)
    (still : (left.world.container inquiry.container).surface = .shielded)
    (refused : reply.content.items? = none) :
    ∃ final, caller.Aborts next left.step inquiry.base.length
      (.thrown (.text InitialValueError.notAList.text)) left.world final := by
  obtain ⟨stack, same, lasts⟩ := asks.replied replies lasts
  obtain ⟨_, _, _, focus⟩ := replies
  rw [Inquiry.beneath, Inquiry.setting, surface] at stack
  have top : left.machine.stack =
      .replace inquiry.container :: .operating inquiry.container :: inquiry.base := stack
  let popped : Machine :=
    { left.machine with stack := .operating inquiry.container :: inquiry.base }
  have throws : left.step.machine = popped.throw (.text InitialValueError.notAList.text) :=
    (Machine.step_of_resume top focus).trans (Machine.replace_of_refused still refused)
  have above : inquiry.base.length < left.machine.stack.length := by
    simp only [top, List.length_cons]
    omega
  have beneath : left.step.machine.stack = [.operating inquiry.container] ++ inquiry.base := by
    rw [throws]
    rfl
  have thrown : left.step.machine.focus =
      .unwind (.thrown (.text InitialValueError.notAList.text)) := by
    rw [throws]
    rfl
  have restored : left.step.machine.locals = caller.performer.locals := by
    rw [throws, ← locals]
    exact same
  have world : left.step.world = left.world := by
    rw [Moment.world, throws]
    rfl
  rw [← world]
  exact rests.aborts (lasts.step above) beneath thrown
    (fun frame inside => by rw [List.mem_singleton.mp inside]; rfl) restored

/-- A shielded list that is to be made of something else is refused, before it takes a number. -/
theorem Performs.rejects {name value : Expression}
    (performs : caller.Performs action height next) (reached : caller.IsReached)
    (makes : action.command = .makeList name value none .shielded)
    (refused : (caller.performer.evaluate value).items? = none) :
    ∃ final, caller.Aborts next next height (.thrown (.text InitialValueError.notAList.text))
      (caller.performer.world.trace (.contentsRejected .notAList)) final := by
  obtain ⟨machine, begun⟩ := performs.exists_begun
  obtain rfl := begun.length
  have invalid : (machine.evaluate value).toContents = .error .notAList := by
    rw [begun.evaluate, Value.toContents, refused]
  have step : next.machine = (machine.withWorld (machine.world.trace
      (.contentsRejected .notAList))).throw (.text InitialValueError.notAList.text) := by
    rw [begun.performs, Machine.perform, makes]
    show machine.makeList _ _ _ _ = _
    simp only [Machine.makeList, invalid]
  have lasts : next.Lasts machine.stack.length next := .refl next _
  have stack : next.machine.stack = [] ++ machine.stack := by rw [step]; rfl
  have focus : next.machine.focus = .unwind (.thrown (.text InitialValueError.notAList.text)) := by
    rw [step]
    rfl
  have locals : next.machine.locals = caller.performer.locals := by
    rw [step, ← begun.locals]
    rfl
  have world : next.world = caller.performer.world.trace (.contentsRejected .notAList) := by
    rw [Moment.world, step, ← begun.world]
    rfl
  rw [← world]
  exact (begun.rests reached performs.next).aborts lasts stack focus
    (fun frame inside => absurd inside List.not_mem_nil) locals

end Moment

/-- When an action is performed at a moment of any script,

* the replacement of what a container holds calls its setter in the first step, and has done
  nothing before but to hold a direct container; if the setter fails, the replacement is over with
  this failure, and the world is what the setter has left, with the container let go; and if the
  setter of a shielded list answers what is no list, the replacement is over with the word for it,
  and the world is what the setter has left;
* a search of a list calls its predicate about the first element in the first step, and about the
  next one in the step after it has refused one, and does nothing else in these steps; if the
  predicate fails at an element, the search is over with this failure and asks no more, and the
  world is what the predicate has left; whenever the predicate is left with a failure, the search
  has come to the element in this way;
* a shielded list that is to be made of what is no list fails with the word for it, and the world
  is as it was but for a note in the trace.

When an action is over in one of these ways, the variables, the open keys and the readers are as
they were before it. A failure that passes a direct container on its way is shown as it was. -/
theorem failures_leave_nothing_behind {moment next : Moment} (reached : moment.IsReached) :
    (∀ container body result height,
      moment.Operates container (.set body result) height next →
      ∃ base, base.length = height ∧
        let held := moment.world.container container
        let inquiry := moment.inquiry container body result base
        let hold := inquiry.setting held.contents
        next.Asks inquiry hold ("v", held.value) ∧
        next.world = held.surface.holds container moment.performer.world ∧
        (∀ failure left, next.Fails inquiry hold failure left →
          ∃ final, moment.Aborts next left height (held.surface.passes failure)
            (held.surface.frees container left.world) final) ∧
        (held.surface = .shielded → held.contents.isList = true →
          ∀ reply left, next.Replies inquiry hold reply left → reply.content.items? = none →
          ∃ final, moment.Aborts next left.step height
            (.thrown (.text InitialValueError.notAList.text)) left.world final)) ∧
    (∀ container body test height,
      moment.Operates container (.findAndRemove body test) height next →
      ∃ base, base.length = height ∧
        let held := moment.world.container container
        let inquiry := moment.inquiry container body test base
        next.world = moment.performer.world ∧
        (∀ position item rest during,
          next.Searches inquiry held.items position item rest during →
          let hold := inquiry.deciding position rest
          held.items.drop position = item :: rest ∧
          during.Asks inquiry hold ("x", item) ∧
          (∀ failure left, during.Fails inquiry hold failure left →
            ∃ final, moment.Aborts next left height (held.surface.passes failure) left.world
              final) ∧
          ∀ reply left, during.Replies inquiry hold reply left →
            reply.content.truthy = false → left.step.world = left.world) ∧
        ∀ position rest failure left, next.Lasts height left →
          left.machine.stack = inquiry.exit (inquiry.deciding position rest) →
          left.machine.focus = .unwind failure →
          ∃ item during, next.Searches inquiry held.items position item rest during ∧
            during.Fails inquiry (inquiry.deciding position rest) failure left) ∧
    (∀ action height name value, moment.Performs action height next →
      action.command = .makeList name value none .shielded →
      (moment.performer.evaluate value).items? = none →
      ∃ final, moment.Aborts next next height (.thrown (.text InitialValueError.notAList.text))
        (moment.performer.world.trace (.contentsRejected .notAList)) final) ∧
    ∀ (surface : Surface) failure, (surface.passes failure).toDocument = failure.toDocument := by
  refine ⟨fun container body result height operates => ?_,
    fun container body test height operates => ?_,
    fun action height name value performs => performs.rejects reached,
    Surface.toDocument_passes⟩
  · obtain ⟨base, rfl, rests, asks, world⟩ := operates.calls_setter reached
    refine ⟨base, rfl, asks, world, fun failure left fails => ?_,
      fun surface isList reply left replies refused => ?_⟩
    · have aborts := asks.aborts fails (.refl next _) rests rfl (Inquiry.holds_setting _ _)
      rw [Inquiry.frees_setting] at aborts
      exact aborts
    · obtain ⟨items, keys, contents⟩ := Contents.exists_list isList
      rw [contents] at asks replies
      obtain ⟨_, _, lasts⟩ := asks.replied replies (.refl next _)
      have still := (rests.surface lasts (operates.lt_size reached)).trans surface
      exact asks.aborts_refused replies (.refl next _) rests rfl surface still refused
  · obtain ⟨base, rfl, rests, world, none, begins⟩ := operates.searches reached
    have still (left : Moment) (lasts : next.Lasts base.length left) :=
      rests.surface lasts (operates.lt_size reached)
    refine ⟨base, rfl, world, fun position item rest during searches => ?_,
      fun position rest failure left lasts stack focus => ?_⟩
    · obtain ⟨asks, lasts, listed⟩ := searches.asks begins still
      refine ⟨listed, asks, fun failure left fails => ?_, fun reply left replies refuses => ?_⟩
      · exact asks.aborts fails lasts rests rfl (by simp [Inquiry.deciding, Frame.holds])
      · obtain ⟨_, _, onward⟩ := asks.replied replies lasts
        exact (asks.refused replies lasts (still left onward) refuses).1
    · exact (Moment.Lasts.seeks lasts none begins still).fails begins still stack focus

/-- A predicate that refuses all numbers but 2, at which it fails. -/
def refusing : List Action :=
  [⟨"if", none, none, .branch (.apply .equal (.list [.variable "x", .literal (.int 2)]))
    [⟨"throw", none, none, .throw (.literal (.text "no"))⟩] []⟩]

/-- When the search of the list L, which holds 1 and 2, has called this predicate for the first
time. -/
def seeking : Moment :=
  ((Moment.start false).begin pairMade).begin ⟨"find_and_remove", none,
    some (.literal (.text "L")), .operate (.findAndRemove refusing (.literal (.bool false)))⟩

/-- The predicate refuses the first element and fails at the second one, and nothing is
removed. -/
theorem failures_leave_nothing_behind_search :
    let moment := (Moment.start false).begin pairMade
    let inquiry := moment.inquiry 0 refusing (.literal (.bool false)) []
    let during := (seeking.run 7).step
    let left := during.run 7
    moment.IsReached ∧ seeking.Searches inquiry [.int 1, .int 2] 1 (.int 2) [] during ∧
      during.Fails inquiry (inquiry.deciding 1 []) (.thrown (.text "no")) left ∧
      ∃ final, moment.Aborts seeking left 0 (.escaped (.text "no")) left.world final := by
  intro moment inquiry during left
  have reached : moment.IsReached := (Moment.IsReached.start false).begin rfl pairMade
  have operates : moment.Operates 0 (.findAndRemove refusing (.literal (.bool false))) 0 seeking :=
    ⟨_, .outermost rfl _, rfl, rfl, rfl⟩
  have replies : seeking.Replies inquiry (inquiry.deciding 0 [.int 2]) (.value (.bool false))
      (seeking.run 7) :=
    ⟨7, ⟨by decide +kernel, by decide +kernel⟩, rfl, rfl⟩
  have searches : seeking.Searches inquiry [.int 1, .int 2] 1 (.int 2) [] during :=
    .more (.first rfl) replies rfl
  have fails : during.Fails inquiry (inquiry.deciding 1 []) (.thrown (.text "no")) left :=
    ⟨7, ⟨by decide +kernel, by decide +kernel⟩, rfl, rfl⟩
  obtain ⟨base, none, _, each⟩ :=
    (failures_leave_nothing_behind reached).2.1 0 refusing (.literal (.bool false)) 0 operates
  obtain rfl := List.eq_nil_of_length_eq_zero none
  obtain ⟨_, _, aborts, _⟩ := each.1 1 (.int 2) [] during searches
  exact ⟨reached, searches, fails, aborts _ left fails⟩

end Observables
