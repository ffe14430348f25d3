import Observables.Proofs.Containment
import Observables.Proofs.Performer

/-!
# Operations that ask the script

Some operations ask a function of the script for an answer: a replacement asks its
setter, and a search of a list asks its predicate about one element after the
other. The function is called over a few frames that hold on for its answer, and
these lie directly over the operation. This module says when the functions are
called and with what, how one is left, and that a search calls its predicate in
no other way.
-/

namespace Observables

open Script

/-- The frames of the reader while a setter of a container of the surface runs. -/
def Surface.reading (container : ContainerRef) : Surface → List Frame
  | .direct => [.borrowed container]
  | .shielded => []

/-- The world while a setter of a container of the surface runs. -/
def Surface.holds (container : ContainerRef) : Surface → World → World
  | .direct, world => world.borrow container
  | .shielded, world => world

/-- The frame is left in one step, and nothing is put in its place. -/
def Frame.isBrief : Frame → Bool
  | .boundary | .restore _ | .yield _ | .operating _ => true
  | _ => false

namespace Machine

/-- A replacement holds a direct container, and calls the setter. -/
theorem set_calls (machine : Machine) (container : ContainerRef) (body : List Action)
    (result : Expression) :
    let held := machine.world.container container
    let after := machine.set container body result
    after.world = held.surface.holds container machine.world ∧
      after.locals = machine.locals.insertAll [("v", held.value)] ∧
      after.stack = invoked body result held.surface machine.locals ++
        (held.surface.reading container ++ setterTarget container held.contents ::
          machine.stack) ∧
      after.focus = .resume (.value .null) := by
  intro held after
  cases surface : held.surface with
  | direct =>
    have direct : after = ((machine.withWorld (machine.world.borrow container)).push
        [.borrowed container, setterTarget container held.contents]).invoke .direct
          [("v", held.value)] body result := by
      simp only [after, set, held] at surface ⊢
      rw [surface]
    rw [direct]
    exact ⟨rfl, rfl, rfl, rfl⟩
  | shielded =>
    have shielded : after = (machine.push [setterTarget container held.contents]).invoke .shielded
          [("v", held.value)] body result := by
      simp only [after, set, held] at surface ⊢
      rw [surface]
    rw [shielded]
    exact ⟨rfl, rfl, rfl, rfl⟩

/-- A search asks about the first element that is left, if there is one, and changes nothing. -/
theorem search_calls (machine : Machine) (container : ContainerRef) (position : Nat) (item : Value)
    (rest : List Value) (body : List Action) (test : Expression) :
    let after := machine.search container position (item :: rest) body test
    after.locals = machine.locals.insertAll [("x", item)] ∧
      after.stack = invoked body test (machine.world.container container).surface machine.locals ++
        .verdict container position rest body test :: machine.stack ∧
      after.focus = .resume (.value .null) :=
  ⟨rfl, rfl, rfl⟩

/-- A frame that is left in one step is taken off. -/
theorem step_of_brief {machine : Machine} {frame : Frame} {base : List Frame}
    (brief : frame.isBrief = true) (top : machine.stack = frame :: base) :
    machine.step.stack = base := by
  cases focus : machine.focus with
  | resume reply =>
    rw [step_of_resume top focus]
    cases frame with
    | boundary | restore | yield | operating => rfl
    | _ => cases brief
  | unwind failure =>
    rw [step_of_unwind top focus]
    cases frame with
    | boundary | restore | yield | operating => rfl
    | _ => cases brief

/-- Frames that are left in one step are taken off one after the other. -/
theorem run_of_brief {machine : Machine} {frames base : List Frame} {steps : Nat}
    (brief : ∀ frame ∈ frames, frame.isBrief = true) (stack : machine.stack = frames ++ base)
    (stays : machine.StaysAbove base.length steps) :
    (machine.run steps).stack = frames.drop steps ++ base := by
  induction steps generalizing machine frames with
  | zero => exact stack
  | succ steps ih =>
    have above : base.length < machine.stack.length := stays 0 (Nat.succ_pos _)
    cases frames with
    | nil =>
      rw [stack] at above
      exact absurd above (Nat.lt_irrefl _)
    | cons frame frames =>
      obtain ⟨first, others⟩ := List.forall_mem_cons.mp brief
      rw [run_succ above]
      exact ih others (step_of_brief first stack) (stays.step above)

/-- What is seen on frames that are left in one step has not been left before. -/
theorem returns_of_brief {machine : Machine} {inner frames base : List Frame} {steps : Nat}
    (brief : ∀ frame ∈ frames, frame.isBrief = true)
    (stack : machine.stack = inner ++ (frames ++ base))
    (stays : machine.StaysAbove base.length steps)
    (seen : (machine.run steps).stack = frames ++ base) :
    machine.Returns (frames ++ base).length steps := by
  induction steps generalizing machine inner with
  | zero =>
    exact ⟨Nat.le_of_eq (congrArg List.length seen),
      fun _ before => absurd before (Nat.not_lt_zero _)⟩
  | succ steps ih =>
    have above : base.length < machine.stack.length := stays 0 (Nat.succ_pos _)
    cases inner with
    | nil =>
      -- The frames are left one after the other, so they are not seen again.
      have fewer := congrArg List.length (run_of_brief brief stack stays)
      rw [seen] at fewer
      rw [stack] at above
      simp only [List.nil_append, List.length_append, List.length_drop] at fewer above
      omega
    | cons frame inner =>
      have taller : (frames ++ base).length < machine.stack.length := by
        simp only [stack, List.length_append, List.length_cons]
        omega
      obtain ⟨others, next⟩ := step_stack stack taller
      rw [run_succ above] at seen
      exact (ih next (stays.step above) seen).of_step taller

/-- A search changes nothing. -/
theorem world_search (machine : Machine) (container : ContainerRef) (position : Nat)
    (rest : List Value) (body : List Action) (test : Expression) :
    (machine.search container position rest body test).world = machine.world := by
  cases rest with
  | nil => rfl
  | cons item rest => rfl

end Machine

/-- An operation of the script that asks a function for its answer. -/
structure Inquiry where
  /-- The container that is operated on. -/
  container : ContainerRef
  /-- How the container treats failures. -/
  surface : Surface
  /-- The variables of the body that has ordered the operation. -/
  locals : Variables
  /-- What the function does. -/
  body : List Action
  /-- What the function answers. -/
  result : Expression
  /-- The frames that were there before the operation. -/
  base : List Frame

namespace Inquiry

variable (inquiry : Inquiry)

/-- The frames under a call of the function, of which the first hold on for its answer. -/
def beneath (hold : List Frame) : List Frame :=
  hold ++ .operating inquiry.container :: inquiry.base

/-- The frames under the body of the function. -/
def exit (hold : List Frame) : List Frame :=
  Machine.edge inquiry.surface ++ .restore inquiry.locals :: inquiry.beneath hold

/-- The frames that hold on for the answer of a setter. -/
def setting (contents : Contents) : List Frame :=
  inquiry.surface.reading inquiry.container ++ [Machine.setterTarget inquiry.container contents]

/-- The frames that hold on for the answer about one element. -/
def deciding (position : Nat) (rest : List Value) : List Frame :=
  [.verdict inquiry.container position rest inquiry.body inquiry.result]

/-- The frames that the body of the function leaves on its way to those under the call. -/
def leaving : List Frame :=
  Machine.edge inquiry.surface ++ [.restore inquiry.locals]

/-- Under the body of the function lies what it leaves, and then what is under the call. -/
theorem exit_eq_leaving (hold : List Frame) :
    inquiry.exit hold = inquiry.leaving ++ inquiry.beneath hold := by
  simp only [exit, leaving, List.append_assoc, List.singleton_append]

/-- The body of the function leaves each of these frames in one step. -/
theorem isBrief_leaving : ∀ frame ∈ inquiry.leaving, frame.isBrief = true := by
  rw [leaving]
  cases inquiry.surface <;> simp [Machine.edge, Frame.isBrief]

end Inquiry

namespace Moment

/-- The inquiry of an operation on the container that is performed next over the frames. -/
def inquiry (moment : Moment) (container : ContainerRef) (body : List Action)
    (result : Expression) (base : List Frame) : Inquiry :=
  ⟨container, (moment.world.container container).surface, moment.performer.locals, body, result,
    base⟩

/-- The function is called with an argument, and will answer the inquiry. -/
structure Asks (moment : Moment) (inquiry : Inquiry) (hold : List Frame)
    (argument : String × Value) : Prop where
  /-- Its frames lie on those that hold on for its answer. -/
  stack : moment.machine.stack =
    invoked inquiry.body inquiry.result inquiry.surface inquiry.locals ++ inquiry.beneath hold
  /-- It has the variables of the body that has ordered the operation, and the argument. -/
  locals : moment.machine.locals = inquiry.locals.insertAll [argument]
  /-- It is about to run. -/
  resumes : moment.machine.focus = .resume (.value .null)

/-- The body of the function that is called at the moment is left with the failure. -/
def Fails (moment : Moment) (inquiry : Inquiry) (hold : List Frame) (failure : Failure)
    (left : Moment) : Prop :=
  ∃ steps, moment.machine.Returns (inquiry.exit hold).length steps ∧ left = moment.run steps ∧
    left.machine.focus = .unwind failure

/-- The function that is called at the moment answers with the reply. -/
def Replies (moment : Moment) (inquiry : Inquiry) (hold : List Frame) (reply : Reply)
    (left : Moment) : Prop :=
  ∃ steps, moment.machine.Returns (inquiry.beneath hold).length steps ∧
    left = moment.run steps ∧ left.machine.focus = .resume reply

/-- A predicate is asked about the element at a position of the elements, after it has refused
all before it; so many are left. -/
inductive Searches (first : Moment) (inquiry : Inquiry) (items : List Value) :
    Nat → Value → List Value → Moment → Prop where
  /-- The first element comes first. -/
  | first {item rest} (listed : items = item :: rest) :
      Searches first inquiry items 0 item rest first
  /-- When an element has been refused the next one is looked at. -/
  | more {position item other rest during reply left}
      (earlier : Searches first inquiry items position item (other :: rest) during)
      (replies : during.Replies inquiry (inquiry.deciding position (other :: rest)) reply left)
      (refuses : reply.content.truthy = false) :
      Searches first inquiry items (position + 1) other rest left.step

/-- An action is performed over frames that keep the same keys open and the same readers. -/
structure Rests (caller next : Moment) (base : List Frame) : Prop where
  /-- Some script reaches the moment. -/
  reached : caller.IsReached
  /-- The action takes its first step. -/
  follows : caller.Next next
  /-- The same keys are open. -/
  chain : base.flatMap Frame.scopes = caller.chain
  /-- The same readers have frames. -/
  reads : ∀ container, base.countP (Frame.reads container) =
    caller.machine.stack.countP (Frame.reads container)

variable {caller next left during : Moment} {action : Action} {base hold : List Frame}
  {failure : Failure} {height : Nat} {inquiry : Inquiry} {argument : String × Value}

/-- The frames under the machine on which an action begins are those that it rests on. -/
theorem Begun.rests {machine : Machine} (begun : caller.Begun action height next machine)
    (reached : caller.IsReached) (follows : caller.Next next) :
    caller.Rests next machine.stack := by
  refine ⟨reached, follows, begun.chain, fun container => ?_⟩
  rcases begun.stack with ⟨before, after⟩ | ⟨actions, base, before, after, _⟩
  · rw [before, after]
  · rw [before, after]
    rfl

/-- Containers keep their surface while an action is in progress. -/
theorem Rests.surface (rests : caller.Rests next base) (lasts : next.Lasts height left)
    {container : ContainerRef} (inside : container < caller.world.containers.size) :
    (left.world.container container).surface = (caller.world.container container).surface := by
  obtain ⟨steps, _, rfl⟩ := lasts
  have leads : caller.Leads (next.run steps) := .trans (.single rests.follows) (leads_run _ _)
  exact leads.within.surface container inside

/-- An operation is on a container that exists. -/
theorem Operates.lt_size {container : ContainerRef} {operation : Operation (List Action)}
    (operates : caller.Operates container operation height next) (reached : caller.IsReached) :
    container < caller.world.containers.size := by
  obtain ⟨_, _, _, found, _⟩ := operates
  have sound : caller.world.Sound := World.sound_invariant.reached reached
  exact sound.names _ container found

/-- A function is called over the frames under its body. -/
theorem Asks.stack_exit (asks : during.Asks inquiry hold argument) :
    during.machine.stack = [.body inquiry.body, .answer inquiry.result] ++ inquiry.exit hold := by
  rw [asks.stack, invoked, Inquiry.exit]
  simp only [List.cons_append, List.nil_append, List.append_assoc]

/-- A function that is left with a failure is left over the frames under its body, in the
operation. -/
theorem Asks.failed (asks : during.Asks inquiry hold argument)
    (fails : during.Fails inquiry hold failure left)
    (lasts : next.Lasts inquiry.base.length during) :
    left.machine.stack = inquiry.exit hold ∧ next.Lasts inquiry.base.length left := by
  obtain ⟨steps, returns, rfl, _⟩ := fails
  refine ⟨?_, lasts.run (Machine.StaysAbove.lower returns.2 ?_)⟩
  · rw [(during.machine_run steps).1]
    exact returns.stack asks.stack_exit
  · simp only [Inquiry.exit, Inquiry.beneath, List.length_append, List.length_cons]
    omega

/-- A function that is left is left in the operation, and the variables are those of the body that
has ordered it. -/
theorem Asks.returned {steps : Nat} (asks : during.Asks inquiry hold argument)
    (returns : during.machine.Returns (inquiry.beneath hold).length steps)
    (lasts : next.Lasts inquiry.base.length during) :
    (during.run steps).machine.stack = inquiry.beneath hold ∧
      (during.run steps).machine.locals = inquiry.locals ∧
      next.Lasts inquiry.base.length (during.run steps) := by
  have stack : during.machine.stack =
      (.body inquiry.body :: .answer inquiry.result :: Machine.edge inquiry.surface) ++
        .restore inquiry.locals :: inquiry.beneath hold := asks.stack_exit
  obtain ⟨earlier, _, _, same⟩ := returns.restores stack
  have below : inquiry.base.length ≤ (inquiry.beneath hold).length := by
    simp only [Inquiry.beneath, List.length_append, List.length_cons]
    omega
  rw [(during.machine_run steps).1, same]
  exact ⟨rfl, rfl, lasts.run (Machine.StaysAbove.lower returns.2 below)⟩

/-- A function that has answered has done so in the operation, and the variables are those of the
body that has ordered it. -/
theorem Asks.replied {reply : Reply} (asks : during.Asks inquiry hold argument)
    (replies : during.Replies inquiry hold reply left)
    (lasts : next.Lasts inquiry.base.length during) :
    left.machine.stack = inquiry.beneath hold ∧ left.machine.locals = inquiry.locals ∧
      next.Lasts inquiry.base.length left := by
  obtain ⟨steps, returns, rfl, _⟩ := replies
  exact asks.returned returns lasts

/-- A function that is called in the first step of an action is given the variables of the body
that has ordered it. -/
theorem Begun.asks {machine : Machine} (begun : caller.Begun action height next machine)
    {container : ContainerRef} {body : List Action} {result : Expression}
    (stack : next.machine.stack =
      invoked body result (caller.world.container container).surface machine.locals ++
        (hold ++ .operating container :: machine.stack))
    (locals : next.machine.locals = machine.locals.insertAll [argument])
    (resumes : next.machine.focus = .resume (.value .null)) :
    next.Asks (caller.inquiry container body result machine.stack) hold argument := by
  rw [begun.locals] at stack locals
  exact ⟨stack, locals, resumes⟩

/-- A setter is called in the first step of its operation, before anything else is done but that
a direct container is held. -/
theorem Operates.calls_setter {container : ContainerRef} {body : List Action}
    {result : Expression} (operates : caller.Operates container (.set body result) height next)
    (reached : caller.IsReached) :
    ∃ base, base.length = height ∧ caller.Rests next base ∧
      let held := caller.world.container container
      let inquiry := caller.inquiry container body result base
      next.Asks inquiry (inquiry.setting held.contents) ("v", held.value) ∧
        next.world = held.surface.holds container caller.performer.world := by
  obtain ⟨action, machine, begun, operated⟩ := operates.exists_begun
  let begins : Machine := machine.push [.operating container]
  have held : begins.world.container container = caller.world.container container :=
    begun.container_eq container
  have set : next.machine = begins.set container body result := operated
  obtain ⟨world, locals, stack, focus⟩ := begins.set_calls container body result
  rw [held] at world locals stack
  rw [← set] at world locals stack focus
  refine ⟨machine.stack, begun.length, begun.rests reached operates.follows,
    begun.asks ?_ locals focus, ?_⟩
  · rw [stack, Inquiry.setting, List.append_assoc]
    rfl
  · rw [← begun.world]
    exact world

/-- A predicate is called in the first step of its operation, if there are elements. Nothing else
is done. -/
theorem Operates.searches {container : ContainerRef} {body : List Action} {test : Expression}
    (operates : caller.Operates container (.findAndRemove body test) height next)
    (reached : caller.IsReached) :
    ∃ base, base.length = height ∧ caller.Rests next base ∧
      next.world = caller.performer.world ∧
      let inquiry := caller.inquiry container body test base
      ((caller.world.container container).items = [] →
        next.machine.stack = inquiry.beneath []) ∧
      ∀ item rest, (caller.world.container container).items = item :: rest →
        next.Asks inquiry (inquiry.deciding 0 rest) ("x", item) := by
  obtain ⟨action, machine, begun, operated⟩ := operates.exists_begun
  let begins : Machine := machine.push [.operating container]
  have held : begins.world.container container = caller.world.container container :=
    begun.container_eq container
  have search : next.machine =
      begins.search container 0 (caller.world.container container).items body test := by
    rw [operated, ← held]
    rfl
  refine ⟨machine.stack, begun.length, begun.rests reached operates.follows, ?_,
    fun none => ?_, fun item rest listed => ?_⟩
  · rw [Moment.world, search, Machine.world_search]
    exact begun.world
  · rw [search, none]
    rfl
  · rw [listed] at search
    obtain ⟨locals, stack, focus⟩ := begins.search_calls container 0 item rest body test
    rw [held] at stack
    rw [← search] at locals stack focus
    exact begun.asks stack locals focus

/-- When a predicate has refused an element, the search goes on with those that are left, and
nothing else is done. -/
theorem Asks.refused {position : Nat} {rest : List Value} {reply : Reply}
    (asks : during.Asks inquiry (inquiry.deciding position rest) argument)
    (replies : during.Replies inquiry (inquiry.deciding position rest) reply left)
    (lasts : next.Lasts inquiry.base.length during)
    (still : (left.world.container inquiry.container).surface = inquiry.surface)
    (refuses : reply.content.truthy = false) :
    left.step.world = left.world ∧ next.Lasts inquiry.base.length left.step ∧
      ∀ item others, rest = item :: others →
        left.step.Asks inquiry (inquiry.deciding (position + 1) others) ("x", item) := by
  obtain ⟨stack, same, lasts⟩ := asks.replied replies lasts
  obtain ⟨_, _, _, focus⟩ := replies
  let popped : Machine :=
    { left.machine with stack := .operating inquiry.container :: inquiry.base }
  have step : left.step.machine =
      popped.search inquiry.container (position + 1) rest inquiry.body inquiry.result := by
    have verdict : left.step.machine = popped.verdict inquiry.container position rest inquiry.body
        inquiry.result reply.content := Machine.step_of_resume stack focus
    rw [verdict, Machine.verdict, refuses]
    rfl
  have above : inquiry.base.length < left.machine.stack.length := by
    simp only [stack, Inquiry.beneath, Inquiry.deciding, List.length_append, List.length_cons]
    omega
  refine ⟨?_, lasts.step above, fun item others listed => ?_⟩
  · rw [Moment.world, step, Machine.world_search]
    rfl
  · subst listed
    obtain ⟨locals, stack, focus⟩ :=
      popped.search_calls inquiry.container (position + 1) item others inquiry.body inquiry.result
    have surface : (popped.world.container inquiry.container).surface = inquiry.surface := still
    have restored : popped.locals = inquiry.locals := same
    rw [surface, restored] at stack
    rw [restored] at locals
    exact ⟨by rw [step, stack]; rfl, by rw [step, locals], by rw [step, focus]⟩

/-- As long as a search comes to an element it calls the predicate with it. -/
theorem Searches.asks {items rest : List Value} {position : Nat} {item : Value}
    (searches : next.Searches inquiry items position item rest during)
    (begins : ∀ item rest, items = item :: rest →
      next.Asks inquiry (inquiry.deciding 0 rest) ("x", item))
    (still : ∀ left : Moment, next.Lasts inquiry.base.length left →
      (left.world.container inquiry.container).surface = inquiry.surface) :
    during.Asks inquiry (inquiry.deciding position rest) ("x", item) ∧
      next.Lasts inquiry.base.length during ∧ items.drop position = item :: rest := by
  induction searches with
  | @first item rest listed =>
    exact ⟨begins item rest listed, .refl next _, listed⟩
  | @more position item other rest during reply left earlier replies refuses ih =>
    obtain ⟨asks, lasts, listed⟩ := ih
    obtain ⟨_, _, onward⟩ := asks.replied replies lasts
    obtain ⟨_, further, again⟩ := asks.refused replies lasts (still left onward) refuses
    refine ⟨again other rest rfl, further, ?_⟩
    rw [← List.tail_drop, listed, List.tail_cons]

end Moment

/-- A search that asks no more is about to answer, or over. -/
inductive Inquiry.IsClosed (inquiry : Inquiry) : List Frame → Prop where
  /-- An element is removed. -/
  | yielding {inner value} : IsClosed inquiry (inner ++ .yield value :: inquiry.beneath [])
  /-- The operation ends. -/
  | ending : IsClosed inquiry (inquiry.beneath [])
  /-- The operation has ended. -/
  | ended : IsClosed inquiry inquiry.base

namespace Inquiry

variable {inquiry : Inquiry} {machine : Machine}

/-- What is beneath the body of a predicate tells about which element it has been asked. -/
theorem eq_of_append_beneath {inner others : List Frame} {frame other : Frame}
    (same : inner ++ frame :: inquiry.beneath [] = others ++ other :: inquiry.beneath []) :
    frame = other := by
  have cancelled : inner ++ [frame] = others ++ [other] := by
    refine List.append_cancel_right (?_ : _ ++ inquiry.beneath [] = _)
    simpa only [List.append_assoc, List.singleton_append] using same
  exact List.singleton_injective (List.append_inj' cancelled rfl).2

/-- A search that asks no more does not do so later. -/
theorem IsClosed.step (closed : inquiry.IsClosed machine.stack)
    (above : inquiry.base.length < machine.stack.length) :
    inquiry.IsClosed machine.step.stack := by
  generalize same : machine.stack = stack at closed above
  cases closed with
  | @yielding inner value =>
    cases inner with
    | nil =>
      rw [Machine.step_of_brief rfl same]
      exact .ending
    | cons frame inner =>
      have taller : (Frame.yield value :: inquiry.beneath []).length < machine.stack.length := by
        simp only [same, List.length_append, List.length_cons]
        omega
      obtain ⟨others, stack⟩ := Machine.step_stack same taller
      rw [stack]
      exact .yielding
  | ending =>
    rw [Machine.step_of_brief rfl same]
    exact .ended
  | ended => exact absurd above (Nat.lt_irrefl _)

/-- A search that removes an element asks no more. -/
theorem isClosed_removeAt (stack : machine.stack = inquiry.beneath []) (position : Nat) :
    inquiry.IsClosed (machine.removeAt inquiry.container position).stack := by
  have ends : inquiry.IsClosed machine.stack := stack ▸ .ending
  unfold Machine.removeAt
  split
  · exact ends
  · dsimp only
    split
    · exact ends
    · next item _ =>
      let value := (machine.world.container inquiry.container).surface.found item
      show inquiry.IsClosed (([_, _, _] : List Frame) ++ .yield value :: machine.stack)
      rw [stack]
      exact .yielding

end Inquiry

namespace Moment

/-- How far a search has come: its predicate runs, or it asks no more. -/
inductive Seeks (first : Moment) (inquiry : Inquiry) (items : List Value) (moment : Moment) :
    Prop where
  /-- The predicate is asked about an element. -/
  | asking {position item rest during steps}
      (searches : first.Searches inquiry items position item rest during)
      (stays : during.machine.StaysAbove
        (inquiry.beneath (inquiry.deciding position rest)).length steps)
      (same : moment = during.run steps) : Seeks first inquiry items moment
  /-- The search asks no more. -/
  | closed (closed : inquiry.IsClosed moment.machine.stack) : Seeks first inquiry items moment

variable {next left during : Moment} {hold : List Frame} {failure : Failure} {inquiry : Inquiry}
  {argument : String × Value} {items rest : List Value} {item : Value} {position steps : Nat}

/-- While the predicate runs it goes on, and when it is left the search asks about the next
element or asks no more. -/
theorem Searches.seeks (searches : next.Searches inquiry items position item rest during)
    (asks : during.Asks inquiry (inquiry.deciding position rest) argument)
    (lasts : next.Lasts inquiry.base.length during)
    (stays : during.machine.StaysAbove
      (inquiry.beneath (inquiry.deciding position rest)).length steps)
    (above : inquiry.base.length < (during.run steps).machine.stack.length) :
    next.Seeks inquiry items (during.run steps).step := by
  have busy := Machine.not_isFinished above
  have machine := (during.machine_run steps).1
  rcases Nat.lt_or_ge (inquiry.beneath (inquiry.deciding position rest)).length
    (during.run steps).machine.stack.length with tall | low
  · rw [machine] at tall
    exact .asking searches (stays.succ tall) (run_succ busy).symm
  · have returns : during.machine.Returns
        (inquiry.beneath (inquiry.deciding position rest)).length steps :=
      ⟨machine ▸ low, stays⟩
    obtain ⟨stack, _, _⟩ := asks.returned returns lasts
    cases focus : (during.run steps).machine.focus with
    | unwind failure =>
      have step := Machine.step_of_unwind stack focus
      refine .closed ?_
      show inquiry.IsClosed (during.run steps).machine.step.stack
      rw [step]
      exact .ending
    | resume reply =>
      have replies : during.Replies inquiry (inquiry.deciding position rest) reply
        (during.run steps) := ⟨steps, returns, rfl, focus⟩
      let popped : Machine := { (during.run steps).machine with stack := inquiry.beneath [] }
      have verdict : (during.run steps).step.machine = popped.verdict inquiry.container position
          rest inquiry.body inquiry.result reply.content := Machine.step_of_resume stack focus
      cases truthy : reply.content.truthy with
      | true =>
        refine .closed ?_
        rw [verdict, Machine.verdict, truthy]
        exact Inquiry.isClosed_removeAt rfl position
      | false =>
        cases rest with
        | nil =>
          refine .closed ?_
          rw [verdict, Machine.verdict, truthy]
          exact .ending
        | cons other rest =>
          have again := searches.more replies truthy
          exact .asking again (fun _ before => absurd before (Nat.not_lt_zero _)) rfl

/-- As long as a search is in progress its predicate runs or it asks no more. -/
theorem Lasts.seeks (lasts : next.Lasts inquiry.base.length left)
    (none : items = [] → next.machine.stack = inquiry.beneath [])
    (begins : ∀ item rest, items = item :: rest →
      next.Asks inquiry (inquiry.deciding 0 rest) ("x", item))
    (still : ∀ left : Moment, next.Lasts inquiry.base.length left →
      (left.world.container inquiry.container).surface = inquiry.surface) :
    next.Seeks inquiry items left := by
  obtain ⟨steps, stays, rfl⟩ := lasts
  induction steps with
  | zero =>
    cases items with
    | nil =>
      refine .closed ?_
      show inquiry.IsClosed next.machine.stack
      rw [none rfl]
      exact .ending
    | cons item rest =>
      exact .asking (.first rfl) (fun _ before => absurd before (Nat.not_lt_zero _)) rfl
  | succ steps ih =>
    have before : next.machine.StaysAbove inquiry.base.length steps :=
      fun earlier within => stays earlier (Nat.lt_succ_of_lt within)
    have above := stays steps (Nat.lt_succ_self steps)
    rw [← (next.machine_run steps).1] at above
    rw [run_succ (Machine.not_isFinished above)]
    cases ih before with
    | closed closed => exact .closed (closed.step above)
    | asking searches calm same =>
      obtain ⟨asks, onward, _⟩ := searches.asks begins still
      rw [same] at above ⊢
      exact searches.seeks asks onward calm above

/-- A function that is left with a failure while it has not answered fails. -/
theorem Asks.fails (asks : during.Asks inquiry hold argument)
    (stays : during.machine.StaysAbove (inquiry.beneath hold).length steps)
    (stack : (during.run steps).machine.stack = inquiry.exit hold)
    (focus : (during.run steps).machine.focus = .unwind failure) :
    during.Fails inquiry hold failure (during.run steps) := by
  have called := asks.stack_exit
  rw [(during.machine_run steps).1] at stack
  rw [Inquiry.exit_eq_leaving] at called stack
  refine ⟨steps, ?_, rfl, focus⟩
  rw [Inquiry.exit_eq_leaving]
  exact Machine.returns_of_brief inquiry.isBrief_leaving called stays stack

/-- When the predicate is left with a failure the search has come to the element. -/
theorem Seeks.fails (seeks : next.Seeks inquiry items left)
    (begins : ∀ item rest, items = item :: rest →
      next.Asks inquiry (inquiry.deciding 0 rest) ("x", item))
    (still : ∀ left : Moment, next.Lasts inquiry.base.length left →
      (left.world.container inquiry.container).surface = inquiry.surface)
    (stack : left.machine.stack = inquiry.exit (inquiry.deciding position rest))
    (focus : left.machine.focus = .unwind failure) :
    ∃ item during, next.Searches inquiry items position item rest during ∧
      during.Fails inquiry (inquiry.deciding position rest) failure left := by
  have under : left.machine.stack = inquiry.leaving ++
      .verdict inquiry.container position rest inquiry.body inquiry.result :: inquiry.beneath [] :=
    stack.trans (inquiry.exit_eq_leaving _)
  cases seeks with
  | closed closed =>
    generalize left.machine.stack = seen at closed under
    cases closed with
    | yielding => cases Inquiry.eq_of_append_beneath under
    | ending | ended =>
      have same := congrArg List.length under
      simp only [Inquiry.beneath, List.length_append, List.length_cons] at same
      omega
  | @asking first item others during steps searches stays same =>
    subst same
    obtain ⟨asks, _, _⟩ := searches.asks begins still
    obtain ⟨above, there⟩ := stays.stack asks.stack
    rw [← (during.machine_run steps).1] at there
    cases Inquiry.eq_of_append_beneath (there.symm.trans under)
    exact ⟨item, during, searches, asks.fails stays stack focus⟩

end Moment

end Observables
