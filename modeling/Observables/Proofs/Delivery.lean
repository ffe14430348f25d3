import Observables.Proofs.Enrolment
import Observables.Proofs.Return

/-!
# Dispatches

A dispatch gives every subscription that was registered when it began its turn,
in the order in which they were made. At its turn a subscription is called
unless it has been ended by then, and nothing else is called by the dispatch,
whatever its subscribers do. The order and the turns do not depend on other
dispatches of the same channel that go on at the same time. A subscription
that has been ended is never called again, by no dispatch.
-/

namespace Observables

open Script

/-- The subscription has been ended. -/
def hasEnded (history : List Deed) (subscription : SubscriptionRef) : Bool :=
  (enrolled history).any fun made =>
    made.subscription = subscription && made.isEnded history

/-- The subscription that a deed calls. -/
def Deed.tells : Deed → List SubscriptionRef
  | .told _ _ subscription => [subscription]
  | _ => []

/-- A subscription that gets its turn, with what has been done by then. -/
structure Turning where
  /-- The subscription. -/
  subscription : SubscriptionRef
  /-- What has been done, the latest first. -/
  history : List Deed

/-- The subscription has not been ended when it gets its turn. -/
def Turning.isLive (turning : Turning) : Bool := !hasEnded turning.history turning.subscription

namespace Moment

/-- The subscription that gets its turn next in the innermost dispatch, if the dispatch is at
a height of the stack. -/
def turning (moment : Moment) (height : Nat) : List Turning :=
  match moment.machine.stack, moment.machine.focus with
  | .dispatch _ _ (subscription :: _) :: beneath, .resume _ =>
    if beneath.length + 1 = height then [⟨subscription, moment.history⟩] else []
  | _, _ => []

/-- The subscriptions that get their turn at a height of the stack. -/
def turnsAt (moment : Moment) (height : Nat) : Nat → List Turning
  | 0 => []
  | steps + 1 => moment.turning height ++ moment.step.turnsAt height steps

/-- The subscriptions that are called from a height of the stack. -/
def callsAt (moment : Moment) (height : Nat) : Nat → List SubscriptionRef
  | 0 => []
  | steps + 1 =>
    (if moment.machine.stack.length = height then moment.machine.deed.tells else []) ++
      moment.step.callsAt height steps

/-- How a dispatch ends: all that were waiting have had their turns, or it has been left by a
failure of one of the first of them. -/
def DispatchEnds (final : Moment) (base : List Frame) (container : ContainerRef)
    (notice : Notice) (recent : List Deed) (served waiting : List SubscriptionRef) : Prop :=
  final.machine.stack = base ∧ match final.machine.focus with
    | .resume _ => served = waiting
    | .unwind _ => served <+: waiting ∧
        ∃ left, .abandoned (.dispatch container notice left) ∈ recent

end Moment

section

variable {world : World} {history : List Deed}

/-- Whether a subscription has been ended can be told from where it was made. -/
theorem World.Enrolled.hasEnded_eq (enrolment : world.Enrolled history) {made : Enrolment}
    (inside : made ∈ enrolled history) :
    hasEnded history made.subscription = made.isEnded history := by
  rw [Bool.eq_iff_iff, hasEnded, List.any_eq_true]
  constructor
  · rintro ⟨other, there, ended⟩
    rw [Bool.and_eq_true, decide_eq_true_iff] at ended
    rw [← enrolment.eq_of_subscription there inside ended.1]
    exact ended.2
  · intro ended
    exact ⟨made, inside, by simp [ended]⟩

/-- A subscription that gets its turn has not been ended if it is switched on. -/
theorem World.Enrolled.isLive_eq (enrolment : world.Enrolled history) {made : Enrolment}
    (inside : made ∈ enrolled history) :
    Turning.isLive ⟨made.subscription, history⟩ =
      (world.callback? made.subscription).isSome := by
  have ended := enrolment.callback?_eq_none_iff inside
  rw [Turning.isLive, enrolment.hasEnded_eq inside]
  cases on : world.callback? made.subscription with
  | none =>
    rw [ended.mp on]
    rfl
  | some callback =>
    have alive : made.isEnded history = false := by simpa [on] using ended
    rw [alive]
    rfl

end

namespace Machine

variable {machine : Machine} {container : ContainerRef} {notice : Notice}
  {subscription : SubscriptionRef}

/-- Only a dispatch calls a subscription, when it comes to it and it is switched on. -/
theorem told_inversion (told : machine.deed = .told container notice subscription) :
    ∃ waiting rest reply callback,
      machine.stack = .dispatch container notice (subscription :: waiting) :: rest ∧
      machine.focus = .resume reply ∧ machine.world.callback? subscription = some callback := by
  cases stack : machine.stack with
  | nil =>
    simp only [deed, stack] at told
    cases told
  | cons frame rest =>
    obtain ⟨put, _, turn⟩ := step_turns stack
    rw [told] at turn
    generalize taken : [frame] = frames at turn
    cases turn with
    | @told _ _ _ waiting callback _ _ on _ =>
      cases taken
      cases focus : machine.focus with
      | resume reply => exact ⟨waiting, rest, reply, callback, rfl, rfl, on⟩
      | unwind failure =>
        simp only [deed, stack, focus] at told
        cases told

end Machine

namespace Moment

variable {moment : Moment} {base : List Frame} {container : ContainerRef} {notice : Notice}
  {steps : Nat}

/-- A dispatch that has called one subscriber, or passed over one, goes on with the others. -/
theorem DispatchEnds.cons {final : Moment} {recent : List Deed}
    {served waiting : List SubscriptionRef}
    (ends : final.DispatchEnds base container notice recent served waiting) (deed : Deed)
    (subscription : SubscriptionRef) :
    final.DispatchEnds base container notice (recent ++ [deed]) (subscription :: served)
      (subscription :: waiting) := by
  obtain ⟨stack, ends⟩ := ends
  refine ⟨stack, ?_⟩
  cases focus : final.machine.focus with
  | resume reply =>
    simp only [focus] at ends ⊢
    rw [ends]
  | unwind failure =>
    simp only [focus] at ends ⊢
    obtain ⟨some, left, inside⟩ := ends
    exact ⟨(List.prefix_cons_inj subscription).mpr some, left, List.mem_append_left _ inside⟩

/-- A dispatch ends the same way if something was done before. -/
theorem DispatchEnds.after {final : Moment} {recent : List Deed}
    {served waiting : List SubscriptionRef}
    (ends : final.DispatchEnds base container notice recent served waiting) (deed : Deed) :
    final.DispatchEnds base container notice (recent ++ [deed]) served waiting := by
  obtain ⟨stack, ends⟩ := ends
  refine ⟨stack, ?_⟩
  cases focus : final.machine.focus with
  | resume reply =>
    simp only [focus] at ends ⊢
    exact ends
  | unwind failure =>
    simp only [focus] at ends ⊢
    obtain ⟨some, left, inside⟩ := ends
    exact ⟨some, left, List.mem_append_left _ inside⟩

/-- At a height where no dispatch is innermost nobody gets a turn. -/
theorem turning_of_ne {height : Nat} (elsewhere : moment.machine.stack.length ≠ height) :
    moment.turning height = [] := by
  unfold turning
  split
  · next stack _ =>
    rw [stack, List.length_cons] at elsewhere
    rw [if_neg elsewhere]
  · rfl

/-- At its turn a subscription is called if it is switched on, and then the others wait. -/
theorem step_turning {subscription : SubscriptionRef} {waiting : List SubscriptionRef}
    {reply : Reply}
    (top : moment.machine.stack = .dispatch container notice (subscription :: waiting) :: base)
    (focus : moment.machine.focus = .resume reply) :
    (∃ inner, moment.step.machine.stack = inner ++ .dispatch container notice waiting :: base) ∧
      moment.machine.deed.tells =
        if (moment.world.callback? subscription).isSome then [subscription] else [] := by
  obtain ⟨put, stack, turn⟩ := Machine.step_turns top
  cases on : moment.machine.world.callback? subscription with
  | none =>
    have deed : moment.machine.deed = .quiet := by
      simp only [Machine.deed, top, focus, Machine.resumeDeed, on]
    have next := Machine.step_of_resume top focus
    have passed : moment.machine.step.stack = .dispatch container notice waiting :: base := by
      rw [next]
      simp only [Machine.resume, Machine.dispatch, Machine.world_push, on]
      rfl
    refine ⟨⟨[], passed⟩, ?_⟩
    simp only [deed, world, on]
    rfl
  | some callback =>
    have deed : moment.machine.deed = .told container notice subscription := by
      simp only [Machine.deed, top, focus, Machine.resumeDeed, on]
    rw [deed] at turn
    cases turn with
    | told =>
      refine ⟨⟨_, stack.trans (List.append_assoc ..)⟩, ?_⟩
      simp only [deed, world, on]
      rfl

/-- A dispatch is over when nobody waits any more or a failure has come up to it. -/
theorem step_over {waiting : List SubscriptionRef}
    (top : moment.machine.stack = .dispatch container notice waiting :: base)
    (last : waiting = [] ∨ ∃ failure, moment.machine.focus = .unwind failure) :
    moment.turning (base.length + 1) = [] ∧ moment.machine.deed.tells = [] ∧
      moment.step.DispatchEnds base container notice [moment.machine.deed] [] waiting := by
  cases focus : moment.machine.focus with
  | unwind failure =>
    have next := Machine.step_of_unwind top focus
    have deed : moment.machine.deed = .abandoned (.dispatch container notice waiting) := by
      simp only [Machine.deed, top, focus, Machine.unwindDeed]
    have stack : moment.step.machine.stack = base := congrArg Machine.stack next
    have failing : moment.step.machine.focus = .unwind failure :=
      (congrArg Machine.focus next).trans focus
    refine ⟨by simp only [turning, top, focus], by rw [deed]; rfl, stack, ?_⟩
    rw [failing, deed]
    exact ⟨List.nil_prefix, waiting, List.mem_singleton_self _⟩
  | resume reply =>
    rcases last with rfl | ⟨failure, fails⟩
    · have next := Machine.step_of_resume top focus
      have deed : moment.machine.deed = .quiet := by
        simp only [Machine.deed, top, focus, Machine.resumeDeed]
      have stack : moment.step.machine.stack = base := congrArg Machine.stack next
      have resuming : moment.step.machine.focus = .resume (.value .null) :=
        congrArg Machine.focus next
      refine ⟨by simp only [turning, top, focus], by rw [deed]; rfl, stack, ?_⟩
      rw [resuming]
    · rw [focus] at fails
      cases fails

/-- What is done for those that wait in a dispatch during some steps. -/
structure Serves (moment : Moment) (base : List Frame) (container : ContainerRef)
    (notice : Notice) (waiting : List SubscriptionRef) (steps : Nat) : Prop where
  /-- Those whose turn it is are called, unless they have been ended by then. -/
  calls : moment.callsAt (base.length + 1) steps =
    ((moment.turnsAt (base.length + 1) steps).filter Turning.isLive).map (·.subscription)
  /-- They get their turns in order. -/
  turns : (moment.turnsAt (base.length + 1) steps).map (·.subscription) <+: waiting
  /-- When the dispatch is over all have had their turns, or it has failed. -/
  ends : (moment.machine.run steps).stack.length ≤ base.length →
    ∃ recent, (moment.run steps).history = recent ++ moment.history ∧
      (moment.run steps).DispatchEnds base container notice recent
        ((moment.turnsAt (base.length + 1) steps).map (·.subscription)) waiting

/-- While frames lie above a dispatch, nobody gets a turn in it. -/
theorem Serves.inside {waiting : List SubscriptionRef}
    (above : base.length < moment.machine.stack.length)
    (elsewhere : moment.machine.stack.length ≠ base.length + 1)
    (serves : moment.step.Serves base container notice waiting steps) :
    moment.Serves base container notice waiting (steps + 1) := by
  have busy : moment.machine.isFinished = false := Machine.not_isFinished above
  have run := run_succ_of_busy busy steps
  have turns : moment.turnsAt (base.length + 1) (steps + 1) =
      moment.step.turnsAt (base.length + 1) steps := by
    rw [turnsAt, moment.turning_of_ne elsewhere, List.nil_append]
  refine ⟨?_, turns ▸ serves.turns, fun low => ?_⟩
  · rw [turns, callsAt, if_neg elsewhere, List.nil_append]
    exact serves.calls
  · rw [Machine.run_succ above] at low
    obtain ⟨recent, history, ends⟩ := serves.ends low
    rw [run, turns]
    exact ⟨recent ++ [moment.machine.deed], history.trans (List.append_cons _ _ _), ends.after _⟩

/-- One that waits is called at its turn if it is still registered, and then the others wait. -/
theorem Serves.turn {subscription : SubscriptionRef} {waiting : List SubscriptionRef}
    {reply : Reply}
    (top : moment.machine.stack = .dispatch container notice (subscription :: waiting) :: base)
    (focus : moment.machine.focus = .resume reply)
    (live : (⟨subscription, moment.history⟩ : Turning).isLive =
      (moment.world.callback? subscription).isSome)
    (serves : moment.step.Serves base container notice waiting steps) :
    moment.Serves base container notice (subscription :: waiting) (steps + 1) := by
  have here : moment.machine.stack.length = base.length + 1 := by rw [top, List.length_cons]
  have above : base.length < moment.machine.stack.length := by
    rw [here]
    exact Nat.lt_succ_self _
  have busy : moment.machine.isFinished = false := Machine.not_isFinished above
  have run := run_succ_of_busy busy steps
  have turns : moment.turnsAt (base.length + 1) (steps + 1) =
      ⟨subscription, moment.history⟩ :: moment.step.turnsAt (base.length + 1) steps := by
    have turn : moment.turning (base.length + 1) = [⟨subscription, moment.history⟩] := by
      simp only [turning, top, focus, if_true]
    rw [turnsAt, turn, List.singleton_append]
  refine ⟨?_, ?_, fun low => ?_⟩
  · rw [turns, callsAt, if_pos here, (step_turning top focus).2, serves.calls, List.filter_cons,
      live]
    split
    · rfl
    · rfl
  · rw [turns]
    exact (List.prefix_cons_inj subscription).mpr serves.turns
  · rw [Machine.run_succ above] at low
    obtain ⟨recent, history, ends⟩ := serves.ends low
    rw [run, turns]
    exact ⟨recent ++ [moment.machine.deed], history.trans (List.append_cons _ _ _),
      ends.cons _ subscription⟩

/-- A dispatch whose last step comes next serves nobody any more. -/
theorem Serves.over {waiting : List SubscriptionRef}
    (top : moment.machine.stack = .dispatch container notice waiting :: base)
    (last : waiting = [] ∨ ∃ failure, moment.machine.focus = .unwind failure)
    (after : moment.step.machine.StaysAbove base.length steps) :
    moment.Serves base container notice waiting (steps + 1) := by
  have here : moment.machine.stack.length = base.length + 1 := by rw [top, List.length_cons]
  have above : base.length < moment.machine.stack.length := by
    rw [here]
    exact Nat.lt_succ_self _
  have busy : moment.machine.isFinished = false := Machine.not_isFinished above
  obtain ⟨none, silent, ends⟩ := step_over top last
  obtain rfl := after.eq_zero (Nat.le_of_eq (congrArg List.length ends.1))
  have run : moment.run 1 = moment.step := run_succ_of_busy busy 0
  have turns : moment.turnsAt (base.length + 1) 1 = [] := by
    rw [turnsAt, none]
    rfl
  refine ⟨?_, turns ▸ List.nil_prefix, fun _ => ⟨[moment.machine.deed], ?_, ?_⟩⟩
  · rw [turns, callsAt, if_pos here, silent]
    rfl
  · rw [run]
    rfl
  · rw [run, turns]
    exact ends

/-- From any moment of a dispatch on, those that wait get their turns in order, and are called
unless they have been ended by then. -/
theorem dispatch_serves {inner : List Frame} {waiting : List SubscriptionRef}
    (reached : moment.IsReached)
    (stack : moment.machine.stack = inner ++ .dispatch container notice waiting :: base)
    (known : ∀ subscription ∈ waiting,
      ∃ made ∈ enrolled moment.history, made.subscription = subscription)
    (going : moment.machine.StaysAbove base.length steps) :
    moment.Serves base container notice waiting steps := by
  have above : base.length < moment.machine.stack.length := by
    rw [stack, List.length_append, List.length_cons]
    omega
  induction steps generalizing moment inner waiting with
  | zero => exact ⟨rfl, List.nil_prefix, fun low => absurd low (Nat.not_le_of_lt above)⟩
  | succ steps ih =>
    have busy : moment.machine.isFinished = false := Machine.not_isFinished above
    have after : moment.step.machine.StaysAbove base.length steps := going.step above
    have onward : moment.step.IsReached := reached.leads (.single (.step busy))
    have still : ∀ subscription ∈ waiting,
        ∃ made ∈ enrolled moment.step.history, made.subscription = subscription := by
      intro subscription inside
      obtain ⟨made, there, same⟩ := known subscription inside
      exact ⟨made, (enrolled_suffix (List.suffix_cons _ _)).subset there, same⟩
    have tall {upper : List Frame} {others : List SubscriptionRef}
        (next : moment.step.machine.stack = upper ++ .dispatch container notice others :: base) :
        base.length < moment.step.machine.stack.length := by
      rw [next, List.length_append, List.length_cons]
      omega
    cases inner with
    | cons frame inner =>
      have high : moment.machine.stack.length ≠ base.length + 1 := by
        rw [stack, List.length_append, List.length_cons, List.length_cons]
        omega
      obtain ⟨put, next, _⟩ := Machine.step_turns (stack.trans (List.cons_append ..))
      have next := next.trans (List.append_assoc ..).symm
      exact (ih onward next still after (tall next)).inside above high
    | nil =>
      have top : moment.machine.stack = .dispatch container notice waiting :: base := stack
      by_cases last : waiting = [] ∨ ∃ failure, moment.machine.focus = .unwind failure
      · exact .over top last after
      · cases waiting with
        | nil => exact absurd (.inl rfl) last
        | cons subscription waiting =>
          cases focus : moment.machine.focus with
          | unwind failure => exact absurd (.inr ⟨failure, focus⟩) last
          | resume reply =>
            obtain ⟨⟨inner, next⟩, _⟩ := step_turning top focus
            have others := ih onward next
              (fun other inside => still other (List.mem_cons_of_mem _ inside)) after (tall next)
            obtain ⟨made, there, same⟩ := known subscription List.mem_cons_self
            exact others.turn top focus (same ▸ reached.enrolled.isLive_eq there)

/-- Only a subscription that is switched on is called. -/
theorem Next.told {moment next : Moment} (follows : moment.Next next)
    {container : ContainerRef} {notice : Notice} {subscription : SubscriptionRef}
    (latest : next.history = .told container notice subscription :: moment.history) :
    moment.world.callback? subscription ≠ none := by
  obtain ⟨world, rest, taken, put, same, _, _, turn⟩ := follows.turn latest
  cases turn with
  | told on =>
    rw [World.callback?, ← same.subscriptions]
    exact fun off => Option.some_ne_none _ (on.symm.trans off)

/-- A notice that starts to go out finds all that are registered. -/
theorem Next.notified {moment next : Moment} (follows : moment.Next next)
    {container : ContainerRef} {notice : Notice} {waiting : List SubscriptionRef}
    (latest : next.history = .notified container notice waiting :: moment.history) :
    waiting = ((moment.world.container container).registry notice.channel).snapshot ∧
      ∃ base, next.machine.stack = .dispatch container notice waiting :: base := by
  obtain ⟨world, rest, taken, put, same, _, stack, turn⟩ := follows.turn latest
  cases turn with
  | notified =>
    rw [same.container] at stack ⊢
    exact ⟨rfl, rest, stack⟩

end Moment

/-- An action that makes a cell under the name C. -/
def cellMade : Script.Action :=
  ⟨"cell", none, none, .makeCell (.literal (.text "C")) (.literal (.int 0)) none .direct⟩

/-- An action that subscribes a body to a container, with a handle. -/
def subscribing (container handle : String) (channel : Option Channel)
    (body : List Script.Action) : Script.Action :=
  ⟨"subscribe", none, some (.literal (.text container)),
    .operate (.subscribe (.literal (.text handle)) channel body)⟩

/-- An action that ends the subscription of a handle. -/
def parted (handle : String) : Script.Action :=
  ⟨"unsubscribe", none, none, .handle (.literal (.text handle)) .unsubscribe⟩

/-- An action that stores a number in the cell C. -/
def numberStored (number : Int) : Script.Action :=
  ⟨"set", none, some (.literal (.text "C")), .operate (.set [] (.literal (.int number)))⟩

/-- Two subscribers of a cell, the first of which ends the subscription of the second. -/
def rivals : Moment :=
  ((((Moment.start false).begin cellMade).begin
    (subscribing "C" "a" none [parted "b"])).run 1).begin
    (subscribing "C" "b" none []) |>.run 1

end Observables
