import Observables.Proofs.Haven

/-!
# Operations of shielded containers come to their end

Where no failure passes a shield, an operation on a shielded container goes on
after its dispatches and its runs of teardowns, whatever their callbacks throw.
So it answers what it answers without them, and it fails only with a failure of
its own setter or predicate, or because what a setter answers cannot be held.
-/

namespace Observables

open Script

/-- No failure is in a haven at any of the next steps. -/
def Machine.StaysInsulated (machine : Machine) (final : World) (steps : Nat) : Prop :=
  ∀ earlier ≤ steps, (machine.run earlier).IsInsulated final

namespace Machine.StaysInsulated

variable {machine : Machine} {final : World} {steps : Nat}

/-- What holds for some steps holds now. -/
theorem here (stays : machine.StaysInsulated final steps) : machine.IsInsulated final :=
  stays 0 (Nat.zero_le _)

/-- What holds for some steps holds for the later ones. -/
theorem later {first further : Nat} (stays : machine.StaysInsulated final (first + further)) :
    (machine.run first).StaysInsulated final further := by
  intro earlier before
  rw [← run_add]
  exact stays _ (Nat.add_le_add_left before first)

/-- What holds for some steps holds for the first ones. -/
theorem sooner {first further : Nat} (stays : machine.StaysInsulated final (first + further)) :
    machine.StaysInsulated final first :=
  fun earlier before => stays earlier (Nat.le_trans before (Nat.le_add_right _ _))

/-- What holds for some steps holds after the first of them. -/
theorem step (stays : machine.StaysInsulated final (steps + 1))
    (busy : machine.isFinished = false) : machine.step.StaysInsulated final steps := by
  intro earlier before
  have after := stays (earlier + 1) (Nat.succ_le_succ before)
  simpa only [run, busy, Bool.false_eq_true, if_false] using after

end Machine.StaysInsulated

namespace Machine

variable {machine : Machine} {final : World} {steps : Nat} {base inner : List Frame}
  {container : ContainerRef}

/-- A frame that calls callbacks ends without a value or goes on as it should. -/
theorem step_of_caller {caller : Frame} {reply : Reply} (calls : caller.isCaller = true)
    (top : machine.stack = caller :: base) (focus : machine.focus = .resume reply) :
    (machine.step.stack = base ∧ machine.step.focus = .resume (.value .null)) ∨
      ∃ above next, machine.step.stack = above ++ next :: base ∧ next.isCaller = true ∧
        (final.Haven (caller :: base) → final.Haven (next :: base)) := by
  rw [step_of_resume top focus]
  cases caller with
  | dispatch container notice waiting =>
    cases waiting with
    | nil => exact .inl ⟨rfl, rfl⟩
    | cons subscription waiting =>
      refine .inr ?_
      simp only [resume, dispatch]
      split
      · exact ⟨[], .dispatch container notice waiting, rfl, rfl, id⟩
      · next callback _ =>
        cases notice with
        | changed | added | removed =>
          exact ⟨called callback.body callback.surface machine.locals, _, rfl, rfl, id⟩
  | teardown realm key waiting =>
    cases waiting with
    | nil => exact .inl ⟨rfl, rfl⟩
    | cons teardown waiting =>
      exact .inr ⟨called teardown.body teardown.surface machine.locals, _, rfl, rfl, id⟩
  | _ => cases calls

/-- Callbacks that are called in a haven are called one after the other to the last. -/
theorem StaysInsulated.caller_returns (stays : machine.StaysInsulated final steps) {caller : Frame}
    (calls : caller.isCaller = true) (haven : final.Haven (caller :: base))
    (stack : machine.stack = inner ++ caller :: base)
    (returns : machine.Returns base.length steps) :
    (machine.run steps).focus = .resume (.value .null) := by
  have above : base.length < machine.stack.length := by
    rw [stack, List.length_append, List.length_cons]
    omega
  induction steps generalizing machine inner caller with
  | zero => exact absurd returns.1 (Nat.not_le_of_lt above)
  | succ steps ih =>
    have after := returns.step above
    have onward := stays.step (not_isFinished above)
    have low (next : Frame) (put : List Frame) (stack : machine.step.stack = put ++ next :: base) :
        base.length < machine.step.stack.length := by
      rw [stack, List.length_append, List.length_cons]
      omega
    rw [run_succ above]
    cases inner with
    | cons frame inner =>
      obtain ⟨put, next, _⟩ := step_turns (stack.trans (List.cons_append ..))
      have stack := next.trans (List.append_assoc ..).symm
      exact ih onward calls haven stack after (low _ _ stack)
    | nil =>
      have top : machine.stack = caller :: base := stack
      obtain ⟨reply, focus⟩ := stays.here.resumes (top ▸ haven)
      rcases step_of_caller calls top focus with ⟨ended, resumes⟩ | ⟨inner, next, stack, same, kept⟩
      · rw [after.eq_zero (Nat.le_of_eq (congrArg List.length ended))]
        exact resumes
      · exact ih onward same (kept haven) stack after (low _ _ stack)

/-- What lies above a haven comes down to it, and then control goes on. -/
theorem StaysInsulated.through_haven (stays : machine.StaysInsulated final steps) {frame : Frame}
    (haven : final.Haven (frame :: base)) (stack : machine.stack = inner ++ frame :: base)
    (returns : machine.Returns base.length steps) :
    ∃ first further reply, steps = first + further ∧
      (machine.run first).stack = frame :: base ∧ (machine.run first).focus = .resume reply ∧
      (machine.run first).StaysInsulated final further ∧
      (machine.run first).Returns base.length further := by
  obtain ⟨first, further, rfl, here, there⟩ :=
    returns.through (Nat.le_succ base.length)
  have top : (machine.run first).stack = frame :: base := Returns.stack here stack
  obtain ⟨reply, focus⟩ := stays.later.here.resumes (top ▸ haven)
  exact ⟨first, further, reply, rfl, top, focus, stays.later, there⟩

/-- A notice of a shielded container goes out, and then control goes on. -/
theorem StaysInsulated.notify_returns (stays : machine.StaysInsulated final steps)
    {notice : Notice} (shielded : final.IsShielded container)
    (stack : machine.stack = inner ++ .notify container notice :: base)
    (returns : machine.Returns base.length steps) :
    (machine.run steps).focus = .resume (.value .null) := by
  obtain ⟨first, further, reply, rfl, top, focus, onward, there⟩ :=
    stays.through_haven (show final.Haven (.notify container notice :: base) from shielded) stack
      returns
  have above : base.length < (machine.run first).stack.length := by simp [top]
  obtain ⟨last, rfl⟩ := there.exists_succ above
  obtain ⟨waiting, dispatches⟩ : ∃ waiting, (machine.run first).step.stack =
      [] ++ .dispatch container notice waiting :: base := by
    rw [step_of_resume top focus]
    exact ⟨_, rfl⟩
  have haven : final.Haven (.dispatch container notice waiting :: base) := shielded
  rw [run_add, run_succ above]
  exact (onward.step (not_isFinished above)).caller_returns rfl haven dispatches
    (there.step above)

/-- A value that is known is answered. -/
theorem yield_returns {value : Value} {reply : Reply} (top : machine.stack = .yield value :: base)
    (focus : machine.focus = .resume reply) (returns : machine.Returns base.length steps) :
    (machine.run steps).focus = .resume (.value value) := by
  have step := step_of_resume top focus
  rw [returns.run_of_pop top (congrArg Machine.stack step), step]
  rfl

/-- Settling an element is over at once, or the teardowns of its key are called first. -/
theorem step_of_settle {key : Key} {reply : Reply}
    (top : machine.stack = .settle container key :: base) (focus : machine.focus = .resume reply) :
    (machine.step.stack = base ∧ ∃ reply, machine.step.focus = .resume reply) ∨
      ∃ waiting, machine.step.stack =
        .teardown (machine.world.realmOf container) key waiting ::
          .yield (.nat waiting.length) :: base := by
  rw [step_of_resume top focus]
  simp only [resume, settle]
  split
  · exact .inl ⟨rfl, _, rfl⟩
  · unfold runTeardowns
    split
    · exact .inl ⟨rfl, _, rfl⟩
    · exact .inr ⟨_, rfl⟩

/-- The teardowns of a key of a shielded list are called, and then the value is answered. -/
theorem StaysInsulated.batch_returns (stays : machine.StaysInsulated final steps)
    {realm : RealmRef} {key : Key} {waiting : List Callback} {value : Value}
    (sheltered : final.Shelters realm key)
    (stack : machine.stack = .teardown realm key waiting :: .yield value :: base)
    (returns : machine.Returns base.length steps) :
    (machine.run steps).focus = .resume (.value value) := by
  obtain ⟨calls, rest, rfl, here, ends⟩ := returns.through (Nat.le_succ base.length)
  have haven : final.Haven (.teardown realm key waiting :: .yield value :: base) := sheltered
  have bare : machine.stack = [] ++ .teardown realm key waiting :: .yield value :: base := stack
  have one : machine.stack = [.teardown realm key waiting] ++ .yield value :: base := stack
  have resumes := stays.sooner.caller_returns rfl haven bare here
  rw [run_add]
  exact yield_returns (Returns.stack here one) resumes ends

/-- An element of a shielded list is settled, and then control goes on. -/
theorem StaysInsulated.settle_returns (stays : machine.StaysInsulated final steps) {key : Key}
    (shielded : final.IsShielded container)
    (stack : machine.stack = inner ++ .settle container key :: base)
    (returns : machine.Returns base.length steps) :
    ∃ reply, (machine.run steps).focus = .resume reply := by
  obtain ⟨first, further, reply, rfl, top, focus, onward, there⟩ :=
    stays.through_haven (show final.Haven (.settle container key :: base) from shielded) stack
      returns
  have above : base.length < (machine.run first).stack.length := by simp [top]
  have sheltered := onward.here.settles container key (by simp [top]) shielded
  obtain ⟨last, rfl⟩ := there.exists_succ above
  have after := there.step above
  rw [run_add, run_succ above]
  rcases step_of_settle top focus with ⟨ended, reply, resumes⟩ | ⟨waiting, tearing⟩
  · rw [after.eq_zero (Nat.le_of_eq (congrArg List.length ended))]
    exact ⟨reply, resumes⟩
  · have still := onward.step (not_isFinished above)
    exact ⟨_, still.batch_returns sheltered tearing after⟩

/-- An operation ends as it stands when nothing else is left of it. -/
theorem operating_returns (top : machine.stack = .operating container :: base)
    (returns : machine.Returns base.length steps) : (machine.run steps).focus = machine.focus := by
  have pops (focus : Focus) (at' : machine.focus = focus) :
      machine.step = { machine with stack := base } := by
    cases focus with
    | resume reply => exact step_of_resume top at'
    | unwind failure => exact step_of_unwind top at'
  have step := pops _ rfl
  rw [returns.run_of_pop top (congrArg Machine.stack step), step]

/-- An operation answers the value that it has known from its first step on. -/
theorem answer_returns {value : Value} {reply : Reply}
    (top : machine.stack = .yield value :: .operating container :: base)
    (focus : machine.focus = .resume reply) (returns : machine.Returns base.length steps) :
    (machine.run steps).focus = .resume (.value value) := by
  obtain ⟨first, further, rfl, here, there⟩ := returns.through (Nat.le_succ base.length)
  have one : machine.stack = [.yield value] ++ .operating container :: base := top
  rw [run_add, operating_returns (Returns.stack here one) there]
  exact yield_returns top focus here

/-- Adding an element to a shielded list ends without a value. -/
theorem insertAt_returns (stack : machine.stack = .operating container :: base) {position : Nat}
    {item : Value} (free : machine.world.isBorrowed container = false)
    (stays : (machine.insertAt container position item).StaysInsulated final steps)
    (shielded : final.IsShielded container)
    (returns : (machine.insertAt container position item).Returns base.length steps) :
    ((machine.insertAt container position item).run steps).focus = .resume (.value .null) := by
  obtain ⟨key, told, announced, begins⟩ : ∃ key told announced,
      (machine.insertAt container position item).stack =
        [told, announced] ++ .settle container key :: .yield .null :: .operating container ::
          base := by
    simp only [insertAt, free, Bool.false_eq_true, if_false]
    exact ⟨_, _, _, congrArg ([_, _, _, _] ++ ·) stack⟩
  obtain ⟨first, further, rfl, here, there⟩ := returns.through (Nat.le_add_right base.length 2)
  obtain ⟨reply, resumes⟩ := stays.sooner.settle_returns shielded begins here
  have top : ((machine.insertAt container position item).run first).stack =
      .yield .null :: .operating container :: base :=
    Returns.stack here (begins.trans (List.append_cons ..))
  rw [run_add]
  exact answer_returns top resumes there

/-- Removing an element of a shielded list ends with the element, if there is one. -/
theorem removeAt_returns (stack : machine.stack = .operating container :: base) {position : Nat}
    (free : machine.world.isBorrowed container = false)
    (stays : (machine.removeAt container position).StaysInsulated final steps)
    (shielded : final.IsShielded container)
    (returns : (machine.removeAt container position).Returns base.length steps) :
    ((machine.removeAt container position).run steps).focus = .resume (.value
      (match (machine.world.container container).items[position]? with
        | none => (machine.world.container container).surface.notFound
        | some item => (machine.world.container container).surface.found item)) := by
  cases found : (machine.world.container container).items[position]? with
  | none =>
    have ends : machine.removeAt container position =
        machine.answer (machine.world.container container).surface.notFound := by
      simp [removeAt, free, found]
    rw [ends] at returns ⊢
    exact operating_returns stack returns
  | some item =>
    obtain ⟨discharged, told, begins⟩ : ∃ discharged told,
        (machine.removeAt container position).stack =
          [discharged, told] ++ .notify container (.removed position) ::
            .yield ((machine.world.container container).surface.found item) ::
              .operating container :: base := by
      simp only [removeAt, free, found, Bool.false_eq_true, if_false]
      exact ⟨_, _, congrArg ([_, _, _, _] ++ ·) stack⟩
    obtain ⟨first, further, rfl, here, there⟩ := returns.through (Nat.le_add_right base.length 2)
    have resumes := stays.sooner.notify_returns shielded begins here
    have top : ((machine.removeAt container position).run first).stack =
        .yield _ :: .operating container :: base :=
      Returns.stack here (begins.trans (List.append_cons ..))
    rw [run_add]
    exact answer_returns top resumes there

/-- A notice of a shielded container that an operation ends with goes out, and the operation ends
with a reply. -/
theorem StaysInsulated.told_returns (stays : machine.StaysInsulated final steps) {notice : Notice}
    (shielded : final.IsShielded container)
    (stack : machine.stack = inner ++ .notify container notice :: .operating container :: base)
    (returns : machine.Returns base.length steps) :
    (machine.run steps).focus = .resume (.value .null) := by
  obtain ⟨first, further, rfl, here, there⟩ := returns.through (Nat.le_succ base.length)
  have resumes := stays.sooner.notify_returns shielded stack here
  have top : (machine.run first).stack = .operating container :: base :=
    Returns.stack here (stack.trans (List.append_cons ..))
  rw [run_add, operating_returns top there]
  exact resumes

end Machine

/-- The frame takes what the setter or predicate of an operation on the container answers. -/
def Frame.asks (container : ContainerRef) : Frame → Bool
  | .store other | .replace other | .verdict other _ _ _ _ => container == other
  | _ => false

/-- The operation has a setter or a predicate. -/
def Script.Operation.asks {Body : Type} : Operation Body → Bool
  | .set .. | .findAndRemove .. => true
  | _ => false

/-- An operation on a container fails by itself. Its frame lies on the base. -/
inductive Machine.FailsOwn (container : ContainerRef) (base : List Frame) (failure : Failure)
    (machine : Machine) : Prop where
  /-- Its setter or predicate has failed. -/
  | asked {locals frame} (asks : frame.asks container = true)
      (stack : machine.stack = .restore locals :: frame :: .operating container :: base)
      (focus : machine.focus = .unwind failure) : FailsOwn container base failure machine
  /-- Its setter has answered what is no list of elements. -/
  | refused {reply error}
      (stack : machine.stack = .replace container :: .operating container :: base)
      (focus : machine.focus = .resume reply) (answer : reply.content.toContents = .error error)
      (same : failure = .thrown (.text error.text)) : FailsOwn container base failure machine

namespace Machine

variable {machine : Machine} {final : World} {steps : Nat} {base inner : List Frame}
  {container : ContainerRef} {failure : Failure} {locals : Variables}

/-- Storing what a setter of a shielded cell answers does not fail. -/
theorem store_returns {value : Value} (stack : machine.stack = .operating container :: base)
    (free : machine.world.isBorrowed container = false)
    (stays : (machine.store container value).StaysInsulated final steps)
    (shielded : final.IsShielded container)
    (returns : (machine.store container value).Returns base.length steps) :
    ((machine.store container value).run steps).focus = .resume (.value .null) := by
  have begins : (machine.store container value).stack =
      [] ++ .notify container .changed :: .operating container :: base := by
    simp only [store, free, Bool.false_eq_true, if_false]
    exact congrArg ([_] ++ ·) stack
  exact stays.told_returns shielded begins returns

/-- Taking what a setter of a shielded list answers fails only if it is no list of elements. -/
theorem replace_returns {value : Value} (stack : machine.stack = .operating container :: base)
    (free : machine.world.isBorrowed container = false)
    (stays : (machine.replace container value).StaysInsulated final steps)
    (shielded : final.IsShielded container)
    (returns : (machine.replace container value).Returns base.length steps)
    (fails : ((machine.replace container value).run steps).focus = .unwind failure) :
    ∃ error, value.toContents = .error error ∧ failure = .thrown (.text error.text) := by
  cases answer : replacement (machine.world.container container).surface value with
  | error error =>
    have refuses : machine.replace container value = machine.throw (.text error.text) := by
      simp only [replace, answer]
    have top : (machine.throw (.text error.text)).stack = .operating container :: base := stack
    rw [refuses] at returns fails
    rw [operating_returns top returns] at fails
    cases fails
    cases surface : (machine.world.container container).surface with
    | direct =>
      rw [surface] at answer
      cases answer
    | shielded =>
      rw [surface] at answer
      exact ⟨error, answer, rfl⟩
  | ok items =>
    obtain ⟨discharged, begins⟩ : ∃ discharged, (machine.replace container value).stack =
        [discharged] ++ .notify container .changed :: .operating container :: base := by
      simp only [replace, answer, free, Bool.false_eq_true, if_false]
      exact ⟨_, congrArg ([_, _] ++ ·) stack⟩
    rw [stays.told_returns shielded begins returns] at fails
    cases fails

/-- A frame that takes an answer is left by a failure as it is. -/
theorem step_of_asks {frame : Frame} (asks : frame.asks container = true)
    (top : machine.stack = frame :: base) (focus : machine.focus = .unwind failure) :
    machine.step = { machine with stack := base } := by
  rw [step_of_unwind top focus]
  cases frame with
  | store | replace | verdict => rfl
  | _ => cases asks

/-- A search goes on with its predicate, or it is over. -/
theorem search_stack (machine : Machine) (container : ContainerRef) (position : Nat)
    (items : List Value) (body : List Action) (test : Expression) :
    machine.search container position items body test =
        machine.answer (machine.world.container container).surface.notFound ∨
      ∃ frames locals rest, (machine.search container position items body test).stack =
        frames ++ .restore locals :: .verdict container position rest body test ::
          machine.stack := by
  cases items with
  | nil => exact .inl rfl
  | cons item rest =>
    refine .inr ⟨.body body :: .answer test ::
      edge (machine.world.container container).surface, machine.locals, rest, ?_⟩
    simp [search, invoke, push, proceed, answer]

/-- An operation on a shielded container whose setter or predicate runs fails only by itself. -/
theorem StaysInsulated.asking_returns (stays : machine.StaysInsulated final steps) {frame : Frame}
    (shielded : final.IsShielded container) (asks : frame.asks container = true)
    (stack : machine.stack = inner ++ .restore locals :: frame :: .operating container :: base)
    (returns : machine.Returns base.length steps)
    (fails : (machine.run steps).focus = .unwind failure) :
    ∃ earlier < steps, (machine.run earlier).FailsOwn container base failure := by
  induction steps using Nat.strongRecOn generalizing machine inner frame locals with
  | ind steps ih =>
    obtain ⟨first, further, rfl, here, there⟩ := returns.through (Nat.le_add_right base.length 2)
    obtain ⟨earlier, before, asked, same⟩ := here.restores stack
    have top : (machine.run first).stack = frame :: .operating container :: base := by rw [same]
    have above : base.length < (machine.run first).stack.length := by simp [top]
    obtain ⟨last, rfl⟩ := there.exists_succ above
    have after := there.step above
    have onward := stays.later.step (not_isFinished above)
    have free := stays.later.here.free container shielded
    rw [run_add, run_succ above] at fails
    cases focus : (machine.run first).focus with
    | unwind cause =>
      have step := step_of_asks asks top focus
      have ends : (machine.run first).step.stack = .operating container :: base :=
        congrArg Machine.stack step
      rw [operating_returns ends after, step] at fails
      exact ⟨earlier, by omega, .asked asks asked ((congrArg Machine.focus same).symm.trans fails)⟩
    | resume reply =>
      obtain ⟨popped, step, bare, free⟩ : ∃ popped : Machine,
          (machine.run first).step = popped.resume frame reply ∧
            popped.stack = .operating container :: base ∧
            popped.world.isBorrowed container = false :=
        ⟨_, step_of_resume top focus, rfl, free⟩
      rw [step] at after onward fails
      cases frame with
      | store other =>
        obtain rfl : container = other := eq_of_beq asks
        cases fails.symm.trans (store_returns bare free onward shielded after)
      | replace other =>
        obtain rfl : container = other := eq_of_beq asks
        obtain ⟨error, answer, same⟩ := replace_returns bare free onward shielded after fails
        exact ⟨first, by omega, .refused top focus answer same⟩
      | verdict other position items body test =>
        obtain rfl : container = other := eq_of_beq asks
        by_cases accepted : reply.content.truthy = true
        · simp only [resume, verdict, accepted, if_true] at after onward fails
          cases fails.symm.trans (removeAt_returns bare free onward shielded after)
        · simp only [resume, verdict, if_neg accepted] at step after onward fails
          rcases popped.search_stack container (position + 1) items body test with
            ends | ⟨frames, locals, rest, begins⟩
          · rw [ends] at after fails
            cases fails.symm.trans (operating_returns bare after)
          · rw [bare] at begins
            have still : (Frame.verdict container (position + 1) rest body test).asks container =
                true := beq_self_eq_true container
            obtain ⟨later, sooner, failing⟩ := ih last (by omega) onward still begins after fails
            refine ⟨first + (later + 1), by omega, ?_⟩
            rw [run_add, run_succ above, step]
            exact failing
      | _ => cases asks

/-- What an operation that puts one element into a shielded list or takes one out comes to. -/
def plainAnswer? (machine : Machine) (container : ContainerRef) :
    Operation (List Action) → Option Value
  | .push _ => some .null
  | .insertAt position _ => some (match (machine.evaluate position).position? with
    | none => .text "badarg"
    | some _ => .null)
  | .pop => some ((machine.world.container container).items.getLast?.getD .undefined)
  | .removeAt position => some (match (machine.evaluate position).position? with
    | none => .text "badarg"
    | some position => ((machine.world.container container).items[position]?).getD .undefined)
  | _ => none

/-- An operation that changes a shielded list by one element comes to what it should. -/
theorem operate_answers (stack : machine.stack = .operating container :: base)
    (surface : machine.world.IsShielded container)
    (free : machine.world.isBorrowed container = false) {operation : Operation (List Action)}
    (stays : (machine.operate container operation).StaysInsulated final steps)
    (shielded : final.IsShielded container)
    (returns : (machine.operate container operation).Returns base.length steps) {value : Value}
    (plain : machine.plainAnswer? container operation = some value) :
    ((machine.operate container operation).run steps).focus = .resume (.value value) := by
  have answers (answer : Value) (returns : (machine.answer answer).Returns base.length steps) :
      ((machine.answer answer).run steps).focus = .resume (.value answer) :=
    operating_returns (show (machine.answer answer).stack = _ from stack) returns
  have removes {position : Nat}
      (stays : (machine.removeAt container position).StaysInsulated final steps)
      (returns : (machine.removeAt container position).Returns base.length steps) :
      ((machine.removeAt container position).run steps).focus = .resume (.value
        (((machine.world.container container).items[position]?).getD .undefined)) := by
    rw [removeAt_returns stack free stays shielded returns, surface]
    cases (machine.world.container container).items[position]? <;> rfl
  cases operation with
  | push item =>
    cases plain
    exact insertAt_returns stack free stays shielded returns
  | insertAt position item =>
    simp only [plainAnswer?, Option.some.injEq] at plain
    subst plain
    simp only [operate, atPosition] at stays returns ⊢
    cases found : (machine.evaluate position).position? with
    | none =>
      rw [found] at returns
      exact answers _ returns
    | some place =>
      rw [found] at stays returns
      exact insertAt_returns stack free stays shielded returns
  | pop =>
    simp only [plainAnswer?, Option.some.injEq] at plain
    subst plain
    simp only [operate, pop] at stays returns ⊢
    rw [List.getLast?_eq_getElem?]
    cases length : (machine.world.container container).items.length with
    | zero =>
      rw [length] at returns
      have none : (machine.world.container container).items = [] :=
        List.eq_nil_of_length_eq_zero length
      rw [none]
      refine Eq.trans (answers _ returns) ?_
      rw [surface]
      rfl
    | succ count =>
      rw [length] at stays returns
      exact removes stays returns
  | removeAt position =>
    simp only [plainAnswer?, Option.some.injEq] at plain
    subst plain
    simp only [operate, atPosition] at stays returns ⊢
    cases found : (machine.evaluate position).position? with
    | none =>
      rw [found] at returns
      exact answers _ returns
    | some place =>
      rw [found] at stays returns
      exact removes stays returns
  | _ => cases plain

/-- An operation on a shielded container that fails has a setter or predicate, and fails by
itself. -/
theorem operate_fails_own (stack : machine.stack = .operating container :: base)
    (surface : machine.world.IsShielded container)
    (free : machine.world.isBorrowed container = false) {operation : Operation (List Action)}
    (known : operation.isKnown .shielded (machine.world.container container).contents.isList = true)
    (stays : (machine.operate container operation).StaysInsulated final steps)
    (shielded : final.IsShielded container)
    (returns : (machine.operate container operation).Returns base.length steps)
    (fails : ((machine.operate container operation).run steps).focus = .unwind failure) :
    operation.asks = true ∧ ∃ earlier < steps,
      ((machine.operate container operation).run earlier).FailsOwn container base failure := by
  have answers {value : Value} {world : World}
      (returns : ((machine.withWorld world).answer value).Returns base.length steps)
      (fails : (((machine.withWorld world).answer value).run steps).focus = .unwind failure) :
      False := by
    have top : ((machine.withWorld world).answer value).stack = .operating container :: base :=
      stack
    cases fails.symm.trans (operating_returns top returns)
  have plainly {value : Value} (plain : machine.plainAnswer? container operation = some value) :
      False := by
    cases fails.symm.trans (operate_answers stack surface free stays shielded returns plain)
  cases operation with
  | push | insertAt | pop | removeAt => exact (plainly rfl).elim
  | set body result =>
    refine ⟨rfl, ?_⟩
    have begins : (machine.operate container (.set body result)).stack =
        [.body body, .answer result] ++ .restore machine.locals ::
          setterTarget container (machine.world.container container).contents ::
            machine.stack := by
      have plain : (machine.world.container container).surface = .shielded := surface
      simp only [operate, set, plain]
      rfl
    have asks : (setterTarget container (machine.world.container container).contents).asks
        container = true := by
      cases (machine.world.container container).contents with
      | cell | list => exact beq_self_eq_true container
    rw [stack] at begins
    exact stays.asking_returns shielded asks begins returns fails
  | findAndRemove body test =>
    refine ⟨rfl, ?_⟩
    rcases machine.search_stack container 0 (machine.world.container container).items body test with
      ends | ⟨frames, locals, rest, begins⟩
    · simp only [operate, ends] at returns fails
      exact (answers returns fails).elim
    · have asks : (Frame.verdict container 0 rest body test).asks container = true :=
        beq_self_eq_true container
      rw [stack] at begins
      exact stays.asking_returns shielded asks begins returns fails
  | borrow body result => cases known
  | keyAt position =>
    simp only [operate, atPosition] at returns fails
    split at returns
    · next none =>
      rw [none] at fails
      exact (answers returns fails).elim
    · next some =>
      rw [some] at fails
      exact (answers returns fails).elim
  | positionOf key => cases known
  | _ => exact (answers returns fails).elim

end Machine

end Observables
