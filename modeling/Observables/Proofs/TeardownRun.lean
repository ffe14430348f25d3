import Observables.Proofs.Calls
import Observables.Proofs.Return
import Observables.Proofs.Conservation

/-!
# Runs of teardowns

A run of the teardowns of a key calls those that were pending when it began,
in the order of their registration, and answers how many they were; if it is
left by a failure, it has called the first of them. With the accounts of the
history this settles what becomes of every teardown.
-/

namespace Observables

open Script

namespace Machine

variable {machine : Machine} {base : List Frame} {realm : RealmRef} {key : Key} {steps : Nat}

/-- The teardowns of a key of a realm that are called from a height of the stack. -/
def callsAt (machine : Machine) (realm : RealmRef) (key : Key) (height : Nat) :
    Nat → List Callback
  | 0 => []
  | steps + 1 =>
    (if machine.stack.length = height then machine.deed.enters realm key else []) ++
      machine.step.callsAt realm key height steps

/-- How a run of teardowns ends: it answers a value after all that were waiting
have been called, or it fails after the first of them. -/
def RunEnds (final : Machine) (base : List Frame) (value : Value)
    (called waiting : List Callback) : Prop :=
  final.stack = base ∧ match final.focus with
    | .resume reply => reply = .value value ∧ called = waiting
    | .unwind _ => called <+: waiting

/-- A run that has called one teardown goes on with the others. -/
theorem RunEnds.cons {final : Machine} {value : Value} {called waiting : List Callback}
    (ends : final.RunEnds base value called waiting) (teardown : Callback) :
    final.RunEnds base value (teardown :: called) (teardown :: waiting) := by
  obtain ⟨stack, ends⟩ := ends
  refine ⟨stack, ?_⟩
  cases focus : final.focus with
  | resume reply =>
    simp only [focus] at ends ⊢
    exact ⟨ends.1, by rw [ends.2]⟩
  | unwind failure =>
    simp only [focus] at ends ⊢
    exact (List.prefix_cons_inj teardown).mpr ends

/-- A run whose teardowns have all been called answers, and one that fails fails. -/
theorem runEnds_of_yield {value : Value} {waiting : List Callback}
    (top : machine.stack = .yield value :: base) (returns : machine.Returns base.length steps)
    (all : ∀ reply, machine.focus = .resume reply → waiting = []) :
    (machine.run steps).RunEnds base value
      (machine.callsAt realm key (base.length + 2) steps) waiting := by
  have above : base.length < machine.stack.length := by simp [top]
  have low : machine.stack.length ≠ base.length + 2 := by simp [top]
  obtain ⟨further, rfl⟩ := returns.exists_succ above
  have after := returns.step above
  rw [run_succ above, callsAt, if_neg low, List.nil_append]
  cases focus : machine.focus with
  | resume reply =>
    have next := step_of_resume top focus
    have stack : machine.step.stack = base := by
      rw [next]
      rfl
    rw [after.eq_zero (Nat.le_of_eq (congrArg List.length stack)), run, next, all reply focus]
    exact ⟨rfl, rfl, rfl⟩
  | unwind failure =>
    have next := step_of_unwind top focus
    have stack : machine.step.stack = base := by
      rw [next]
      rfl
    rw [after.eq_zero (Nat.le_of_eq (congrArg List.length stack)), run, next]
    refine ⟨rfl, ?_⟩
    simp only [unwind, focus]
    exact List.nil_prefix

/-- From any moment of a run of teardowns on, those that wait are called in order. -/
theorem runEnds_of_waiting {value : Value} {inner : List Frame} {waiting : List Callback}
    (stack : machine.stack = inner ++ .teardown realm key waiting :: .yield value :: base)
    (returns : machine.Returns base.length steps) :
    (machine.run steps).RunEnds base value
      (machine.callsAt realm key (base.length + 2) steps) waiting := by
  induction steps generalizing machine inner waiting with
  | zero =>
    have above : base.length < machine.stack.length := by
      rw [stack]
      simp
      omega
    exact absurd returns.1 (Nat.not_le_of_lt above)
  | succ steps ih =>
    have above : base.length < machine.stack.length := by
      rw [stack]
      simp
      omega
    have after := returns.step above
    cases inner with
    | cons frame inner =>
      have high : machine.stack.length ≠ base.length + 2 := by
        rw [stack]
        simp
        omega
      obtain ⟨put, next, _⟩ := step_turns (stack.trans (List.cons_append ..))
      rw [run_succ above, callsAt, if_neg high, List.nil_append]
      exact ih (next.trans (List.append_assoc ..).symm) after
    | nil =>
      have top : machine.stack = .teardown realm key waiting :: .yield value :: base := stack
      have here : machine.stack.length = base.length + 2 := by simp [top]
      rw [run_succ above, callsAt, if_pos here]
      cases focus : machine.focus with
      | resume reply =>
        have next := step_of_resume top focus
        cases waiting with
        | nil =>
          have none : machine.deed.enters realm key = [] := by
            simp only [deed, top, focus, resumeDeed, Deed.enters]
          rw [none, List.nil_append]
          refine runEnds_of_yield ?_ after fun _ _ => rfl
          rw [next]
          rfl
        | cons teardown waiting =>
          have deed : machine.deed = .tornDown realm key teardown := by
            simp only [deed, top, focus, resumeDeed]
          have entered : Deed.enters realm key (.tornDown realm key teardown) = [teardown] :=
            if_pos ⟨rfl, rfl⟩
          have inside : machine.step.stack = called teardown.body teardown.surface machine.locals ++
              .teardown realm key waiting :: .yield value :: base := by
            rw [next]
            rfl
          rw [deed, entered, List.singleton_append]
          exact (ih inside after).cons teardown
      | unwind failure =>
        have next := step_of_unwind top focus
        have none : machine.deed.enters realm key = [] := by
          simp only [deed, top, focus, unwindDeed, Deed.enters]
        rw [none, List.nil_append]
        have failing : machine.step.focus = .unwind failure := by
          rw [next]
          exact focus
        refine runEnds_of_yield ?_ after fun reply resumes => ?_
        · rw [next]
          rfl
        · rw [failing] at resumes
          cases resumes

/-- A realm binds a teardown if a key is open there. -/
theorem register_fst (world : World) (realm : RealmRef) (teardown : Callback) :
    (world.register realm teardown).1 = (world.realm realm).activeKey?.isSome := by
  unfold World.register
  split
  · next none => rw [none]; rfl
  · next key some => rw [some]; rfl

/-- A registration answers whether a key was open. -/
theorem command_registered {subject : String} {command : Command (List Action)}
    {active : Option Key} {teardown : Callback}
    (deed : machine.commandDeed subject command = .registered realm active teardown) :
    (machine.command subject command).focus = .resume (.value (.bool active.isSome)) := by
  have does := machine.command_does subject command
  rw [deed] at does
  cases does with
  | @registered named tag surface body found known _ meant =>
    let answers (bound : Bool) : Focus := .resume (.value (.bool bound))
    simp only [command, inRealm, known]
    cases surface with
    | direct =>
      cases meant
      exact congrArg answers (register_fst ..)
    | shielded =>
      cases meant
      exact congrArg answers (register_fst ..)
  | operated _ _ operates => cases operates

/-- Every step that registers a teardown answers whether a key was open. -/
theorem step_registered {active : Option Key} {teardown : Callback}
    (deed : machine.deed = .registered realm active teardown) :
    machine.step.focus = .resume (.value (.bool active.isSome)) := by
  have scripted : machine.deed.isScripted = true := by
    rw [deed]
    rfl
  obtain ⟨action, actions, rest, reply, top, focus⟩ := body_of_isScripted scripted
  rw [step_of_resume top focus]
  simp only [Machine.deed, top, focus] at deed
  exact command_registered deed

/-- A run of the teardowns of a key calls those that were pending when it began, and
answers their number, unless one of them fails. -/
theorem runTeardowns_ends (machine : Machine) (realm : RealmRef) (key : Key) {steps : Nat}
    (returns : (machine.runTeardowns realm key).Returns machine.stack.length steps) :
    let pending := (machine.world.realm realm).teardowns.pending key
    ((machine.runTeardowns realm key).run steps).RunEnds machine.stack (.nat pending.length)
      ((machine.runTeardowns realm key).callsAt realm key (machine.stack.length + 2) steps)
      pending := by
  intro pending
  cases found : (machine.world.realm realm).teardowns.find? key with
  | none =>
    have empty : pending = [] := by simp [pending, TeardownTable.pending, found]
    have answered : machine.runTeardowns realm key = machine.answer (.nat 0) := by
      simp [runTeardowns, World.takeTeardowns, found]
    rw [answered] at returns ⊢
    rw [returns.eq_zero (Nat.le_refl _), empty]
    exact ⟨rfl, rfl, rfl⟩
  | some waiting =>
    have all : pending = waiting := by simp [pending, TeardownTable.pending, found]
    have stack : (machine.runTeardowns realm key).stack =
        [] ++ .teardown realm key waiting :: .yield (.nat waiting.length) :: machine.stack := by
      simp [runTeardowns, World.takeTeardowns, found, push, withWorld, proceed, answer]
    rw [all]
    exact runEnds_of_waiting stack returns

end Machine

/-- The accounts are in order at every moment. -/
theorem Moment.IsReached.accounted {moment : Moment} (reached : moment.IsReached) :
    moment.world.Accounted moment.machine.stack moment.history :=
  World.Accounted.preserved.reached (fun reached => reached.held.sound)
    (fun same sound => sound.alike same) reached

/-- What a registration comes to. -/
theorem Moment.Next.registered {moment next : Moment} (reached : moment.IsReached)
    (follows : moment.Next next) {realm : RealmRef} {active : Option Key} {teardown : Callback}
    (latest : next.history = .registered realm active teardown :: moment.history) :
    active = (moment.world.realm realm).activeKey? ∧
      next.machine.focus = .resume (.value (.bool active.isSome)) ∧
      ∀ key, (next.world.realm realm).teardowns.pending key =
        (moment.world.realm realm).teardowns.pending key ++
          if active = some key then [teardown] else [] := by
  have replies : next.machine.focus = .resume (.value (.bool active.isSome)) := by
    cases follows with
    | step => exact Machine.step_registered (List.cons.inj latest).1
    | begin => exact Machine.command_registered (List.cons.inj latest).1
  obtain ⟨world, rest, taken, put, same, _, _, turn⟩ := follows.turn latest
  refine ⟨?_, replies, fun key => ?_⟩
  · rw [← same.realm]
    cases turn with
    | bound _ _ _ active => exact active.symm
    | refused _ _ inactive => exact inactive.symm
  · have moved := turn.pending (reached.held.sound.alike same) realm key
    rw [same.realm] at moved
    refine moved.symm.trans (congrArg _ ?_)
    cases active with
    | none => rfl
    | some bound => simp [Deed.accepts]

/-- Teardowns are conserved, for every realm and every key, at every moment:

* a registration is refused if no key of the realm is open, and is bound to the
  innermost open key otherwise;
* what was accepted was taken by runs of the key, or is pending after it;
* what was called was taken, and nothing was called twice; each of the calls was made at a
  moment at which the body of the teardown lay over the run of its key;
* once an action is over and if no teardown has failed, what was accepted was
  called or is pending;
* the realm tracks the keys that have pending teardowns;
* a run calls those that were pending when it began, in order, and answers
  their number, or it fails after the first of them; the step of a call puts the
  body of the teardown over the run. -/
theorem teardowns_are_conserved {moment : Moment} (reached : moment.IsReached) (realm : RealmRef)
    (key : Key) :
    let table := (moment.world.realm realm).teardowns
    let accepted := recorded (Deed.accepts realm key) moment.history
    let taken := recorded (Deed.takes realm key) moment.history
    let called := recorded (Deed.enters realm key) moment.history
    (∀ next, moment.Next next → ∀ active teardown,
      next.history = .registered realm active teardown :: moment.history →
      active = (moment.world.realm realm).activeKey? ∧
        next.machine.focus = .resume (.value (.bool active.isSome)) ∧
        (next.world.realm realm).teardowns.pending key =
          table.pending key ++ if active = some key then [teardown] else []) ∧
    accepted = taken ++ table.pending key ∧
    called.Subperm taken ∧
    (∀ teardown past, .tornDown realm key teardown :: past <:+ moment.history →
      ∃ entered : Moment, entered.IsReached ∧ entered.Leads moment ∧
        entered.history = .tornDown realm key teardown :: past ∧
        entered.machine.HasEntered realm key teardown) ∧
    (moment.machine.isFinished = true →
      (∀ waiting, .abandoned (.teardown realm key waiting) ∉ moment.history) →
      accepted.Perm (called ++ table.pending key)) ∧
    table.tracked = {key | table.pending key ≠ []}.ncard ∧
    ∀ machine : Machine,
      (∀ teardown, machine.deed = .tornDown realm key teardown →
        machine.step.HasEntered realm key teardown) ∧
      ∀ steps, (machine.runTeardowns realm key).Returns machine.stack.length steps →
        let pending := (machine.world.realm realm).teardowns.pending key
        ((machine.runTeardowns realm key).run steps).RunEnds machine.stack (.nat pending.length)
          ((machine.runTeardowns realm key).callsAt realm key (machine.stack.length + 2) steps)
          pending := by
  intro table accepted taken called
  have accounted := reached.accounted
  have moved := accounted.taken realm key
  refine ⟨fun next follows active teardown latest => ?_, accounted.accepted realm key, ?_,
    fun teardown past => reached.exists_hasEntered, fun finished calm => ?_,
    (accounted.tables realm).tracked, fun machine => ⟨fun teardown => Machine.hasEntered_step,
      fun steps returns => machine.runTeardowns_ends realm key returns⟩⟩
  · obtain ⟨bound, replies, pending⟩ := follows.registered reached latest
    exact ⟨bound, replies, pending key⟩
  · have among : called.Sublist (called ++ recorded (Deed.drops realm key) moment.history ++
        moment.machine.stack.flatMap (Frame.waits realm key)) := by
      rw [List.append_assoc]
      exact List.sublist_append_left _ _
    exact among.subperm.trans moved.symm.subperm
  · have empty : moment.machine.stack = [] := Machine.stack_eq_nil finished
    have nothing : recorded (Deed.drops realm key) moment.history = [] := by
      rw [recorded, List.flatMap_eq_nil_iff]
      intro deed inside
      have done : deed ∈ moment.history := List.mem_reverse.mp inside
      exact Deed.drops_eq_nil fun waiting same => calm waiting (same ▸ done)
    rw [empty, nothing, List.flatMap_nil, List.append_nil, List.append_nil] at moved
    rw [show accepted = taken ++ table.pending key from accounted.accepted realm key]
    exact moved.append_right _

/-- An action that registers a teardown in the current realm. -/
def registering (tag : String) (body : List Action) : Action :=
  ⟨"register", none, none, .register none (.literal (.text tag)) .direct body⟩

/-- An action that opens the first key of the first list. -/
def keyOpened (body : List Action) : Action :=
  ⟨"with_key", none, none, .withKey none (.literal (.text "0:0")) body⟩

/-- An action that runs the teardowns of the first key of the first list. -/
def teardownsRun : Action :=
  ⟨"run_teardowns", none, none, .runTeardowns none (.literal (.text "0:0"))⟩

/-- After two teardowns have been bound to a key, the first of which binds a third one when it
is called. -/
def teardownsBound : Moment :=
  ((Moment.start false).begin (keyOpened [registering "t" [keyOpened [registering "u" []]],
    registering "v" []])).run 7

/-- After the teardowns of the key have been run. -/
def teardownsCalled : Moment := (teardownsBound.begin teardownsRun).run 17

/-- The two teardowns that were bound first are called in their order, and the third one, which
is bound during the run, is pending after it. -/
theorem teardowns_are_conserved_rebinding :
    let tags := List.map Callback.tag
    let begun := teardownsBound.idle
    let run := begun.runTeardowns 0 ⟨0, 0⟩
    let waiting := (begun.world.realm 0).teardowns.pending ⟨0, 0⟩
    let called := recorded (Deed.enters 0 ⟨0, 0⟩) teardownsCalled.history
    let accepted := recorded (Deed.accepts 0 ⟨0, 0⟩) teardownsCalled.history
    let table := (teardownsCalled.world.realm 0).teardowns
    teardownsCalled.IsReached ∧ teardownsCalled.machine = run.run 17 ∧
      teardownsCalled.machine.focus = .resume (.value (.nat 2)) ∧ tags waiting = ["t", "v"] ∧
      tags called = ["t", "v"] ∧ tags (table.pending ⟨0, 0⟩) = ["u"] ∧
      tags accepted = ["t", "v", "u"] ∧ accepted.Perm (called ++ table.pending ⟨0, 0⟩) ∧
      run.Returns begun.stack.length 17 ∧
      (run.run 17).RunEnds begun.stack (.nat waiting.length)
        (run.callsAt 0 ⟨0, 0⟩ (begun.stack.length + 2) 17) waiting ∧
      table.tracked = {key | table.pending key ≠ []}.ncard := by
  intro tags begun run waiting called accepted table
  have bound : teardownsBound.IsReached :=
    ((Moment.IsReached.start false).begin rfl (keyOpened _)).run 7
  have reached : teardownsCalled.IsReached := (bound.begin rfl teardownsRun).run 17
  obtain ⟨_, _, _, _, conserved, tracked, runs⟩ := teardowns_are_conserved reached 0 ⟨0, 0⟩
  have calm : ∀ waiting, .abandoned (.teardown 0 ⟨0, 0⟩ waiting) ∉ teardownsCalled.history := by
    intro waiting inside
    have none : teardownsCalled.history.all (fun deed => !deed.isFailing) = true := rfl
    cases List.all_eq_true.mp none _ inside
  have returns : run.Returns begun.stack.length 17 := ⟨by decide +kernel, by decide +kernel⟩
  have runs_on : teardownsCalled.machine = run.run 17 :=
    ((teardownsBound.begin teardownsRun).machine_run 17).1
  exact ⟨reached, runs_on, rfl, rfl, rfl, rfl, rfl, conserved rfl calm, returns,
    (runs begun).2 17 returns, tracked⟩

end Observables
