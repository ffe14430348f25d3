import Observables.Proofs.Calls
import Observables.Proofs.Performer
import Observables.Proofs.Service

/-!
# Which keys callbacks see

A callback is called on behalf of an action: of the operation whose dispatch it
is told in, or of the action that runs the teardowns. An add callback sees the
key of the element whose insertion began the operation, and the realm of the
list; every other callback sees the key that was innermost when the action
began, and the realm that was current then. Whatever earlier callbacks have done
or failed at makes no difference.
-/

namespace Observables

open Script

/-- The frames are what an action has left to do itself: an operation on the container, or a
run of teardowns. -/
def Left (target : Option ContainerRef) (frames : List Frame) : Prop :=
  match target with
  | some container => ∃ left, frames = left ++ [.operating container] ∧
      ∀ frame ∈ left, frame.isLeft container = true
  | none => ∃ value, frames = [.yield value]

/-- The frame calls callbacks for an action on the target that began with the deed, and a key is
open for its calls only if an element is announced: the one that the action has inserted. -/
def Frame.CallsFor (world : World) (frame : Frame) (target : Option ContainerRef) (deed : Deed)
    (opened : Option (RealmRef × Key)) : Prop :=
  match frame with
  | .dispatch container (.added item position) _ => target = some container ∧
      ∃ key, opened = some (world.realmOf container, key) ∧
        deed = .inserted container position key item
  | .dispatch container _ _ => target = some container ∧ opened = none
  | .teardown _ _ _ => opened = none
  | _ => False

/-- What an action has left to do keeps no key open. -/
theorem Left.scopes {target : Option ContainerRef} {frames : List Frame}
    (left : Left target frames) : frames.flatMap Frame.scopes = [] := by
  cases target with
  | none =>
    obtain ⟨value, rfl⟩ := left
    rfl
  | some container =>
    obtain ⟨left, rfl, own⟩ := left
    rw [List.flatMap_append, List.append_eq_nil_iff, List.flatMap_eq_nil_iff]
    refine ⟨fun frame inside => ?_, rfl⟩
    have own := own frame inside
    cases frame with
    | scope => cases own
    | _ => rfl

/-- Calling a callback opens no key. -/
theorem scopes_called (body : List Action) (surface : Surface) (locals : Variables) :
    (called body surface locals).flatMap Frame.scopes = [] := by
  cases surface <;> rfl

namespace Moment

/-- What a script sees of the open keys: the current realm and the active key. -/
def sight (moment : Moment) : RealmRef × Option Key :=
  (moment.world.current, moment.world.activeKey?)

/-- What callbacks see that are called for an action which was performed at the moment: the key
that is open for them, or else what the action has seen. -/
def seen (caller : Moment) (opened : Option (RealmRef × Key)) : RealmRef × Option Key :=
  (opened.map fun link => (link.1, some link.2)).getD caller.sight

/-- Some action was performed at an earlier moment over the frames and is in progress. -/
structure Serving (moment : Moment) (target : Option ContainerRef) (deed : Deed)
    (floor : List Frame) (caller first : Moment) : Prop where
  /-- Some script reaches the moment at which the action was performed. -/
  reached : caller.IsReached
  /-- It operates on the container, or runs teardowns. -/
  action : match target with
    | some container => ∃ operation, caller.Operates container operation floor.length first
    | none => ∃ action realm key, caller.Performs action floor.length first ∧
        action.command = .runTeardowns realm key
  /-- It began with the deed. -/
  began : first.history = deed :: caller.history
  /-- It is in progress. -/
  lasts : first.Lasts floor.length moment
  /-- The same keys were open when it was performed. -/
  chain : floor.flatMap Frame.scopes = caller.chain

/-- What is known at a moment of the actions in progress. -/
def account (moment : Moment) : Account :=
  fun target deed floor => ∃ caller first, moment.Serving target deed floor caller first

/-- All frames of the moment lie over what is left of the actions that they serve. -/
def IsServed (moment : Moment) : Prop := Served moment.account moment.machine.stack

/-- The frames beneath a caller of callbacks are, down to those on which its action was performed,
what this action has left to do, under the key that is open for the calls. -/
def Traces (moment : Moment) (frame : Frame) (beneath : List Frame)
    (opened : Option (RealmRef × Key)) (caller first : Moment) : Prop :=
  ∃ target deed left floor,
    beneath = opened.toList.map (fun link => .scope link.1 link.2) ++ (left ++ floor) ∧
    frame.CallsFor moment.world target deed opened ∧ Left target left ∧
    moment.Serving target deed floor caller first

variable {moment next first caller : Moment} {action : Action} {height : Nat}

/-- What is known of an action that is in progress is still known at the next moment. -/
theorem account_step {target : Option ContainerRef} {deed : Deed} {floor : List Frame}
    (above : floor.length < moment.machine.stack.length)
    (known : moment.account target deed floor) : moment.step.account target deed floor := by
  obtain ⟨caller, first, serving⟩ := known
  exact ⟨caller, first, { serving with lasts := serving.lasts.step above }⟩

/-- What is served at a moment is served at the next one, whatever is done with it. -/
theorem served_step {frames : List Frame} (served : Served moment.account frames)
    (below : frames.length ≤ moment.machine.stack.length) :
    Served moment.step.account frames :=
  served.mono fun _ _ _ _ shorter => account_step (Nat.lt_of_lt_of_le shorter below)

/-- An action that is performed leaves frames that serve it. -/
theorem Performs.served (performs : moment.Performs action height next)
    (reached : moment.IsReached) (served : moment.IsServed) : next.IsServed := by
  obtain ⟨machine, begun⟩ := performs.exists_begun
  have lasts : next.Lasts machine.stack.length next := .refl next _
  have performed : next.machine = machine.command (machine.subjectName action) action.command :=
    begun.performs
  have begins : moment.Performs action machine.stack.length next := begun.length ▸ performs
  have beneath : Served next.account machine.stack := by
    rcases begun.stack with ⟨_, empty⟩ | ⟨actions, base, stack, goes, rfl⟩
    · rw [empty]
      exact trivial
    · rw [goes]
      rw [IsServed, stack] at served
      have below : base.length ≤ moment.machine.stack.length := by
        rw [stack]
        exact Nat.le_succ _
      exact ⟨trivial, trivial, served_step served.2 below⟩
  rw [IsServed, performed]
  refine Machine.served_command beneath (fun container operation operates named known => ?_)
    fun realm key runs => ?_
  · rw [begun.find?_subject] at named
    rw [begun.container_eq] at known
    exact ⟨moment, next, reached, ⟨operation, action, begins, operates, named, known⟩,
      begun.history, lasts, begun.chain⟩
  · exact ⟨moment, next, reached, ⟨action, realm, key, begins, runs⟩, begun.history, lasts,
      begun.chain⟩

/-- At every moment the frames serve actions that are in progress. -/
theorem IsReached.served (reached : moment.IsReached) : moment.IsServed := by
  refine reached.induction (fun tracing => trivial) fun moment next reached served follows => ?_
  cases follows with
  | begin finished action => exact (Performs.outermost finished action).served reached served
  | step busy =>
    obtain ⟨frame, rest, top⟩ := Machine.exists_frame busy
    have later := served_step served (Nat.le_refl _)
    rw [top] at later
    let machine : Machine := { moment.machine with stack := rest }
    have left : Served moment.step.account (frame :: machine.stack) := later
    cases focus : moment.machine.focus with
    | unwind failure =>
      have step : moment.step.machine = machine.unwind frame failure :=
        Machine.step_of_unwind top focus
      rw [IsServed, step]
      exact Machine.served_unwind left failure
    | resume reply =>
      by_cases body : ∃ action actions, frame = .body (action :: actions)
      · obtain ⟨action, actions, rfl⟩ := body
        exact (Performs.inside top focus).served reached served
      · have step : moment.step.machine = machine.resume frame reply :=
          Machine.step_of_resume top focus
        rw [IsServed, step]
        exact Machine.served_resume left reply fun action actions same =>
          body ⟨action, actions, same⟩

/-- Every caller of callbacks calls them for an action that is in progress. -/
theorem IsReached.traces (reached : moment.IsReached) {above beneath : List Frame} {frame : Frame}
    (stack : moment.machine.stack = above ++ frame :: beneath) (calls : frame.isCaller = true) :
    ∃ opened caller first, moment.Traces frame beneath opened caller first := by
  have served := reached.served
  have nested := reached.nested
  rw [IsServed, stack] at served
  rw [stack] at nested
  have serves := served.of_append.1
  cases frame with
  | dispatch container notice waiting =>
    cases notice with
    | added item position =>
      obtain ⟨realm, key, further, rfl, remains⟩ := serves
      obtain ⟨_, opened, settling, same⟩ := nested.of_append.1
      obtain ⟨scope, _⟩ := List.cons.inj same
      cases scope
      obtain ⟨left, floor, rfl, own, caller, first, serving⟩ := remains.exists_floor
      exact ⟨some (_, key), caller, first, some container, _, left ++ [.operating container], floor,
        by simp, ⟨rfl, key, rfl, rfl⟩, ⟨left, rfl, own⟩, serving⟩
    | changed | removed =>
      obtain ⟨deed, remains⟩ := serves
      obtain ⟨left, floor, rfl, own, caller, first, serving⟩ := remains.exists_floor
      exact ⟨none, caller, first, some container, deed, left ++ [.operating container], floor,
        by simp, ⟨rfl, rfl⟩, ⟨left, rfl, own⟩, serving⟩
  | teardown realm key waiting =>
    obtain ⟨value, further, rfl, ⟨container, deed, remains⟩ | ⟨deed, caller, first, serving⟩⟩ :=
      serves
    · obtain ⟨left, floor, rfl, own, caller, first, serving⟩ := remains.exists_floor
      exact ⟨none, caller, first, some container, deed,
        .yield value :: left ++ [.operating container], floor, by simp, rfl,
        ⟨.yield value :: left, rfl, List.forall_mem_cons.mpr ⟨rfl, own⟩⟩, serving⟩
    · exact ⟨none, caller, first, none, deed, [.yield value], further, rfl, rfl, ⟨value, rfl⟩,
        serving⟩
  | _ => cases calls

/-- Beneath a caller of callbacks the open keys are those of its action, and perhaps that of the
element that is announced. -/
theorem Traces.scopes {frame : Frame} {beneath : List Frame} {opened : Option (RealmRef × Key)}
    (traces : moment.Traces frame beneath opened caller first) :
    beneath.flatMap Frame.scopes = opened.toList ++ caller.chain := by
  obtain ⟨target, deed, left, floor, rfl, _, own, serving⟩ := traces
  rw [List.flatMap_append, List.flatMap_append, own.scopes, serving.chain, List.nil_append]
  cases opened <;> rfl

/-- What a script sees is the innermost link of the chain; the first realm if there is none. -/
theorem IsReached.sight (reached : moment.IsReached) :
    moment.sight = ((moment.chain.head?.map (·.1)).getD 0, moment.chain.head?.map (·.2)) :=
  Prod.ext reached.scopes.current reached.scopes.activeKey?

/-- The chain of open keys goes on beneath a caller of callbacks with that of its action. -/
theorem Traces.chain {above beneath : List Frame} {frame : Frame}
    {opened : Option (RealmRef × Key)} (traces : moment.Traces frame beneath opened caller first)
    (calls : frame.isCaller = true) (stack : moment.machine.stack = above ++ frame :: beneath) :
    moment.chain = above.flatMap Frame.scopes ++ (opened.toList ++ caller.chain) := by
  have silent : frame.scopes = [] := by
    cases frame with
    | dispatch | teardown => rfl
    | _ => cases calls
  rw [Moment.chain, stack, List.flatMap_append, List.flatMap_cons, silent, traces.scopes,
    List.nil_append]

/-- A frame that calls callbacks for an action says whether a key is open for them. -/
theorem Traces.calls {frame : Frame} {beneath : List Frame} {opened : Option (RealmRef × Key)}
    (traces : moment.Traces frame beneath opened caller first) :
    ∃ target deed, frame.CallsFor moment.world target deed opened := by
  obtain ⟨target, deed, _, _, _, calls, _⟩ := traces
  exact ⟨target, deed, calls⟩

/-- A callback sees the key that is open for it, or else what its action has seen. -/
theorem Traces.sight {above beneath : List Frame} {frame : Frame}
    {opened : Option (RealmRef × Key)} (traces : moment.Traces frame beneath opened caller first)
    (reached : moment.IsReached) (calls : frame.isCaller = true)
    (stack : moment.machine.stack = above ++ frame :: beneath)
    (own : above.flatMap Frame.scopes = []) :
    moment.sight = caller.seen opened := by
  have chain := traces.chain calls stack
  rw [own, List.nil_append] at chain
  obtain ⟨_, _, _, _, _, _, _, serving⟩ := traces
  rw [reached.sight, chain, seen, serving.reached.sight]
  cases opened <;> rfl

/-- A teardown that is registered without naming a realm is bound to the key that the script
sees, in the current realm, or refused if it sees none. -/
theorem Performs.registers (performs : moment.Performs action height next)
    (reached : moment.IsReached) {tag : Expression} {surface : Surface} {body : List Action}
    (registers : action.command = .register none tag surface body) :
    ∃ teardown : Callback, teardown.body = body ∧ teardown.surface = surface ∧
      next.history = .registered moment.sight.1 moment.sight.2 teardown :: moment.history ∧
      next.machine.focus = .resume (.value (.bool moment.sight.2.isSome)) ∧
      ∀ realm key, (next.world.realm realm).teardowns.pending key =
        (moment.world.realm realm).teardowns.pending key ++
          if moment.sight = (realm, some key) then [teardown] else [] := by
  obtain ⟨machine, begun⟩ := performs.exists_begun
  have same := begun.world_eq
  have current : machine.world.current = moment.sight.1 := by rw [same]; rfl
  have active : machine.world.activeKey? = moment.sight.2 := by rw [same]; rfl
  let teardown : Callback := ⟨machine.evaluateName tag, surface, body, machine.locals⟩
  have deed : machine.actionDeed action = .registered moment.sight.1 moment.sight.2 teardown := by
    rw [Machine.actionDeed, registers, ← current, ← active]
    cases surface <;> rfl
  have bound : (machine.world.register machine.world.current teardown).1 =
      moment.sight.2.isSome := by
    rw [← active, World.activeKey?, World.register]
    split
    · next none => rw [none]; rfl
    · next key some => rw [some]; rfl
  have history := begun.history
  rw [deed] at history
  refine ⟨teardown, rfl, rfl, history, ?_, fun realm key => ?_⟩
  · rw [begun.performs, Machine.perform, registers, ← bound]
    cases surface <;> rfl
  · obtain ⟨world, _, _, _, alike, _, _, turn⟩ := performs.next.turn history
    have sound : moment.world.Sound := World.sound_invariant.reached reached
    rw [turn.teardowns (sound.alike alike), alike.realm]
    rcases moment.sight with ⟨here, none | innermost⟩
    · simp [Deed.onTeardowns]
    · rw [Deed.onTeardowns]
      by_cases there : realm = here
      · subst there
        rw [if_pos rfl, TeardownTable.pending_register]
        by_cases same : key = innermost
        · simp [same]
        · simp [same, Ne.symm same]
      · simp [there, Ne.symm there]

end Moment

/-- At every moment of every script,

* a subscriber that has just been called runs directly over its dispatch, and a teardown over the
  run of its key, and no key is open in between;
* every dispatch and every run of teardowns belongs to an action that was performed at an earlier
  moment and is in progress; all that lies between the two is what this action has left to do,
  under the key of the element if the dispatch tells of an addition, which then is the key that
  the action has inserted; so a callback that has opened no other key meanwhile sees this key and
  the realm of the list, and otherwise the realm and the key that its action has seen;
* a teardown that is registered without naming a realm is bound to the key that is seen then, in
  the current realm, and refused if no key is seen. -/
theorem callbacks_see_their_trigger {moment : Moment} (reached : moment.IsReached) :
    (∀ container notice subscription past,
      moment.history = .told container notice subscription :: past →
      ∃ (callback : Callback) (locals : Variables) (waiting : List SubscriptionRef)
        (beneath : List Frame) (opened : Option (RealmRef × Key)) (caller first : Moment),
        moment.machine.stack = called callback.body callback.surface locals ++
          .dispatch container notice waiting :: beneath ∧
        moment.Traces (.dispatch container notice waiting) beneath opened caller first ∧
        moment.sight = caller.seen opened) ∧
    (∀ realm key (teardown : Callback) past,
      moment.history = .tornDown realm key teardown :: past →
      ∃ (locals : Variables) (waiting : List Callback) (beneath : List Frame)
        (caller first : Moment),
        moment.machine.stack = called teardown.body teardown.surface locals ++
          .teardown realm key waiting :: beneath ∧
        moment.Traces (.teardown realm key waiting) beneath none caller first ∧
        moment.sight = caller.sight) ∧
    (∀ above frame beneath, moment.machine.stack = above ++ frame :: beneath →
      frame.isCaller = true →
      ∃ opened caller first, moment.Traces frame beneath opened caller first ∧
        moment.chain = above.flatMap Frame.scopes ++ (opened.toList ++ caller.chain) ∧
        (above.flatMap Frame.scopes = [] → moment.sight = caller.seen opened)) ∧
    ∀ action height next, moment.Performs action height next →
      ∀ tag surface body, action.command = .register none tag surface body →
      ∃ teardown : Callback, teardown.body = body ∧ teardown.surface = surface ∧
        next.history = .registered moment.sight.1 moment.sight.2 teardown :: moment.history ∧
        next.machine.focus = .resume (.value (.bool moment.sight.2.isSome)) ∧
        ∀ realm key, (next.world.realm realm).teardowns.pending key =
          (moment.world.realm realm).teardowns.pending key ++
            if moment.sight = (realm, some key) then [teardown] else [] := by
  refine ⟨fun container notice subscription past latest => ?_,
    fun realm key teardown past latest => ?_, fun above frame beneath stack calls => ?_,
    fun action height next performs tag surface body registers =>
      performs.registers reached registers⟩
  · obtain ⟨callback, locals, waiting, beneath, stack⟩ := reached.told_stack latest
    obtain ⟨opened, caller, first, traces⟩ := reached.traces stack rfl
    exact ⟨callback, locals, waiting, beneath, opened, caller, first, stack, traces,
      traces.sight reached rfl stack (scopes_called _ _ _)⟩
  · obtain ⟨locals, waiting, beneath, stack⟩ := reached.hasEntered latest
    obtain ⟨opened, caller, first, traces⟩ := reached.traces stack rfl
    obtain ⟨target, deed, rfl⟩ := traces.calls
    exact ⟨locals, waiting, beneath, caller, first, stack, traces,
      traces.sight reached rfl stack (scopes_called _ _ _)⟩
  · obtain ⟨opened, caller, first, traces⟩ := reached.traces stack calls
    exact ⟨opened, caller, first, traces, traces.chain calls stack,
      traces.sight reached calls stack⟩

/-- The change subscriber of M is called on behalf of an add subscriber of L, and sees the key of
the element that was added to L. -/
theorem callbacks_see_their_trigger_cascade :
    cascadeDue.IsReached ∧ cascadeDue.sight = (0, some ⟨0, 0⟩) ∧
      ∃ (callback : Callback) (locals : Variables) (waiting : List SubscriptionRef)
        (beneath : List Frame) (opened : Option (RealmRef × Key)) (caller first : Moment),
        cascadeDue.machine.stack = called callback.body callback.surface locals ++
          .dispatch 1 .changed waiting :: beneath ∧
        cascadeDue.Traces (.dispatch 1 .changed waiting) beneath opened caller first ∧
        cascadeDue.sight = caller.seen opened := by
  have sees := callbacks_see_their_trigger cascadeDue_isReached
  exact ⟨cascadeDue_isReached, rfl, sees.1 1 .changed 1 cascadeDue.history.tail rfl⟩

end Observables
