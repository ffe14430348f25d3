import Observables.Proofs.Delivery
import Observables.Proofs.Nesting
import Observables.Proofs.Scopes

/-!
# The chain of open keys

The keys that are open at a moment, in whatever realms, form one chain from the
outermost to the innermost. The chain of entered realms and the open keys of
every realm are two readings of it, the current realm and the open key are
those of its innermost link, and an action leaves it as it was, however the
action ends. While the add subscriptions of a list are told about an element
the innermost link is the key of the element, unless one of them has opened
another one. The other dispatches open no key.
-/

namespace Observables

open Script

/-- The key that a frame keeps open, with its realm. -/
def Frame.scopes : Frame → List (RealmRef × Key)
  | .scope realm key => [(realm, key)]
  | _ => []

/-- The action makes a container and names no realm for it. -/
def Script.Action.isUnplaced (action : Action) : Bool :=
  match action.command with
  | .makeCell _ _ none _ | .makeList _ _ none _ => true
  | _ => false

namespace Moment

/-- The open keys with their realms, innermost first. -/
def chain (moment : Moment) : List (RealmRef × Key) := moment.machine.stack.flatMap Frame.scopes

/-- An action is performed at a moment. It has taken its first step at the next one, and is
over when the stack is down to the height. -/
inductive Performs (moment : Moment) : Action → Nat → Moment → Prop where
  /-- The script goes on with the action. -/
  | outermost (finished : moment.machine.isFinished = true) (action : Action) :
      Performs moment action 0 (moment.begin action)
  /-- A body goes on with the action. -/
  | inside {action actions base reply}
      (stack : moment.machine.stack = .body (action :: actions) :: base)
      (focus : moment.machine.focus = .resume reply) :
      Performs moment action (base.length + 2) moment.step

end Moment

section

variable {world : World} {stack : List Frame}

/-- The realms of the chain are those that frames enter. -/
theorem flatMap_enters (stack : List Frame) :
    stack.flatMap Frame.enters = (stack.flatMap Frame.scopes).map (·.1) := by
  rw [List.map_flatMap]
  refine congrArg (stack.flatMap ·) (funext fun frame => ?_)
  cases frame <;> rfl

/-- The keys of the chain in a realm are those that frames keep open there. -/
theorem flatMap_opens (stack : List Frame) (realm : RealmRef) :
    stack.flatMap (Frame.opens realm) =
      ((stack.flatMap Frame.scopes).filter fun link => link.1 = realm).map (·.2) := by
  induction stack with
  | nil => rfl
  | cons frame stack ih =>
    rw [List.flatMap_cons, List.flatMap_cons, List.filter_append, List.map_append, ih]
    refine congrArg (· ++ _) ?_
    cases frame with
    | scope other key =>
      by_cases same : realm = other
      · simp [Frame.opens, Frame.scopes, same]
      · simp [Frame.opens, Frame.scopes, same, Ne.symm same]
    | _ => rfl

namespace World.Scoped

/-- The current realm is that of the innermost open key, and the first one if none is open. -/
theorem current (chain : world.Scoped stack) :
    world.current = ((stack.flatMap Frame.scopes).head?.map (·.1)).getD 0 := by
  rw [World.current, chain.entered, flatMap_enters]
  cases stack.flatMap Frame.scopes with
  | nil => rfl
  | cons link links => rfl

/-- The open key is the innermost of all. -/
theorem activeKey? (chain : world.Scoped stack) :
    world.activeKey? = (stack.flatMap Frame.scopes).head?.map (·.2) := by
  rw [World.activeKey?, Realm.activeKey?, chain.current, chain.active, flatMap_opens]
  cases stack.flatMap Frame.scopes with
  | nil => rfl
  | cons link links => simp

end World.Scoped

end

/-- A container that has just been made belongs to its realm. -/
theorem World.realmOf_makeContainer (world : World) {name : String} {made : Container}
    {container : ContainerRef} (beyond : world.containers.size ≤ container)
    (inside : container < (world.makeContainer name made).containers.size) :
    (world.makeContainer name made).realmOf container = made.realm := by
  rw [World.eq_size_of_makeContainer world beyond inside, World.realmOf,
    World.container_makeContainer_self]

namespace Machine

/-- An action leaves the frames where they are and puts others on them. -/
theorem perform_stack (machine : Machine) (action : Action) :
    ∃ put, (machine.perform action).stack = put ++ machine.stack := by
  have above : machine.stack = [] ++ machine.stack := rfl
  obtain ⟨put, stack, _⟩ := command_turns above Plain.nil Plain.nil (fun _ => rfl)
    (machine.subjectName action) action.command
  exact ⟨put, stack⟩

/-- A list is made in the realm that is given. -/
theorem realmOf_makeList (machine : Machine) (name : String) (value : Value) (realm : RealmRef)
    (surface : Surface) {container : ContainerRef}
    (beyond : machine.world.containers.size ≤ container)
    (inside : container < (machine.makeList name value realm surface).world.containers.size) :
    (machine.makeList name value realm surface).world.realmOf container = realm := by
  unfold makeList at inside ⊢
  cases contents : value.toContents with
  | error error =>
    rw [contents] at inside
    cases surface with
    | direct => exact absurd inside (Nat.not_lt_of_le beyond)
    | shielded => exact absurd inside (Nat.not_lt_of_le beyond)
  | ok items =>
    rw [contents] at inside
    cases surface with
    | direct => exact World.realmOf_makeContainer _ beyond inside
    | shielded => exact World.realmOf_makeContainer _ beyond inside

/-- A container for which no realm is named belongs to the current one. -/
theorem realmOf_perform (machine : Machine) {action : Action} (unplaced : action.isUnplaced = true)
    {container : ContainerRef} (beyond : machine.world.containers.size ≤ container)
    (inside : container < (machine.perform action).world.containers.size) :
    (machine.perform action).world.realmOf container = machine.world.current := by
  rcases action with ⟨verb, result, subject, command⟩
  cases command with
  | makeCell name value named surface =>
    cases named with
    | some realm => cases unplaced
    | none => exact World.realmOf_makeContainer _ beyond inside
  | makeList name value named surface =>
    cases named with
    | some realm => cases unplaced
    | none => exact machine.realmOf_makeList _ _ _ _ beyond inside
  | _ => cases unplaced

end Machine

namespace Moment

variable {moment after : Moment} {action : Action} {height steps : Nat}

/-- An action puts frames on others that keep the same keys open as before. -/
theorem Performs.stack (performs : moment.Performs action height after) :
    ∃ put rest, after.machine.stack = put ++ rest ∧ rest.length = height ∧
      rest.flatMap Frame.scopes = moment.chain := by
  cases performs with
  | outermost finished =>
    have empty : moment.machine.stack = [] := Machine.stack_eq_nil finished
    refine ⟨_, [], (List.append_nil _).symm, rfl, ?_⟩
    rw [chain, empty]
  | @inside _ actions base reply stack focus =>
    have step := Machine.step_of_resume stack focus
    obtain ⟨put, above⟩ := Machine.perform_stack
      ({ moment.machine with stack := base }.push [.finish action, .body actions]) action
    refine ⟨put, .finish action :: .body actions :: base, ?_, rfl, ?_⟩
    · show moment.machine.step.stack = _
      rw [step]
      exact above
    · rw [chain, stack]
      rfl

/-- When an action is over the chain is as it was before. -/
theorem Performs.chain (performs : moment.Performs action height after)
    (returns : after.machine.Returns height steps) : (after.run steps).chain = moment.chain := by
  obtain ⟨put, rest, stack, rfl, same⟩ := performs.stack
  have below := returns.stack stack
  rw [← (after.machine_run steps).1] at below
  rw [Moment.chain, below, same]

/-- A moment at which an action has taken its first step is reached. -/
theorem Performs.next (performs : moment.Performs action height after) : moment.Next after := by
  cases performs with
  | outermost finished => exact .begin finished action
  | inside stack focus => exact .step (by simp [Machine.isFinished, stack])

/-- A container for which an action names no realm belongs to the current one. -/
theorem Performs.realmOf (performs : moment.Performs action height after)
    (unplaced : action.isUnplaced = true) {container : ContainerRef}
    (beyond : moment.world.containers.size ≤ container)
    (inside : container < after.world.containers.size) :
    after.world.realmOf container = moment.world.current := by
  cases performs with
  | outermost finished => exact moment.idle.realmOf_perform unplaced beyond inside
  | @inside _ actions base reply stack focus =>
    have step := Machine.step_of_resume stack focus
    have same : moment.step.world = (({ moment.machine with stack := base }.push
        [.finish action, .body actions]).perform action).world := congrArg Machine.world step
    rw [same] at inside ⊢
    exact Machine.realmOf_perform _ unplaced beyond inside

/-- The chain of entered realms and the open keys of every realm are read off the chain. -/
theorem IsReached.readings (reached : moment.IsReached) :
    moment.world.entered = moment.chain.map (·.1) ∧
      ∀ realm, (moment.world.realm realm).active =
        (moment.chain.filter fun link => link.1 = realm).map (·.2) := by
  have scopes := reached.scopes
  refine ⟨?_, fun realm => ?_⟩
  · rw [scopes.entered, flatMap_enters, Moment.chain]
  · rw [scopes.active, flatMap_opens, Moment.chain]

/-- A link of the chain was opened by an action, or is the key of an element that is being
announced. -/
theorem IsReached.link (reached : moment.IsReached) {realm : RealmRef} {key : Key}
    (inside : (realm, key) ∈ moment.chain) :
    .opened .asked realm key ∈ moment.history ∨
      ∃ container, .settle container key ∈ moment.machine.stack ∧
        moment.world.realmOf container = realm := by
  obtain ⟨frame, there, opens⟩ := List.mem_flatMap.mp inside
  cases frame with
  | scope other opened =>
    cases List.mem_singleton.mp opens
    rcases reached.nested.scope there with ⟨container, due, _, belongs⟩ | asked
    · exact .inr ⟨container, due, belongs⟩
    · exact .inl asked
  | _ => cases opens

/-- While the add subscriptions of a list are told about an element, its key is the link under
those that have been opened meanwhile. -/
theorem IsReached.announcing (reached : moment.IsReached) {above base : List Frame}
    {container : ContainerRef} {item : Value} {position : Nat} {waiting : List SubscriptionRef}
    (telling : moment.machine.stack =
      above ++ .dispatch container (.added item position) waiting :: base) :
    ∃ key outer, .settle container key ∈ base ∧
      moment.chain = above.flatMap Frame.scopes ++ (moment.world.realmOf container, key) :: outer ∧
      (above.flatMap Frame.scopes = [] →
        moment.world.current = moment.world.realmOf container) := by
  have nested := reached.nested
  rw [telling] at nested
  obtain ⟨_, key, further, rfl⟩ := nested.of_append.1
  have links : moment.chain = above.flatMap Frame.scopes ++
      (moment.world.realmOf container, key) :: further.flatMap Frame.scopes := by
    rw [Moment.chain, telling, List.flatMap_append]
    rfl
  refine ⟨key, _, List.mem_cons_of_mem _ List.mem_cons_self, links, fun none => ?_⟩
  have current : moment.world.current = (moment.chain.head?.map (·.1)).getD 0 :=
    reached.scopes.current
  rw [current, links, none]
  rfl

end Moment

/-- At every moment of every script,

* the chain of entered realms and the open keys of every realm are read off one chain of
  open keys, innermost first;
* the current realm and the open key are those of its innermost link; if no key is open
  the first realm is current;
* every link was opened by an action, or is the key of an element that a list announces;
* while the add subscriptions of a list are told about an element, its key is the link
  under those that have been opened meanwhile, and if there are none the realm of the list
  is current;
* a container for which an action names no realm belongs to the current one;
* when an action is over, the chain and both readings are as they were before it, whether
  it has replied or failed. -/
theorem open_keys_form_a_chain {moment : Moment} (reached : moment.IsReached) :
    let chain := moment.chain
    let stack := moment.machine.stack
    moment.world.entered = chain.map (·.1) ∧
    (∀ realm, (moment.world.realm realm).active =
      (chain.filter fun link => link.1 = realm).map (·.2)) ∧
    moment.world.current = (chain.head?.map (·.1)).getD 0 ∧
    moment.world.activeKey? = chain.head?.map (·.2) ∧
    (∀ realm key, (realm, key) ∈ chain → .opened .asked realm key ∈ moment.history ∨
      ∃ container, .settle container key ∈ stack ∧ moment.world.realmOf container = realm) ∧
    (∀ above container item position waiting base,
      stack = above ++ .dispatch container (.added item position) waiting :: base →
      ∃ key outer, .settle container key ∈ base ∧
        chain = above.flatMap Frame.scopes ++ (moment.world.realmOf container, key) :: outer ∧
        (above.flatMap Frame.scopes = [] →
          moment.world.current = moment.world.realmOf container)) ∧
    ∀ action height next, moment.Performs action height next →
      (action.isUnplaced = true → ∀ container, moment.world.containers.size ≤ container →
        container < next.world.containers.size →
        next.world.realmOf container = moment.world.current) ∧
      ∀ steps, next.machine.Returns height steps →
        (next.run steps).chain = chain ∧
        (next.run steps).world.entered = moment.world.entered ∧
        ∀ realm, ((next.run steps).world.realm realm).active =
          (moment.world.realm realm).active := by
  intro chain stack
  obtain ⟨entered, active⟩ := reached.readings
  refine ⟨entered, active, reached.scopes.current, reached.scopes.activeKey?,
    fun realm key => reached.link, fun above container item position waiting base telling =>
      reached.announcing telling, fun action height next performs => ?_⟩
  refine ⟨fun unplaced container => performs.realmOf unplaced, fun steps returns => ?_⟩
  have same : (next.run steps).chain = moment.chain := performs.chain returns
  have later : (next.run steps).IsReached := (reached.leads (.single performs.next)).run steps
  obtain ⟨enteredAfter, activeAfter⟩ := later.readings
  refine ⟨same, ?_, fun realm => ?_⟩
  · rw [enteredAfter, entered, same]
  · rw [activeAfter, active, same]

/-- An action that makes a realm under the name R. -/
def realmMade : Script.Action :=
  ⟨"runtime", none, none, .openRealm (.literal (.text "R")) none 0⟩

/-- An action that makes an empty list. -/
def emptyMade (list : String) (realm : Option Expression) : Script.Action :=
  ⟨"list", none, none, .makeList (.literal (.text list)) (.literal (.list [])) realm .direct⟩

/-- An action that adds an element to a list. -/
def elementPushed (list : String) : Script.Action :=
  ⟨"push", none, some (.literal (.text list)), .operate (.push (.literal (.int 1)))⟩

/-- The lists L and K of the first realm and the list M of the realm R. An add subscriber of L
adds an element to M, one of M adds an element to K, and one of K makes a list without naming a
realm. -/
def zigzag : Moment :=
  (((((((((Moment.start false).begin realmMade).begin (emptyMade "L" none)).begin
    (emptyMade "M" (some (.literal (.text "R"))))).begin (emptyMade "K" none)).begin
    (subscribing "L" "" (some .added) [elementPushed "M"])).run 1).begin
    (subscribing "M" "" (some .added) [elementPushed "K"])).run 1).begin
    (subscribing "K" "" (some .added) [emptyMade "N" none]) |>.run 1

/-- When the add subscriber of K is about to make its list. -/
def zigzagDue : Moment := (zigzag.begin (elementPushed "L")).run 17

theorem zigzagDue_isReached : zigzagDue.IsReached := by
  have realm := (Moment.IsReached.start false).begin rfl realmMade
  have lists := ((realm.begin rfl (emptyMade "L" none)).begin rfl
    (emptyMade "M" (some (.literal (.text "R"))))).begin rfl (emptyMade "K" none)
  have first := (lists.begin rfl (subscribing "L" "" (some .added) [elementPushed "M"])).run 1
  have second := (first.begin rfl (subscribing "M" "" (some .added) [elementPushed "K"])).run 1
  have third := (second.begin rfl (subscribing "K" "" (some .added) [emptyMade "N" none])).run 1
  exact (third.begin rfl (elementPushed "L")).run 17

/-- The chain goes from the first realm to R and back. Each realm has the keys that are open in
it, and the list that is made now belongs to the realm of the innermost one. -/
theorem open_keys_form_a_chain_zigzag :
    zigzagDue.IsReached ∧ zigzagDue.chain = [(0, ⟨1, 0⟩), (1, ⟨0, 0⟩), (0, ⟨0, 0⟩)] ∧
      zigzagDue.world.entered = [0, 1, 0] ∧
      (zigzagDue.world.realm 0).active = [⟨1, 0⟩, ⟨0, 0⟩] ∧
      (zigzagDue.world.realm 1).active = [⟨0, 0⟩] ∧
      (∃ height, zigzagDue.Performs (emptyMade "N" none) height zigzagDue.step) ∧
      zigzagDue.step.world.containers.size = 4 ∧ zigzagDue.step.world.realmOf 3 = 0 := by
  obtain ⟨entered, active, _, _, _, _, acts⟩ := open_keys_form_a_chain zigzagDue_isReached
  have performs : zigzagDue.Performs (emptyMade "N" none) _ zigzagDue.step := .inside rfl rfl
  have made := (acts _ _ _ performs).1 rfl 3 (Nat.le_refl 3) (Nat.lt_succ_self 3)
  exact ⟨zigzagDue_isReached, rfl, entered, active 0, active 1, ⟨_, performs⟩, rfl, made⟩

/-- The list L of the first realm and the list M of the realm R. An add subscriber of L adds
an element to M, and a change subscriber of M makes a list without naming a realm. -/
def cascade : Moment :=
  ((((((Moment.start false).begin realmMade).begin (emptyMade "L" none)).begin
    (emptyMade "M" (some (.literal (.text "R"))))).begin
    (subscribing "L" "" (some .added) [elementPushed "M"])).run 1).begin
    (subscribing "M" "" (some .change) [emptyMade "N" none]) |>.run 1

/-- When the change subscriber of M is about to make its list. -/
def cascadeDue : Moment := (cascade.begin (elementPushed "L")).run 8

theorem cascadeDue_isReached : cascadeDue.IsReached := by
  have realm := (Moment.IsReached.start false).begin rfl realmMade
  have lists := (realm.begin rfl (emptyMade "L" none)).begin rfl
    (emptyMade "M" (some (.literal (.text "R"))))
  have adds := (lists.begin rfl (subscribing "L" "" (some .added) [elementPushed "M"])).run 1
  have both := (adds.begin rfl (subscribing "M" "" (some .change) [emptyMade "N" none])).run 1
  exact (both.begin rfl (elementPushed "L")).run 8

/-- A list that is made inside a dispatch of M, the innermost one, does not belong to the
realm of M, because the dispatch tells of a change. The current realm is the first one, and
yet a key is open. -/
theorem change_dispatches_enter_no_realm :
    cascadeDue.IsReached ∧
      (∃ above waiting base,
        cascadeDue.machine.stack = above ++ .dispatch 1 .changed waiting :: base ∧
          ∀ frame ∈ above, frame.isCaller = false) ∧
      (∃ height, cascadeDue.Performs (emptyMade "N" none) height cascadeDue.step) ∧
      (emptyMade "N" none).isUnplaced = true ∧
      cascadeDue.world.containers.size = 2 ∧ cascadeDue.step.world.containers.size = 3 ∧
      cascadeDue.step.world.realmOf 2 ≠ cascadeDue.world.realmOf 1 ∧
      cascadeDue.chain.length = 1 ∧ cascadeDue.world.current = 0 := by
  refine ⟨cascadeDue_isReached, ?_, ⟨_, .inside rfl rfl⟩, rfl, rfl, rfl, ?_, rfl, rfl⟩
  · refine ⟨cascadeDue.machine.stack.take 3, [], cascadeDue.machine.stack.drop 4, rfl, ?_⟩
    intro frame inside
    have silent : (cascadeDue.machine.stack.take 3).all (fun frame => !frame.isCaller) = true := rfl
    simpa using List.all_eq_true.mp silent frame inside
  · have first : cascadeDue.step.world.realmOf 2 = 0 := rfl
    have other : cascadeDue.world.realmOf 1 = 1 := rfl
    rw [first, other]
    exact Nat.zero_ne_one

end Observables
