import Observables.Proofs.Chain
import Observables.Proofs.Containment
import Observables.Proofs.Custody
import Observables.Proofs.Performer

/-!
# Failures of callbacks stay behind shields

A shield forgets what a callback throws, and lets through only a failure that
has left a direct call. As long as no such failure comes to a shield, the
operations on shielded containers do what they do without failures, every
dispatch and every run of teardowns serves all that wait, and the keys of
shielded lists are kept as they should be. A single failure that passes a
shield is enough to leave an element added and its subscribers untold.
-/

namespace Observables

open Script

/-- Only containers that exist are shielded. -/
theorem World.IsShielded.lt_size {world : World} {container : ContainerRef}
    (shielded : world.IsShielded container) : container < world.containers.size := by
  rcases Nat.lt_or_ge container world.containers.size with inside | beyond
  · exact inside
  · rw [World.IsShielded, World.container, Table.entry_of_size_le beyond] at shielded
    cases shielded

namespace Machine

/-- What an operation comes to depends on the containers and the variables alone. -/
theorem plainAnswer?_congr {machine other : Machine} (world : other.world = machine.world)
    (locals : other.locals = machine.locals) (container : ContainerRef)
    (operation : Operation (List Action)) :
    other.plainAnswer? container operation = machine.plainAnswer? container operation := by
  have same (expression : Expression) :
      other.evaluate expression = machine.evaluate expression := by
    rw [evaluate, evaluate, world, locals]
  cases operation <;> simp only [plainAnswer?, same, world]

end Machine

namespace Moment

variable {moment next : Moment} {container : ContainerRef} {operation : Operation (List Action)}
  {height steps : Nat}

variable (unpierced : next.IsUnpierced) (heeded : next.heeds withstands steps = true)
  (respects : (next.run steps).RespectsKeys)

include unpierced heeded respects

/-- No failure is in a haven in the steps that withstand it. -/
theorem staysInsulated : next.machine.StaysInsulated (next.run steps).world steps := by
  intro earlier before
  obtain ⟨further, rfl⟩ := Nat.exists_eq_add_of_le before
  have leads : (next.run earlier).Leads (next.run (earlier + further)) := by
    rw [run_add]
    exact leads_run _ _
  rw [← (next.machine_run earlier).1]
  exact (unpierced.run heeded before).isInsulated leads respects

/-- An operation on a shielded container comes to what it should, or fails by itself. -/
theorem Operates.comes_to (operates : moment.Operates container operation height next)
    (reached : moment.IsReached) (shielded : moment.world.IsShielded container)
    (returns : next.machine.Returns height steps) :
    (∀ value, moment.performer.plainAnswer? container operation = some value →
      (next.run steps).machine.focus = .resume (.value value)) ∧
    ∀ failure, (next.run steps).machine.focus = .unwind failure → operation.asks = true ∧
      ∃ base, base.length = height ∧ ∃ earlier < steps,
        (next.machine.run earlier).FailsOwn container base failure := by
  have within := operates.follows.within.trans (leads_run next steps).within
  have stays := staysInsulated unpierced heeded respects
  have still := (within.isShielded_iff shielded.lt_size).mpr shielded
  obtain ⟨begun, base, rfl, stack, world, locals, begins⟩ := operates.begins
  have containers : begun.world.containers = moment.world.containers :=
    (congrArg World.containers world).trans moment.containers_performer
  have same : begun.world.container container = moment.world.container container := by
    rw [World.container, World.container, containers]
  have surface : begun.world.IsShielded container := by
    rw [World.IsShielded, same]
    exact shielded
  have free : begun.world.isBorrowed container = false := by
    rw [World.isBorrowed, same]
    exact reached.free within still
  rw [begins] at stays returns
  rw [(next.machine_run steps).1, begins]
  refine ⟨fun value plain => ?_, fun failure fails => ?_⟩
  · rw [← Machine.plainAnswer?_congr world locals] at plain
    exact Machine.operate_answers stack surface free stays still returns plain
  · have known : operation.isKnown .shielded (begun.world.container container).contents.isList =
        true := by
      obtain ⟨_, _, _, _, known⟩ := operates
      rw [same, ← surface, same]
      exact known
    obtain ⟨asks, earlier, before, failing⟩ :=
      Machine.operate_fails_own stack surface free known stays still returns fails
    exact ⟨asks, base, rfl, earlier, before, failing⟩

/-- A dispatch of a shielded container gives all that wait their turns. -/
theorem dispatch_completes {notice : Notice} {waiting : List SubscriptionRef} {base : List Frame}
    (top : next.machine.stack = .dispatch container notice waiting :: base)
    (shielded : next.world.IsShielded container)
    (returns : next.machine.Returns base.length steps) :
    let turns := next.turnsAt (base.length + 1) steps
    turns.map (·.subscription) = waiting ∧
    next.callsAt (base.length + 1) steps =
      (turns.filter Turning.isLive).map (·.subscription) ∧
    (next.run steps).machine.focus = .resume (.value .null) := by
  intro turns
  have reached := unpierced.isReached
  have stays := staysInsulated unpierced heeded respects
  have still := ((leads_run next steps).within.isShielded_iff shielded.lt_size).mpr shielded
  have haven : (next.run steps).world.Haven (.dispatch container notice waiting :: base) := still
  have bare : next.machine.stack = [] ++ .dispatch container notice waiting :: base := top
  have resumes := stays.caller_returns rfl haven bare returns
  have known (subscription : SubscriptionRef) (inside : subscription ∈ waiting) :
      ∃ made ∈ enrolled next.history, made.subscription = subscription := by
    have due : Frame.dispatch container notice waiting ∈ next.machine.stack := by simp [top]
    obtain ⟨made, there, _, _, same⟩ := reached.attended _ _ _ due subscription inside
    exact ⟨made, there, same⟩
  have serves := dispatch_serves reached bare known returns.2
  rw [← (next.machine_run steps).1] at resumes
  obtain ⟨_, _, _, served⟩ := serves.ends returns.1
  rw [resumes] at served
  exact ⟨served, serves.calls, resumes⟩

/-- A run of the teardowns of a key of a shielded list calls them all. -/
theorem batch_completes {realm : RealmRef} {key : Key} {batch : List Callback} {value : Value}
    {base : List Frame}
    (top : next.machine.stack = .teardown realm key batch :: .yield value :: base)
    (sheltered : (next.run steps).world.Shelters realm key)
    (returns : next.machine.Returns base.length steps) :
    next.machine.callsAt realm key (base.length + 2) steps = batch ∧
      (next.run steps).machine.focus = .resume (.value value) := by
  have stays := staysInsulated unpierced heeded respects
  have resumes := stays.batch_returns sheltered top returns
  have bare : next.machine.stack = [] ++ .teardown realm key batch :: .yield value :: base := top
  obtain ⟨_, ends⟩ := Machine.runEnds_of_waiting bare returns
  rw [resumes] at ends
  rw [(next.machine_run steps).1]
  exact ⟨ends.2, resumes⟩

end Moment

/-- Suppose that up to a moment and in some steps from there no failure passes a shield, that all
teardowns for keys of shielded lists are shielded, and that the script opens none of these keys
itself. Then, whatever callbacks throw and however deep,

* an operation on a shielded container that these steps bring to its end answers what it should
  if it adds or removes one element. Any other fails only if it has a setter or a predicate, and
  then by a failure of this one or because the setter has answered what is no list of elements;
* a dispatch of a shielded container gives a turn to all that wait for one, and calls those that
  have not been ended by then;
* a run of the teardowns of a key of a shielded list calls them all;
* a shielded list has one key for each element;
* once the action is over, no teardown pends for a key that has left a shielded list. -/
theorem failures_stay_behind_shields {next : Moment} {steps : Nat} (unpierced : next.IsUnpierced)
    (heeded : next.heeds Moment.withstands steps = true)
    (respects : (next.run steps).RespectsKeys) :
    let later := next.run steps
    (∀ (moment : Moment) container operation height, moment.IsReached →
      moment.Operates container operation height next → moment.world.IsShielded container →
      next.machine.Returns height steps →
      (∀ value, moment.performer.plainAnswer? container operation = some value →
        later.machine.focus = .resume (.value value)) ∧
      ∀ failure, later.machine.focus = .unwind failure → operation.asks = true ∧
        ∃ base, base.length = height ∧ ∃ earlier < steps,
          (next.machine.run earlier).FailsOwn container base failure) ∧
    (∀ container notice waiting base,
      next.machine.stack = .dispatch container notice waiting :: base →
      next.world.IsShielded container → next.machine.Returns base.length steps →
      let turns := next.turnsAt (base.length + 1) steps
      turns.map (·.subscription) = waiting ∧
      next.callsAt (base.length + 1) steps =
        (turns.filter Turning.isLive).map (·.subscription) ∧
      later.machine.focus = .resume (.value .null)) ∧
    (∀ realm key batch value base,
      next.machine.stack = .teardown realm key batch :: .yield value :: base →
      later.world.Shelters realm key → next.machine.Returns base.length steps →
      next.machine.callsAt realm key (base.length + 2) steps = batch ∧
        later.machine.focus = .resume (.value value)) ∧
    (∀ container, later.world.IsShielded container →
      let held := later.world.container container
      held.keys.inUse.length = held.items.length) ∧
    (later.machine.isFinished = true → ∀ container realm key,
      later.world.IsShielded container → later.world.Owns realm key container →
      key ∉ (later.world.container container).keys.inUse →
      (later.world.realm realm).teardowns.pending key = []) := by
  intro later
  have still : later.IsUnpierced := unpierced.run heeded (Nat.le_refl _)
  refine ⟨fun moment container operation height reached operates shielded returns => ?_,
    fun container notice waiting base top shielded returns => ?_,
    fun realm key batch value base top sheltered returns => ?_,
    fun container shielded => still.isReached.balanced shielded,
    fun finished container realm key shielded owns gone => ?_⟩
  · exact operates.comes_to unpierced heeded respects reached shielded returns
  · exact Moment.dispatch_completes unpierced heeded respects top shielded returns
  · exact Moment.batch_completes unpierced heeded respects top sheltered returns
  · by_contra pends
    exact gone (still.present respects finished shielded owns pends)

/-- An action that makes the empty shielded list L. -/
def shieldedMade : Script.Action :=
  ⟨"list", none, none, .makeList (.literal (.text "L")) (.literal (.list [])) none .shielded⟩

/-- An action that throws a word. -/
def thrown (word : String) : Script.Action :=
  ⟨"throw", none, none, .throw (.literal (.text word))⟩

/-- An action that binds a shielded teardown that throws. -/
def failingRegistered : Script.Action :=
  ⟨"register", none, none, .register none (.literal (.text "t")) .shielded [thrown "torn"]⟩

/-- An action that takes the last element out of the list L. -/
def elementPopped : Script.Action :=
  ⟨"pop", none, some (.literal (.text "L")), .operate .pop⟩

/-- An element has been added to L. Its subscriber has bound a teardown that throws, and has
thrown then. -/
def brittle : Moment :=
  ((((Moment.start false).begin shieldedMade).begin
    (subscribing "L" "s" (some .added) [failingRegistered, thrown "told"])).run 1).begin
    (elementPushed "L") |>.run 17

/-- The action that takes the element out has begun. -/
def brittlePopped : Moment := brittle.begin elementPopped

/-- When the element is taken out its teardown throws, and yet the element is answered, and
nothing pends for its key. -/
theorem failures_stay_behind_shields_pop :
    (brittle.world.realm 0).teardowns.pending ⟨0, 0⟩ ≠ [] ∧
      (brittlePopped.run 16).machine.focus = .resume (.value (.int 1)) ∧
      ((brittlePopped.run 16).world.realm 0).teardowns.pending ⟨0, 0⟩ = [] := by
  have made := ((Moment.IsUnpierced.start false).begin rfl shieldedMade).begin rfl
    (subscribing "L" "s" (some .added) [failingRegistered, thrown "told"])
  have subscribed := made.run rfl (Nat.le_refl 1)
  have pushed := subscribed.begin rfl (elementPushed "L")
  have unpierced : brittle.IsUnpierced := pushed.run rfl (Nat.le_refl 17)
  have respects : (brittlePopped.run 16).RespectsKeys := .of_all rfl
  obtain ⟨operations, _, _, _, settled⟩ :=
    failures_stay_behind_shields (unpierced.begin rfl elementPopped) rfl respects
  have operates : brittle.Operates 0 .pop 0 brittlePopped :=
    ⟨elementPopped, .outermost rfl elementPopped, rfl, rfl, rfl⟩
  have returns : brittlePopped.machine.Returns 0 16 := by
    unfold Machine.Returns
    decide +kernel
  have answers := (operations _ _ _ _ unpierced.isReached operates rfl returns).1
  refine ⟨?_, answers _ rfl, settled rfl 0 0 ⟨0, 0⟩ rfl ⟨rfl, rfl, rfl, ?_⟩ ?_⟩
  · decide
  · decide
  · decide

/-- A subscriber of the direct cell C throws, and a subscriber of the shielded list L stores in
C. -/
def piercing : Moment :=
  (((((((Moment.start false).begin cellMade).begin
    (subscribing "C" "r" none [thrown "deep"])).run 1).begin shieldedMade).begin
    (subscribing "L" "j" (some .added) [numberStored 1])).run 1).begin
    (subscribing "L" "k" (some .added) []) |>.run 1

/-- An element is being added to L. -/
def piercingPushed : Moment := piercing.begin (elementPushed "L")

/-- Operations on shielded lists do not come to what they should whatever is thrown: what has
left the call of a subscriber of a direct cell passes the shield of a subscriber of the list. -/
theorem deep_failures_pass_shields :
    ¬ ∀ (moment next : Moment) container operation height steps, moment.IsReached →
      (next.run steps).RespectsKeys → moment.Operates container operation height next →
      moment.world.IsShielded container → next.machine.Returns height steps →
      ∀ value, moment.performer.plainAnswer? container operation = some value →
        (next.run steps).machine.focus = .resume (.value value) := by
  intro always
  have cell := ((Moment.IsReached.start false).begin rfl cellMade).begin rfl
    (subscribing "C" "r" none [thrown "deep"])
  have list := ((cell.run 1).begin rfl shieldedMade).begin rfl
    (subscribing "L" "j" (some .added) [numberStored 1])
  have reached : piercing.IsReached :=
    ((list.run 1).begin rfl (subscribing "L" "k" (some .added) [])).run 1
  have operates : piercing.Operates 1 (.push (.literal (.int 1))) 0 piercingPushed :=
    ⟨elementPushed "L", .outermost rfl (elementPushed "L"), rfl, rfl, rfl⟩
  have respects : (piercingPushed.run 30).RespectsKeys := .of_all rfl
  have returns : piercingPushed.machine.Returns 0 30 := by
    unfold Machine.Returns
    decide +kernel
  have answered := always _ _ _ _ 0 30 reached respects operates rfl returns _ rfl
  have failed : (piercingPushed.run 30).machine.focus = .unwind (.escaped (.text "deep")) := rfl
  cases failed.symm.trans answered

end Observables
