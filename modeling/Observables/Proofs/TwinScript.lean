import Observables.Proofs.TwinMachine

/-!
# Actions of a container in company and alone

The first step of an action that keeps to the estate of the container does the
same in both runs. Its answer is the same too, unless it tells a number that
containers share.
-/

namespace Observables

open Script

/-- A container that has a name exists. -/
theorem Machine.isAlive_of_name {machine : Machine} {name : String} {container : ContainerRef}
    (named : machine.world.names.find? name = some container) :
    machine.isAlive container = true := by
  have inside : container ∈ machine.world.names.values := by
    obtain ⟨before, after, entries, _⟩ := List.lookup_eq_some_iff.mp named
    unfold Directory.values
    rw [entries]
    exact List.mem_map.mpr ⟨_, List.mem_append_right _ List.mem_cons_self, rfl⟩
  unfold Machine.isAlive
  rw [List.contains_iff_mem.mpr inside, Bool.true_or]

/-- A number is no word. -/
theorem nat_not_mem_words (number : Nat) : Value.nat number ∉ words := by
  unfold words Value.nat
  simp

/-- The description of a handle is no word. -/
theorem describe_not_mem_words (handle : Handle) : Value.text handle.describe ∉ words := by
  have long : 7 < handle.describe.length := by
    unfold Handle.describe
    rw [String.length_append, String.length_append]
    exact Nat.lt_of_lt_of_le (by decide)
      (Nat.le_trans (Nat.le_add_right _ _) (Nat.le_add_right _ _))
  intro inside
  unfold words at inside
  simp only [List.mem_cons, Value.text.injEq, List.not_mem_nil, or_false, reduceCtorEq,
    false_or] at inside
  rcases inside with same | same
  · rw [same] at long
    exact absurd long (by decide)
  · rw [same] at long
    exact absurd long (by decide)

namespace Twin.Stands

variable {twin : Twin} {bond : Bond} {outer : Action} {left right : Machine}

/-- Both go on with numbers that nobody keeps. -/
theorem answer_numbers (stands : twin.Stands bond left right) {value other : Value}
    (one : value ∉ words) (second : other ∉ words) (unkept : veils outer left.stack = true) :
    twin.Machines outer (left.answer value) (right.answer other) :=
  ⟨bond, ⟨stands.worlds, stands.locals, stands.stack⟩, .numbers one second unkept⟩

/-- The container exists in company. -/
theorem alive_here (stands : twin.Stands bond left right) :
    left.isAlive twin.estate.container = true := by
  obtain ⟨name, own⟩ := stands.worlds.named
  exact Machine.isAlive_of_name (stands.worlds.names name own).1

/-- The container exists alone. -/
theorem alive_there (stands : twin.Stands bond left right) :
    right.isAlive twin.other = true := by
  obtain ⟨name, own⟩ := stands.worlds.named
  exact Machine.isAlive_of_name (stands.worlds.names name own).2

/-- Both go on with the same position, or neither is given one. -/
theorem atPosition_corresponds (stands : twin.Stands bond left right) {position : Expression}
    (covers : twin.estate.covers left position = true) {next other : Nat → Machine}
    (goes : ∀ found, twin.Machines outer (next found) (other found)) :
    twin.Machines outer (left.atPosition position next) (right.atPosition position other) := by
  unfold Machine.atPosition
  rw [stands.evaluate_eq covers]
  split
  · exact stands.answer_corresponds rfl
  · exact goes _

/-- Both subscribe a body. A direct container tells the number of the subscription. -/
theorem subscribe_corresponds (stands : twin.Stands bond left right) {tag : Expression}
    (covers : twin.estate.covers left tag = true) (channel : Channel) (body : List Action)
    (unkept : (left.world.container twin.estate.container).surface = .direct →
      veils outer left.stack = true) :
    twin.Machines outer (left.subscribe twin.estate.container tag channel body)
      (right.subscribe twin.other tag channel body) := by
  have worlds := stands.worlds
  have callbacks : twin.Callbacks
      ⟨left.evaluateName tag, (left.world.container twin.estate.container).surface, body,
        left.locals⟩
      ⟨left.evaluateName tag, (left.world.container twin.estate.container).surface, body,
        right.locals⟩ := ⟨rfl, rfl, rfl, stands.locals⟩
  have subscribed := worlds.subscribe channel callbacks
  have handles : twin.Handles
      ((⟨left.world.nextSubscriptionId twin.realm, left.world.subscriptions.size⟩,
        ⟨right.world.nextSubscriptionId twin.realm, right.world.subscriptions.size⟩) :: bond)
      ⟨left.world.nextSubscriptionId twin.realm, twin.estate.container, channel,
        (left.world.container twin.estate.container).surface⟩
      ⟨right.world.nextSubscriptionId twin.realm, twin.other, channel,
        (left.world.container twin.estate.container).surface⟩ :=
    ⟨rfl, rfl, rfl, rfl, _, _, List.mem_cons_self⟩
  unfold Machine.subscribe
  dsimp only
  rw [stands.evaluateName_eq covers, worlds.realmOf, worlds.realm, worlds.surface]
  have kept : twin.Stands _ (left.withWorld _) (right.withWorld _) :=
    ⟨subscribed.keepHandle (left.evaluateName tag) handles, stands.locals,
      stands.stack.imp fun _ _ same => same.mono fun _ inside => List.mem_cons_of_mem _ inside⟩
  cases surface : (left.world.container twin.estate.container).surface with
  | direct =>
    rw [surface] at kept
    exact kept.answer_numbers (nat_not_mem_words _) (nat_not_mem_words _) (unkept surface)
  | shielded =>
    rw [surface] at kept
    exact kept.answer_corresponds rfl

/-- Both carry out an operation that the container knows. -/
theorem operate_corresponds (stands : twin.Stands bond left right)
    {operation : Operation (List Action)}
    (admits : twin.estate.admitsOperation left operation = true)
    (known : operation.isKnown (left.world.container twin.estate.container).surface
      (left.world.container twin.estate.container).contents.isList = true)
    (unkept : (∃ tag channel body, operation = .subscribe tag channel body) →
      (left.world.container twin.estate.container).surface = .direct →
        veils outer left.stack = true) :
    twin.Machines outer (left.operate twin.estate.container operation)
      (right.operate twin.other operation) := by
  have worlds := stands.worlds
  unfold Machine.operate Estate.admitsOperation at *
  cases operation with
  | get | observe => exact stands.answer_corresponds worlds.value
  | borrow body result => exact stands.withBorrow_corresponds body result
  | set body result => exact stands.set_corresponds body result
  | subscribe tag channel body =>
    dsimp only
    rw [worlds.contents]
    exact stands.subscribe_corresponds (Bool.and_eq_true_iff.mp admits).1 _ body
      (unkept ⟨_, _, _, rfl⟩)
  | subscriberCount => exact stands.answer_corresponds (congrArg Value.nat (worlds.size .change))
  | describe => exact stands.answer_corresponds (congrArg Value.text worlds.describe)
  | id => exact stands.answer_corresponds (by rw [worlds.keys])
  | length => exact stands.answer_corresponds (by rw [worlds.items])
  | isEmpty => exact stands.answer_corresponds (by rw [worlds.items])
  | keys => exact stands.answer_corresponds (by rw [worlds.keys])
  | keyAt position =>
    exact stands.atPosition_corresponds admits fun found =>
      stands.answer_corresponds (by rw [worlds.keys])
  | positionOf key =>
    dsimp only
    rw [stands.evaluate_eq admits]
    split
    · exact stands.answer_corresponds rfl
    · exact stands.answer_corresponds (by rw [worlds.keys])
  | push item =>
    unfold Machine.append
    dsimp only
    rw [stands.evaluate_eq admits, worlds.items]
    exact stands.insertAt_corresponds known _ _
  | insertAt position item =>
    obtain ⟨there, what⟩ := Bool.and_eq_true_iff.mp admits
    dsimp only
    rw [stands.evaluate_eq what]
    exact stands.atPosition_corresponds there fun found => stands.insertAt_corresponds known _ _
  | pop => exact stands.pop_corresponds
  | removeAt position =>
    exact stands.atPosition_corresponds admits fun found => stands.removeAt_corresponds found
  | findAndRemove body test =>
    dsimp only
    rw [worlds.items]
    exact stands.search_corresponds 0 _ body test
  | holdsValue | holdsElements | unknown => exact stands.answer_corresponds rfl

/-- Both operate on the container of a name. -/
theorem operateOn_corresponds (stands : twin.Stands bond left right) {subject : String}
    {operation : Operation (List Action)}
    (admits : twin.estate.admitsCommand left subject (.operate operation) = true)
    (unkept : left.tellsNumber subject (.operate operation) = true →
      veils outer left.stack = true) :
    twin.Machines outer (left.operateOn subject operation)
      (right.operateOn subject operation) := by
  have worlds := stands.worlds
  obtain ⟨named, within⟩ := Bool.and_eq_true_iff.mp admits
  obtain ⟨own, _⟩ := Bool.and_eq_true_iff.mp named
  obtain ⟨here, there⟩ := worlds.names subject own
  unfold Machine.operateOn
  rw [here, there]
  dsimp only
  rw [worlds.surface, worlds.contents]
  split
  · next known =>
    refine (stands.pushed (.cons .operating .nil)).operate_corresponds within known ?_
    rintro ⟨tag, channel, body, rfl⟩ surface
    have direct : (left.world.container twin.estate.container).surface = .direct := surface
    refine unkept ?_
    unfold Machine.tellsNumber
    rw [here]
    dsimp only
    rw [direct]
    rfl
  · exact stands.answer_corresponds rfl

/-- The same realm is meant in both runs. -/
theorem realm?_eq (stands : twin.Stands bond left right) {name : Option Expression}
    (covers : twin.estate.coversRealm left name = true) : right.realm? name = left.realm? name := by
  have worlds := stands.worlds
  cases name with
  | none => exact congrArg some worlds.current
  | some name =>
    obtain ⟨within, own⟩ := Bool.and_eq_true_iff.mp covers
    unfold Machine.realm? Machine.realmNamed?
    dsimp only
    rw [stands.evaluateName_eq within, worlds.current, worlds.realmNames]
    split
    · rfl
    · split
      · next starts =>
        rw [starts, Bool.not_true, Bool.false_or] at own
        obtain ⟨here, there⟩ := worlds.names _ own
        unfold Machine.directContainer?
        rw [here, there, Option.filter_some, Option.filter_some, worlds.surface]
        split
        · exact congrArg some worlds.realmOf
        · rfl
      · rfl

/-- Both go on with the same realm, or neither finds it. -/
theorem inRealm_corresponds (stands : twin.Stands bond left right) {name : Option Expression}
    (covers : twin.estate.coversRealm left name = true) {next other : RealmRef → Machine}
    (goes : ∀ realm, left.realm? name = some realm →
      twin.Machines outer (next realm) (other realm)) :
    twin.Machines outer (left.inRealm name next) (right.inRealm name other) := by
  unfold Machine.inRealm
  rw [stands.realm?_eq covers]
  cases found : left.realm? name with
  | none => exact stands.answer_corresponds rfl
  | some realm => exact goes realm found

/-- Both go on with the same key of the container in its realm, or neither is given one. -/
theorem atKey_corresponds (stands : twin.Stands bond left right) {name : Option Expression}
    {key : Expression} (covers : twin.estate.coversKey left name key = true)
    {next other : RealmRef → Key → Machine}
    (goes : ∀ found, twin.number = some found.container →
      twin.Machines outer (next twin.realm found) (other twin.realm found)) :
    twin.Machines outer
      (left.inRealm name fun realm => left.withKeyOf key fun key => next realm key)
      (right.inRealm name fun realm => right.withKeyOf key fun key => other realm key) := by
  have worlds := stands.worlds
  obtain ⟨within, own⟩ := Bool.and_eq_true_iff.mp covers
  obtain ⟨coversRealm, coversKey⟩ := Bool.and_eq_true_iff.mp within
  refine stands.inRealm_corresponds coversRealm fun realm meant => ?_
  unfold Machine.withKeyOf
  rw [stands.evaluate_eq coversKey]
  cases found : (left.evaluate key).key? with
  | none => exact stands.answer_corresponds rfl
  | some key =>
    rw [meant, found] at own
    obtain ⟨same, number⟩ := Bool.and_eq_true_iff.mp own
    obtain rfl : realm = twin.realm := (eq_of_beq same).trans worlds.realm
    exact goes key (worlds.numbered.number.symm.trans (eq_of_beq number))

/-- Both run a limited body, or neither does. -/
theorem limit_corresponds (stands : twin.Stands bond left right) {id : String}
    (own : twin.estate.counters id = true) (times : Nat) (body : List Action) :
    twin.Machines outer (left.limit id times body) (right.limit id times body) := by
  have counted := stands.withWorld
    (stands.worlds.arrive id ((left.world.arrivals.find? id).getD 0 + 1))
  unfold Machine.limit
  rw [stands.worlds.arrivals id own]
  dsimp only
  split
  · exact counted.push_corresponds (.cons (.free rfl) .nil)
  · exact counted.proceed_corresponds

/-- Handles answer the same in both runs, but for their numbers. -/
theorem askHandle_corresponds (stands : twin.Stands bond left right) {name : String}
    (own : twin.estate.handles name = true) {query : HandleQuery}
    (unkept : query = .id ∨ query = .describe → ∀ handle,
      left.world.handles.find? name = some handle → handle.surface = .direct →
        veils outer left.stack = true) :
    twin.Machines outer (left.askHandle name query) (right.askHandle name query) := by
  have worlds := stands.worlds
  have forgotten := stands.withWorld (worlds.forgetHandle name)
  have related := worlds.handles name own
  unfold Machine.askHandle
  generalize here : left.world.handles.find? name = held at related ⊢
  generalize there : right.world.handles.find? name = other at related ⊢
  cases related with
  | none =>
    cases query with
    | forget => exact forgotten.answer_corresponds rfl
    | unsubscribe | id | describe => exact stands.answer_corresponds rfl
  | @some held other same =>
    cases query with
    | forget => exact forgotten.answer_corresponds rfl
    | unsubscribe =>
      obtain ⟨found, ended⟩ := worlds.unsubscribe same
      dsimp only
      rw [same.here, same.there, stands.alive_here, stands.alive_there, same.surface]
      exact (stands.withWorld ended).answer_corresponds (by simp only [if_true, found])
    | id =>
      dsimp only
      rw [same.surface]
      split
      · next direct =>
        exact stands.answer_numbers (nat_not_mem_words _) (nat_not_mem_words _)
          (unkept (.inl rfl) held here direct)
      · exact stands.answer_corresponds rfl
    | describe =>
      dsimp only
      rw [same.surface]
      split
      · next direct =>
        exact stands.answer_numbers (describe_not_mem_words _) (describe_not_mem_words _)
          (unkept (.inr rfl) held here direct)
      · exact stands.answer_corresponds rfl

/-- Realms answer the same in both runs, but for how many keys have teardowns. -/
theorem askRealm_corresponds (stands : twin.Stands bond left right) (realm : RealmRef)
    {query : RealmQuery}
    (allowed : (query == .activeKey || query == .label || query == .tracked) = true)
    (unkept : query = .tracked → veils outer left.stack = true) :
    twin.Machines outer (left.askRealm realm query) (right.askRealm realm query) := by
  have worlds := stands.worlds
  cases query with
  | label =>
    exact stands.answer_corresponds (congrArg (Value.optional .text) (worlds.labels realm))
  | activeKey =>
    exact stands.answer_corresponds (congrArg (Value.optional .key) (worlds.innermost realm))
  | tracked =>
    exact stands.answer_numbers (nat_not_mem_words _) (nat_not_mem_words _) (unkept rfl)
  | nextSubscription | nextContainer | describe => cases allowed

/-- Both bind a teardown to the same key, or neither does. -/
theorem register_corresponds (stands : twin.Stands bond left right) (realm : RealmRef)
    {callback other : Callback} (same : twin.Callbacks callback other) :
    twin.Machines outer
      ((left.withWorld (left.world.register realm callback).2).answer
        (.bool (left.world.register realm callback).1))
      ((right.withWorld (right.world.register realm other).2).answer
        (.bool (right.world.register realm other).1)) := by
  obtain ⟨bound, worlds⟩ := stands.worlds.register realm same
  exact (stands.withWorld worlds).answer_corresponds (congrArg Value.bool bound)

/-- The first step of a command that keeps to the estate is the same in both runs. -/
theorem command_corresponds (stands : twin.Stands bond left right) {subject : String}
    {command : Command (List Action)}
    (admits : twin.estate.admitsCommand left subject command = true)
    (unkept : left.tellsNumber subject command = true → veils outer left.stack = true) :
    twin.Machines outer (left.command subject command) (right.command subject command) := by
  have worlds := stands.worlds
  unfold Machine.command
  cases command with
  | log value =>
    dsimp only
    rw [stands.evaluate_eq admits]
    exact (stands.withWorld (worlds.emit rfl)).proceed_corresponds
  | evaluate value => exact stands.answer_corresponds (stands.evaluate_eq admits)
  | throw value =>
    dsimp only
    rw [stands.evaluate_eq admits]
    exact stands.fail_corresponds _
  | branch condition yes no =>
    dsimp only
    rw [stands.evaluate_eq admits]
    exact stands.push_corresponds (.cons (.free rfl) .nil)
  | limit id times body =>
    obtain ⟨within, own⟩ := Bool.and_eq_true_iff.mp admits
    dsimp only
    rw [stands.evaluateName_eq within]
    exact stands.limit_corresponds own times body
  | attempt body => exact stands.push_corresponds (.cons (.free rfl) (.cons (.free rfl) .nil))
  | realm name query =>
    obtain ⟨within, allowed⟩ := Bool.and_eq_true_iff.mp admits
    exact stands.inRealm_corresponds within fun realm meant =>
      stands.askRealm_corresponds realm allowed fun asked =>
        unkept (asked ▸ Option.isSome_iff_exists.mpr ⟨realm, meant⟩)
  | pending name key =>
    exact stands.atKey_corresponds admits fun found own =>
      stands.answer_corresponds (by rw [(worlds.pending own).length_eq])
  | runTeardowns name key =>
    exact stands.atKey_corresponds admits fun found own => stands.runTeardowns_corresponds own
  | withKey name key body =>
    exact stands.atKey_corresponds admits fun found own =>
      (stands.withWorld (worlds.enter own)).push_corresponds
        (.cons (.free rfl) (.cons (.free rfl) (.cons (.scope own) .nil)))
  | register name tag surface body =>
    obtain ⟨within, covers⟩ := Bool.and_eq_true_iff.mp admits
    refine stands.inRealm_corresponds within fun named _ => ?_
    have callbacks : twin.Callbacks ⟨left.evaluateName tag, surface, body, left.locals⟩
        ⟨left.evaluateName tag, surface, body, right.locals⟩ := ⟨rfl, rfl, rfl, stands.locals⟩
    dsimp only
    rw [stands.evaluateName_eq covers, worlds.current]
    exact stands.register_corresponds _ callbacks
  | handle name query =>
    obtain ⟨both, _⟩ := Bool.and_eq_true_iff.mp admits
    obtain ⟨within, own⟩ := Bool.and_eq_true_iff.mp both
    dsimp only
    rw [stands.evaluateName_eq within]
    refine stands.askHandle_corresponds own fun asks handle found direct => unkept ?_
    have tells : (left.world.handles.find? (left.evaluateName name)).any (·.surface == .direct) =
        true := by
      rw [found, Option.any_some, direct]
      rfl
    rcases asks with rfl | rfl
    · exact tells
    · exact tells
  | operate operation => exact stands.operateOn_corresponds admits unkept
  | openRealm | sameRealm | makeCell | makeList | drop | «alias» => cases admits

/-- The first step of an action that keeps to the estate is the same in both runs. -/
theorem perform_corresponds (stands : twin.Stands bond left right) {action : Action}
    (admits : twin.estate.admits left action = true)
    (unkept : left.tellsNumber (left.subjectName action) action.command = true →
      veils outer left.stack = true) :
    twin.Machines outer (left.perform action) (right.perform action) := by
  obtain ⟨both, allowed⟩ := Bool.and_eq_true_iff.mp admits
  obtain ⟨covers, _⟩ := Bool.and_eq_true_iff.mp both
  have subject : right.subjectName action = left.subjectName action := stands.evaluateName_eq covers
  unfold Machine.perform
  rw [subject]
  exact stands.command_corresponds allowed unkept

end Twin.Stands

end Observables
