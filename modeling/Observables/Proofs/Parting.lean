import Observables.Proofs.Filing

/-!
# Ending subscriptions

A handle is of one subscription. An order to end it succeeds exactly if the
container still exists and the handle has not been used with success before, and
then it ends this subscription and changes nothing else; an order that does not
succeed changes nothing at all. So the subscriptions of a channel are at every
moment those that were made on it without those that were ended by their handles.
-/

namespace Observables

open Script

section

variable {world : World} {history : List Deed} {handle : Handle} {made : Enrolment}

/-- Using a handle with success takes its subscription off its channel, and no other. -/
theorem World.Enrolled.registered_erase (enrolment : world.Enrolled history)
    (listed : made ∈ registered handle.container handle.channel history)
    (number : made.id = handle.id) (container : ContainerRef) (channel : Channel) :
    registered container channel (.unsubscribed handle :: history) =
      (registered container channel history).erase made := by
  obtain ⟨known, sameContainer, sameChannel, _⟩ := mem_registered.mp listed
  have nodup : (registered container channel history).Nodup := by
    have rows : ((enrolled history).map (·.subscription)).Nodup := by
      rw [enrolment.rows]
      exact List.nodup_range
    exact (List.Nodup.of_map _ rows).sublist List.filter_sublist
  rw [registered_unsubscribed, nodup.erase_eq_filter]
  refine List.filter_congr fun other there => ?_
  have inside := (mem_registered.mp there).1
  have only : (Deed.unsubscribed handle).ends other = true ↔ other = made := by
    constructor
    · intro ends
      obtain ⟨container, _, id⟩ := of_decide_eq_true ends
      exact enrolment.eq_of_id inside known (container.symm.trans sameContainer.symm)
        (id.symm.trans number.symm)
    · rintro rfl
      exact decide_eq_true ⟨sameContainer.symm, sameChannel.symm, number.symm⟩
  rw [Bool.eq_iff_iff, Bool.not_eq_true', ← Bool.not_eq_true, only, bne_iff_ne]

/-- The deed subscribes to a channel. -/
def Deed.joins (container : ContainerRef) (channel : Channel) : Deed → Bool
  | .subscribed other named _ _ => container = other ∧ channel = named
  | _ => false

/-- The deed ends a subscription to a channel. -/
def Deed.parts (container : ContainerRef) (channel : Channel) : Deed → Bool
  | .unsubscribed handle => container = handle.container ∧ channel = handle.channel
  | _ => false

/-- As many are registered as subscribed and were not ended. -/
def Balanced (history : List Deed) : Prop :=
  ∀ container channel, (registered container channel history).length +
    history.countP (Deed.parts container channel) = history.countP (Deed.joins container channel)

/-- Subscribing keeps the balance. -/
theorem Balanced.subscribed (balanced : Balanced history) {new : Enrolment}
    (fresh : new.isEnded history = false) :
    Balanced (.subscribed new.container new.channel new.id new.subscription :: history) := by
  intro container channel
  have before := balanced container channel
  rw [registered_subscribed fresh, List.length_append, List.countP_cons, List.countP_cons]
  by_cases here : container = new.container ∧ channel = new.channel
  · simp [Deed.parts, Deed.joins, here] at before ⊢
    omega
  · simp [Deed.parts, Deed.joins, here] at before ⊢
    omega

/-- Ending a subscription that is registered keeps the balance. -/
theorem Balanced.unsubscribed (balanced : Balanced history) (enrolment : world.Enrolled history)
    (listed : made ∈ registered handle.container handle.channel history)
    (number : made.id = handle.id) : Balanced (.unsubscribed handle :: history) := by
  intro container channel
  have before := balanced container channel
  obtain ⟨known, sameContainer, sameChannel, active⟩ := mem_registered.mp listed
  rw [enrolment.registered_erase listed number, List.countP_cons, List.countP_cons]
  by_cases here : container = handle.container ∧ channel = handle.channel
  · obtain ⟨rfl, rfl⟩ := here
    rw [List.length_erase_of_mem listed]
    have some := List.length_pos_of_mem listed
    simp [Deed.parts, Deed.joins] at before ⊢
    omega
  · have elsewhere : made ∉ registered container channel history := by
      intro there
      obtain ⟨_, otherContainer, otherChannel, _⟩ := mem_registered.mp there
      exact here ⟨otherContainer.symm.trans sameContainer, otherChannel.symm.trans sameChannel⟩
    rw [List.erase_of_not_mem elsewhere]
    simp [Deed.parts, Deed.joins, here] at before ⊢
    omega

/-- What neither makes nor ends a subscription keeps the balance. -/
theorem Balanced.other (balanced : Balanced history) {deed : Deed} (none : deed.enrolments = [])
    (nothing : ∀ made, deed.ends made = false) : Balanced (deed :: history) := by
  intro container channel
  have same : registered container channel (deed :: history) =
      registered container channel history := by
    have still (made : Enrolment) : made.isEnded (deed :: history) = made.isEnded history := by
      rw [Enrolment.isEnded, List.any_cons, nothing, Bool.false_or]
      rfl
    simp only [registered, enrolled_cons, none, List.append_nil, still]
  have joins : deed.joins container channel = false := by
    cases deed <;> first | rfl | cases none
  have parts : deed.parts container channel = false := by
    cases deed with
    | unsubscribed handle =>
      have ends := nothing ⟨handle.container, handle.channel, handle.id, 0⟩
      simp [Deed.ends] at ends
    | _ => rfl
  rw [same, List.countP_cons, List.countP_cons, joins, parts]
  exact balanced container channel

/-- A handle can be used exactly if its number is registered on its channel. -/
theorem World.Enrolled.unsubscribe_iff (enrolment : world.Enrolled history) (handle : Handle) :
    (world.unsubscribe handle).1 = true ↔
      ∃ made ∈ registered handle.container handle.channel history, made.id = handle.id := by
  have found := Switchboard.unsubscribe_fst (world.board handle.container handle.channel) handle.id
  have answers : (world.unsubscribe handle).1 =
      (((world.container handle.container).registry handle.channel).find? handle.id).isSome := found
  have listed := Registry.mem_ids ((world.container handle.container).registry handle.channel)
    handle.id
  rw [answers, Option.isSome_iff_exists, ← listed, Registry.ids, enrolment.entries, List.map_map,
    List.mem_map]
  rfl

/-- Using a handle with success switches its subscription off and takes it out of the registry,
and changes nothing else. -/
theorem World.Enrolled.unsubscribe_snd (enrolment : world.Enrolled history)
    (success : (world.unsubscribe handle).1 = true) :
    ∃ made ∈ registered handle.container handle.channel history, made.id = handle.id ∧
      (world.unsubscribe handle).2 = world.setBoard handle.container handle.channel
        ⟨world.subscriptions.modify made.subscription Subscription.deactivate,
          ((world.container handle.container).registry handle.channel).erase handle.id⟩ := by
  obtain ⟨subscription, inside, after⟩ := World.unsubscribe_eq success
  rw [enrolment.entries, List.mem_map] at inside
  obtain ⟨made, listed, entry⟩ := inside
  have number : made.id = handle.id := congrArg (·.id) entry
  have row : made.subscription = subscription := congrArg (·.subscription) entry
  exact ⟨made, listed, number, row ▸ after⟩

/-- The subscriptions of a channel are those that were made without those that were ended. -/
theorem Balanced.preserved :
    Preserved (fun world _ history => world.Sound ∧ world.Enrolled history)
      fun _ _ history => Balanced history where
  first _ _ _ := rfl
  alike _ balanced := balanced
  turn := by
    intro world _ _ _ _ _ _ ⟨sound, enrolment⟩ balanced _ turn
    rcases turn.subscriptions with ⟨none, nothing, _⟩ |
      ⟨_, container, channel, _, _, rfl, _⟩ | ⟨handle, rfl, success, _⟩
    · exact balanced.other none nothing
    · let new : Enrolment := ⟨container, channel,
        world.nextSubscriptionId (world.realmOf container), world.subscriptions.size⟩
      have fresh : new.isEnded _ = false := enrolment.not_isEnded_of_le (Nat.le_refl _)
      exact balanced.subscribed fresh
    · obtain ⟨made, listed, number, _⟩ := enrolment.unsubscribe_snd success
      exact balanced.unsubscribed enrolment listed number

end

namespace Moment

variable {moment after : Moment} {handle : Handle}

/-- The subscriptions of a channel are balanced at every moment. -/
theorem IsReached.registersBalance (reached : moment.IsReached) : Balanced moment.history :=
  Balanced.preserved.reached
    (fun reached => ⟨World.sound_invariant.reached reached, reached.enrolled⟩)
    (fun same known => ⟨known.1.alike same, known.2.alike same⟩) reached

/-- A handle that was issued can be used exactly if it has not been used yet. -/
theorem IsReached.unsubscribe_iff (reached : moment.IsReached) (issued : moment.Issued handle) :
    (moment.world.unsubscribe handle).1 = true ↔ .unsubscribed handle ∉ moment.history := by
  have enrolment := reached.enrolled
  obtain ⟨made, known, rfl⟩ := issued
  rw [enrolment.unsubscribe_iff]
  constructor
  · rintro ⟨other, listed, number⟩ used
    obtain ⟨there, container, _, active⟩ := mem_registered.mp listed
    have same : other = made := enrolment.eq_of_id there known container number
    have ended : made.isEnded moment.history = true :=
      Enrolment.isEnded_iff.mpr ⟨_, used, rfl, rfl, rfl⟩
    rw [same, ended] at active
    cases active
  · intro unused
    refine ⟨made, mem_registered.mpr ⟨known, rfl, rfl, ?_⟩, rfl⟩
    by_contra ended
    rw [Bool.not_eq_false, Enrolment.isEnded_iff] at ended
    obtain ⟨other, used, container, _, number⟩ := ended
    obtain ⟨first, there, rfl⟩ := reached.filed.used other used
    have same : first = made := enrolment.eq_of_id there known container number
    rw [same] at used
    exact unused used

end Moment

/-- What an order to end a subscription is answered. A shielded container keeps it to itself. -/
def Handle.reply (handle : Handle) (found : Bool) : Value :=
  match handle.surface with
  | .direct => .bool found
  | .shielded => .undefined

/-- An order to end a subscription succeeds if its container exists and its handle can be used;
otherwise it changes nothing. -/
theorem Machine.askHandle_unsubscribe {machine : Machine} {name : String} {handle : Handle}
    (found : machine.world.handles.find? name = some handle) :
    machine.askHandle name .unsubscribe =
      if machine.isAlive handle.container && (machine.world.unsubscribe handle).1 then
        (machine.withWorld (machine.world.unsubscribe handle).2).answer (handle.reply true)
      else machine.answer (handle.reply false) := by
  unfold askHandle
  rw [found]
  dsimp only
  cases machine.isAlive handle.container with
  | false => rfl
  | true =>
    show (machine.withWorld (machine.world.unsubscribe handle).2).answer
      (handle.reply (machine.world.unsubscribe handle).1) = _
    cases success : (machine.world.unsubscribe handle).1 with
    | true => rfl
    | false =>
      rw [unsubscribe_of_false success]
      rfl

/-- From one moment to another one subscription is ended: it leaves the registry of its channel
and is switched off. Every other registry, every other subscription and the rest of the world
stay as they are. -/
structure Moment.Loses (moment : Moment) (made : Enrolment) (after : Moment) : Prop where
  /-- The subscription was registered. -/
  listed : made ∈ registered made.container made.channel moment.history
  /-- No other subscription of any channel is ended. -/
  registered : ∀ container channel, registered container channel after.history =
    (registered container channel moment.history).erase made
  /-- Only the registry of its channel changes. -/
  container : ∀ container, after.world.container container =
    if container = made.container then
      (moment.world.container container).setRegistry made.channel
        (((moment.world.container container).registry made.channel).erase made.id)
    else moment.world.container container
  /-- Only the subscription is switched off. -/
  subscriptions : ∀ row, after.world.subscriptions.get? row =
    if row = made.subscription then
      (moment.world.subscriptions.get? row).map Subscription.deactivate
    else moment.world.subscriptions.get? row
  /-- Nothing else changes. -/
  rest : after.world = { moment.performer.world with
    containers := after.world.containers, subscriptions := after.world.subscriptions }

namespace Moment

variable {moment after : Moment} {handle : Handle} {action : Action} {height : Nat}

/-- Using a handle with success ends its subscription and nothing else. -/
theorem IsReached.loses (reached : moment.IsReached) (issued : moment.Issued handle)
    {machine : Machine} (begun : moment.Begun action height after machine)
    (success : (machine.world.unsubscribe handle).1 = true)
    (world : after.world = (machine.world.unsubscribe handle).2)
    (history : after.history = .unsubscribed handle :: moment.history) :
    ∃ made, handle = made.handle moment.world ∧ moment.Loses made after := by
  have alike : moment.world.Alike machine.world := by
    rw [begun.world_eq]
    exact .of_eq rfl rfl rfl rfl rfl rfl
  have enrolment := reached.enrolled
  obtain ⟨made, listed, number, ended⟩ := (enrolment.alike alike).unsubscribe_snd success
  obtain ⟨known, container, channel, _⟩ := mem_registered.mp listed
  have own : handle = made.handle moment.world := by
    obtain ⟨first, there, rfl⟩ := issued
    rw [enrolment.eq_of_id known there container number]
  rw [own] at listed history
  have inside := (enrolment.drawn made known).1
  refine ⟨made, own, listed, fun container channel => ?_, fun other => ?_, fun row => ?_, ?_⟩
  · rw [history]
    exact enrolment.registered_erase listed rfl container channel
  · have there : handle.container < machine.world.containers.size := by
      rw [own, alike.containers]
      exact inside
    have changed := World.container_modify there other fun held => held.setRegistry handle.channel
      (((machine.world.container handle.container).registry handle.channel).erase handle.id)
    rw [world, ended]
    refine changed.trans ?_
    rw [alike.container, alike.container, own]
    split
    · next same =>
      rw [same]
      exact (if_pos rfl).symm
    · next apart => exact (if_neg apart).symm
  · have changed := Table.get?_modify moment.world.subscriptions made.subscription row
      Subscription.deactivate
    rw [world, ended]
    show (machine.world.subscriptions.modify _ _).get? row = _
    rw [alike.subscriptions, changed]
    simp only [eq_comm (a := row)]
  · rw [world, ended, ← begun.world]
    rfl

/-- The handles of a moment are of one subscription each. -/
theorem IsReached.existsUnique_of_handle (reached : moment.IsReached) {name : String}
    (found : moment.world.handles.find? name = some handle) :
    ∃! made : Enrolment, made ∈ Observables.enrolled moment.history ∧
      handle = made.handle moment.world := by
  obtain ⟨made, known, rfl⟩ := reached.filed.kept name handle found
  refine ⟨made, ⟨known, rfl⟩, fun other ⟨there, same⟩ => ?_⟩
  exact (reached.enrolled.eq_of_id known there (congrArg (·.container) same)
    (congrArg (·.id) same)).symm

/-- A registry holds as many subscriptions as were made on its channel without those that were
ended. -/
theorem IsReached.size_registry (reached : moment.IsReached) (container : ContainerRef)
    (channel : Channel) :
    ((moment.world.container container).registry channel).size +
      moment.history.countP (Deed.parts container channel) =
        moment.history.countP (Deed.joins container channel) := by
  rw [Registry.size, reached.enrolled.entries, List.length_map]
  exact reached.registersBalance container channel

/-- What an action that subscribes or unsubscribes does is an action's first step. -/
theorem Next.exists_enrols (follows : moment.Next after) {deed : Deed}
    (latest : after.history = deed :: moment.history) (enrolling : deed.isEnrolling = true) :
    ∃ action height machine, moment.Performs action height after ∧
      moment.Begun action height after machine ∧
      machine.Enrols (machine.subjectName action) action.command deed := by
  rcases follows.performs_or with ⟨action, height, performs⟩ | ⟨_, _, other, history, quiet⟩
  · obtain ⟨machine, begun⟩ := performs.exists_begun
    have enrols := machine.command_enrols (machine.subjectName action) action.command
    obtain ⟨same, _⟩ := List.cons.inj (begun.history.symm.trans latest)
    rw [← Machine.actionDeed, same] at enrols
    exact ⟨action, height, machine, performs, begun, enrols⟩
  · obtain ⟨rfl, _⟩ := List.cons.inj (history.symm.trans latest)
    cases other with
    | subscribed | unsubscribed => cases quiet
    | _ => cases enrolling

end Moment

/-- What becomes of an order to end the subscription of a handle. It succeeds exactly if the
container still exists and the handle has not been used with success before. -/
structure Moment.Obeys (moment : Moment) (handle : Handle) (after : Moment) (found : Bool) :
    Prop where
  /-- When it succeeds. -/
  found_iff : found = true ↔
    ((∃ name, moment.world.names.find? name = some handle.container) ∨
      .operating handle.container ∈ moment.machine.stack) ∧
    .unsubscribed handle ∉ moment.history
  /-- What it is answered. -/
  reply : after.machine.focus = .resume (.value (handle.reply found))
  /-- If it succeeds it ends the subscription of the handle. -/
  ended : found = true → after.history = .unsubscribed handle :: moment.history ∧
    ∃ made, handle = made.handle moment.world ∧ moment.Loses made after
  /-- If it does not succeed it changes nothing. -/
  kept : found = false → after.history = .quiet :: moment.history ∧
    after.world = moment.performer.world

/-- What becomes of a subscription to a container with a name. -/
structure Moment.Issues (moment : Moment) (handle : Handle) (name : String) (after : Moment) :
    Prop where
  /-- The subscription is on record under the number of its handle. -/
  history : after.history = .subscribed handle.container handle.channel handle.id
    moment.world.subscriptions.size :: moment.history
  /-- The handle is kept under its name, unless that is empty. -/
  handles : after.world.handles = (moment.world.keepHandle name handle).handles
  /-- The handle is of a subscription that was not made before. -/
  fresh : ∀ made ∈ enrolled moment.history, handle ≠ made.handle moment.world

namespace Moment

variable {moment after : Moment} {handle : Handle} {action : Action} {height : Nat}

/-- An order to a handle becomes what it should. -/
theorem IsReached.obeys (reached : moment.IsReached)
    (performs : moment.Performs action height after) {name : Expression}
    (orders : action.command = .handle name .unsubscribe)
    (found : moment.world.handles.find? (moment.performer.evaluateName name) = some handle) :
    ∃ found, moment.Obeys handle after found := by
  obtain ⟨machine, begun⟩ := performs.exists_begun
  have issued := reached.filed.kept _ handle found
  have usable : (machine.world.unsubscribe handle).1 = (moment.world.unsubscribe handle).1 := by
    rw [begun.world_eq]
    rfl
  rw [← begun.evaluateName] at found
  have there : machine.world.handles.find? (machine.evaluateName name) = some handle := by
    rw [begun.world_eq]
    exact found
  have asks : after.machine = machine.askHandle (machine.evaluateName name) .unsubscribe := by
    rw [begun.performs, Machine.perform, orders]
    rfl
  have deed := begun.history
  rw [Machine.actionDeed, orders, Machine.commandDeed, there] at deed
  rw [Machine.askHandle_unsubscribe there] at asks
  have lives := reached.isAlive_iff handle.container
  rw [← begun.isAlive] at lives
  refine ⟨machine.isAlive handle.container && (machine.world.unsubscribe handle).1, ?_, ?_,
    fun success => ?_, fun fails => ?_⟩
  · rw [Bool.and_eq_true, lives, usable, reached.unsubscribe_iff issued]
  · rw [asks]
    split
    · next success =>
      rw [success]
      rfl
    · next fails =>
      rw [Bool.not_eq_true] at fails
      rw [fails]
      rfl
  · dsimp only at deed
    rw [if_pos success] at asks deed
    exact ⟨deed, reached.loses issued begun (Bool.and_eq_true_iff.mp success).2
      (congrArg Machine.world asks) deed⟩
  · have fails : ¬ (machine.isAlive handle.container &&
        (machine.world.unsubscribe handle).1) = true := by simp [fails]
    dsimp only at deed
    rw [if_neg fails] at asks deed
    exact ⟨deed, (congrArg Machine.world asks).trans begun.world⟩

/-- A subscription to a container with a name is on record, and its handle is new. -/
theorem IsReached.issues (reached : moment.IsReached)
    (performs : moment.Performs action height after) {tag : Expression}
    {channel : Option Channel} {body : List Action} {container : ContainerRef}
    (subscribes : action.command = .operate (.subscribe tag channel body))
    (named : moment.world.names.find? (moment.performer.subjectName action) = some container)
    (known : (Operation.subscribe tag channel body).isKnown
      (moment.world.container container).surface
      (moment.world.container container).contents.isList = true) :
    moment.Issues (moment.performer.newHandle container channel)
      (moment.performer.evaluateName tag) after := by
  obtain ⟨machine, begun⟩ := performs.exists_begun
  let handle := machine.newHandle container channel
  have same : moment.performer.newHandle container channel = handle := by
    rw [Machine.newHandle, ← begun.world]
    rfl
  have found : machine.world.names.find? (machine.subjectName action) = some container := by
    rw [begun.find?_subject]
    exact named
  have fits : (Operation.subscribe tag channel body).isKnown
      (machine.world.container container).surface
      (machine.world.container container).contents.isList = true := by
    rw [begun.container_eq]
    exact known
  have deed : machine.actionDeed action =
      .subscribed container handle.channel handle.id moment.world.subscriptions.size := by
    rw [Machine.actionDeed, subscribes, Machine.commandDeed_subscribe found fits]
    rw [begun.world_eq]
  have follows := performs.next
  have later : after.IsReached := reached.leads (.single follows)
  rw [same]
  refine ⟨?_, ?_, ?_⟩
  · rw [begun.history, deed]
    rfl
  · have performed : after.world.handles = _ := congrArg (·.world.handles) begun.performs
    rw [performed, Machine.perform_operates subscribes found fits, Machine.handles_subscribe,
      World.handles_keepHandle, World.handles_keepHandle, begun.evaluateName, begun.world_eq]
  · rintro made there own
    have below := (reached.enrolled.drawn made there).2
    have number : machine.world.nextSubscriptionId (machine.world.realmOf container) = made.id :=
      congrArg (·.id) own
    rw [begun.world_eq] at number
    have place : container = made.container := congrArg (·.container) own
    rw [← place, ← number] at below
    exact Nat.lt_irrefl _ below

end Moment

/-- At every moment of every script,

* every handle is of one subscription that was made;
* the registry of a channel lists the subscriptions that were made on it and have not been
  ended, and their number is that of the subscriptions that were made less those that were
  ended;
* only a subscription to a container makes one, and only an order to its handle ends one;
* a subscription gets a handle of its own, which is kept under its tag;
* forgetting a handle forgets the handle and changes nothing else;
* an order to end the subscription of a handle succeeds exactly if the container still exists
  and the handle has not been used with success before. Then it ends this subscription and
  nothing else, and otherwise it changes nothing. -/
theorem handles_end_their_subscriptions {moment : Moment} (reached : moment.IsReached) :
    (∀ name handle, moment.world.handles.find? name = some handle →
      ∃! made : Enrolment, made ∈ enrolled moment.history ∧
        handle = made.handle moment.world) ∧
    (∀ container channel,
      let registry := (moment.world.container container).registry channel
      registry.entries = (registered container channel moment.history).map Enrolment.entry ∧
        registry.size + moment.history.countP (Deed.parts container channel) =
          moment.history.countP (Deed.joins container channel)) ∧
    (∀ after, moment.Next after →
      (∀ container channel id subscription,
        after.history = .subscribed container channel id subscription :: moment.history →
        ∃ action height tag named body, moment.Performs action height after ∧
          action.command = .operate (.subscribe tag named body) ∧
          moment.world.names.find? (moment.performer.subjectName action) = some container) ∧
      ∀ handle, after.history = .unsubscribed handle :: moment.history →
        ∃ action height name, moment.Performs action height after ∧
          action.command = .handle name .unsubscribe ∧
          moment.world.handles.find? (moment.performer.evaluateName name) = some handle) ∧
    ∀ action height after, moment.Performs action height after →
      (∀ tag channel body container, action.command = .operate (.subscribe tag channel body) →
        moment.world.names.find? (moment.performer.subjectName action) = some container →
        (Operation.subscribe tag channel body).isKnown (moment.world.container container).surface
          (moment.world.container container).contents.isList = true →
        moment.Issues (moment.performer.newHandle container channel)
          (moment.performer.evaluateName tag) after) ∧
      (∀ name, action.command = .handle name .forget →
        after.history = .quiet :: moment.history ∧
        after.world = { moment.performer.world with
          handles := moment.world.handles.erase (moment.performer.evaluateName name) }) ∧
      ∀ name handle, action.command = .handle name .unsubscribe →
        moment.world.handles.find? (moment.performer.evaluateName name) = some handle →
        ∃ found, moment.Obeys handle after found := by
  refine ⟨fun name handle => reached.existsUnique_of_handle, fun container channel =>
      ⟨reached.enrolled.entries container channel, reached.size_registry container channel⟩,
    fun after follows => ⟨fun container channel id subscription latest => ?_,
      fun handle latest => ?_⟩, fun action height after performs =>
    ⟨fun tag channel body container => reached.issues performs, fun name forgets => ?_,
      fun name handle => reached.obeys performs⟩⟩
  · obtain ⟨action, height, machine, performs, begun, enrols⟩ := follows.exists_enrols latest rfl
    obtain ⟨tag, named, body, subscribes, found⟩ := enrols.of_subscribed
    refine ⟨action, height, tag, named, body, performs, subscribes, ?_⟩
    rw [begun.find?_subject] at found
    exact found
  · obtain ⟨action, height, machine, performs, begun, enrols⟩ := follows.exists_enrols latest rfl
    obtain ⟨name, orders, found, _⟩ := enrols.of_unsubscribed
    refine ⟨action, height, name, performs, orders, ?_⟩
    rw [begun.world_eq, begun.evaluateName] at found
    exact found
  · obtain ⟨machine, begun⟩ := performs.exists_begun
    refine ⟨?_, ?_⟩
    · rw [begun.history, Machine.actionDeed, forgets]
      rfl
    · have performed : after.world = _ := congrArg Machine.world begun.performs
      have handles : machine.world.handles = moment.world.handles := by rw [begun.world_eq]
      rw [performed, Machine.perform, forgets, ← begun.evaluateName, ← begun.world, ← handles]
      rfl

/-- When the first of two subscribers of a cell is about to end the subscription of the second,
while both are told that the cell has changed. -/
def partingDue : Moment := (rivals.begin (numberStored 1)).run 8

/-- The handle of the second subscriber. -/
def secondHandle : Handle := ⟨1, 0, .change, .direct⟩

/-- A subscription is ended through its handle inside a dispatch of its channel. -/
theorem handles_end_their_subscriptions_inside :
    partingDue.IsReached ∧ partingDue.Performs (parted "b") 6 partingDue.step ∧
      partingDue.world.handles.find? "b" = some secondHandle ∧
      partingDue.step.machine.focus = .resume (.value (.bool true)) ∧
      partingDue.Loses ⟨0, .change, 1, 1⟩ partingDue.step := by
  have first := ((Moment.IsReached.start false).begin rfl cellMade).begin rfl
    (subscribing "C" "a" none [parted "b"])
  have both : rivals.IsReached := ((first.run 1).begin rfl (subscribing "C" "b" none [])).run 1
  have reached : partingDue.IsReached := (both.begin rfl (numberStored 1)).run 8
  have stack : partingDue.machine.stack =
      .body [parted "b"] :: partingDue.machine.stack.tail := rfl
  have performs : partingDue.Performs (parted "b") 6 partingDue.step := .inside stack rfl
  have answered : partingDue.step.machine.focus = .resume (.value (.bool true)) := rfl
  obtain ⟨found, obeys⟩ := ((handles_end_their_subscriptions reached).2.2.2 _ _ _ performs).2.2
    _ secondHandle rfl rfl
  have succeeds : found = true := by
    cases found with
    | true => rfl
    | false =>
      have reply := obeys.reply
      rw [answered] at reply
      cases reply
  obtain ⟨_, made, own, loses⟩ := obeys.ended succeeds
  have same : made = ⟨0, .change, 1, 1⟩ := by
    have both : registered 0 .change partingDue.history =
      [⟨0, .change, 0, 0⟩, ⟨0, .change, 1, 1⟩] := rfl
    have container : made.container = 0 := congrArg (·.container) own.symm
    have channel : made.channel = .change := congrArg (·.channel) own.symm
    have number : made.id = 1 := congrArg (·.id) own.symm
    have listed := loses.listed
    rw [container, channel, both] at listed
    rcases List.mem_cons.mp listed with rfl | second
    · cases number
    · exact List.mem_singleton.mp second
  exact ⟨reached, performs, rfl, answered, same ▸ loses⟩

end Observables
