import Observables.Proofs.Numbering
import Mathlib.Data.List.Nodup
import Mathlib.Data.List.Pairwise

/-!
# Enrolments

A subscription is made once, on a channel of a container, under a number that no
other subscription of the container has. The history tells which subscriptions
were made and which of them were ended. At every moment the registry of a
channel is what the history says: the subscriptions that were made on the
channel and have not been ended, in the order in which they were made. A
subscription is switched off exactly if it has been ended.
-/

namespace Observables

open Script

/-- A subscription with the channel on which and the number under which it was made. -/
structure Enrolment where
  /-- The container that was subscribed to. -/
  container : ContainerRef
  /-- The channel that was subscribed to. -/
  channel : Channel
  /-- The number of the subscription. -/
  id : Nat
  /-- The subscription. -/
  subscription : SubscriptionRef
  deriving DecidableEq

namespace Deed

/-- The subscription that a deed makes. -/
def enrolments : Deed → List Enrolment
  | .subscribed container channel id subscription => [⟨container, channel, id, subscription⟩]
  | _ => []

/-- The deed ends a subscription. -/
def ends (enrolment : Enrolment) : Deed → Bool
  | .unsubscribed handle =>
    handle.container = enrolment.container ∧ handle.channel = enrolment.channel ∧
      handle.id = enrolment.id
  | _ => false

/-- What a deed does to the registry of a channel. -/
def onRegistry (container : ContainerRef) (channel : Channel) (deed : Deed)
    (registry : Registry) : Registry :=
  match deed with
  | .subscribed other named id subscription =>
    if container = other ∧ channel = named then registry.insert id subscription else registry
  | .unsubscribed handle =>
    if container = handle.container ∧ channel = handle.channel then registry.erase handle.id
    else registry
  | _ => registry

end Deed

/-- The subscriptions that were made, in the order of time. -/
def enrolled (history : List Deed) : List Enrolment := history.reverse.flatMap Deed.enrolments

namespace Enrolment

/-- The subscription has been ended. -/
def isEnded (history : List Deed) (enrolment : Enrolment) : Bool :=
  history.any (Deed.ends enrolment)

/-- The subscription as it stands in a registry. -/
def entry (enrolment : Enrolment) : Registration := ⟨enrolment.id, enrolment.subscription⟩

end Enrolment

/-- The subscriptions that were made on a channel and have not been ended, in the order of
time. -/
def registered (container : ContainerRef) (channel : Channel) (history : List Deed) :
    List Enrolment :=
  (enrolled history).filter fun enrolment =>
    enrolment.container = container ∧ enrolment.channel = channel ∧
      enrolment.isEnded history = false

section

variable {history : List Deed}

/-- The latest subscription was made last. -/
theorem enrolled_cons (deed : Deed) (history : List Deed) :
    enrolled (deed :: history) = enrolled history ++ deed.enrolments := by
  rw [enrolled, List.reverse_cons, List.flatMap_append, List.flatMap_singleton]
  rfl

/-- The subscriptions that were made are remembered. -/
theorem enrolled_suffix {later : List Deed} (suffix : history <:+ later) :
    (enrolled history).Sublist (enrolled later) := by
  obtain ⟨recent, rfl⟩ := suffix
  rw [enrolled, enrolled, List.reverse_append, List.flatMap_append]
  exact List.sublist_append_left _ _

/-- A subscription has been ended by a handle of its channel and its number. -/
theorem Enrolment.isEnded_iff {enrolment : Enrolment} :
    enrolment.isEnded history = true ↔ ∃ handle, .unsubscribed handle ∈ history ∧
      handle.container = enrolment.container ∧ handle.channel = enrolment.channel ∧
      handle.id = enrolment.id := by
  rw [isEnded, List.any_eq_true]
  constructor
  · rintro ⟨deed, inside, ends⟩
    cases deed with
    | unsubscribed handle => exact ⟨handle, inside, of_decide_eq_true ends⟩
    | _ => cases ends
  · rintro ⟨handle, inside, same⟩
    exact ⟨_, inside, decide_eq_true same⟩

/-- What has been ended stays so. -/
theorem Enrolment.isEnded_suffix {later : List Deed} (suffix : history <:+ later)
    {enrolment : Enrolment} (active : enrolment.isEnded later = false) :
    enrolment.isEnded history = false := by
  obtain ⟨recent, rfl⟩ := suffix
  rw [isEnded, List.any_append, Bool.or_eq_false_iff] at active
  exact active.2

/-- A new subscription is registered last, on its own channel only. -/
theorem registered_subscribed {new : Enrolment} (fresh : new.isEnded history = false)
    (container : ContainerRef) (channel : Channel) :
    registered container channel
        (.subscribed new.container new.channel new.id new.subscription :: history) =
      registered container channel history ++
        if container = new.container ∧ channel = new.channel then [new] else [] := by
  have all : enrolled (.subscribed new.container new.channel new.id new.subscription :: history) =
      enrolled history ++ [new] := enrolled_cons _ _
  have still (made : Enrolment) : made.isEnded
      (.subscribed new.container new.channel new.id new.subscription :: history) =
        made.isEnded history := rfl
  simp only [registered, all, still, List.filter_append]
  split
  · next here => rw [List.filter_cons_of_pos (by simp [here, fresh]), List.filter_nil]
  · next elsewhere =>
    have apart : ¬ (new.container = container ∧ new.channel = channel ∧
        new.isEnded history = false) := fun same => elsewhere ⟨same.1.symm, same.2.1.symm⟩
    rw [List.filter_cons_of_neg (by simpa using apart), List.filter_nil]

/-- A subscription that has been ended is not registered any more. -/
theorem registered_unsubscribed (handle : Handle) (container : ContainerRef)
    (channel : Channel) :
    registered container channel (.unsubscribed handle :: history) =
      (registered container channel history).filter fun made =>
        !(Deed.unsubscribed handle).ends made := by
  have all : enrolled (.unsubscribed handle :: history) = enrolled history := by
    rw [enrolled_cons]
    exact List.append_nil _
  have ended (made : Enrolment) : made.isEnded (.unsubscribed handle :: history) =
      ((Deed.unsubscribed handle).ends made || made.isEnded history) := List.any_cons
  simp only [registered, all, List.filter_filter]
  refine List.filter_congr fun made _ => ?_
  rw [ended]
  cases (Deed.unsubscribed handle).ends made <;> simp

/-- What is registered was made on the channel and has not been ended. -/
theorem mem_registered {container : ContainerRef} {channel : Channel} {enrolment : Enrolment} :
    enrolment ∈ registered container channel history ↔ enrolment ∈ enrolled history ∧
      enrolment.container = container ∧ enrolment.channel = channel ∧
      enrolment.isEnded history = false := by
  rw [registered, List.mem_filter, decide_eq_true_iff]

end

section

variable {world other : World} {rest taken put : List Frame} {deed : Deed}

/-- A channel of a container after a change of a container that leaves its registries alone. -/
theorem World.registry_modifyContainer (world : World) (container : ContainerRef)
    {change : Container → Container}
    (kept : ∀ held channel, (change held).registry channel = held.registry channel)
    (other : ContainerRef) (channel : Channel) :
    ((world.modifyContainer container change).container other).registry channel =
      (world.container other).registry channel := by
  let belongs (held : Container) : Prop :=
    held.registry channel = (world.container other).registry channel
  by_cases same : other = container
  · subst same
    exact World.container_modify_keeps belongs (fun before => (kept _ _).trans before) rfl
  · rcases Nat.lt_or_ge container world.containers.size with inside | beyond
    · rw [World.container_modify inside, if_neg same]
    · rw [World.container_modify_of_le beyond]

/-- A container that has just been made has no subscriptions, as if it had been blank. -/
theorem World.registry_makeContainer (world : World) (name : String) {made : Container}
    (blank : ∀ channel, made.registry channel = {}) (container : ContainerRef)
    (channel : Channel) :
    ((world.makeContainer name made).container container).registry channel =
      (world.container container).registry channel := by
  have added := Table.entry_add world.containers made container
  have row : (world.makeContainer name made).container container =
      if container = world.containers.size then made else world.container container := added
  rw [row]
  split
  · next last =>
    rw [blank, last, World.container, Table.entry_of_size_le (Nat.le_refl _)]
    cases channel <;> rfl
  · rfl

/-- A registry that has been put back. -/
theorem World.registry_setBoard {world : World} {container : ContainerRef}
    (inside : container < world.containers.size) (channel : Channel)
    (board : Switchboard Callback) (other : ContainerRef) (named : Channel) :
    ((world.setBoard container channel board).container other).registry named =
      if other = container ∧ named = channel then board.registry
      else (world.container other).registry named := by
  have changed : (world.setBoard container channel board).container other =
      if other = container then (world.container container).setRegistry channel board.registry
      else world.container other := World.container_modify inside other _
  rw [changed]
  by_cases same : other = container
  · subst same
    rw [if_pos rfl, Container.registry_setRegistry]
    simp only [true_and]
  · rw [if_neg same, if_neg fun both => same both.1]

/-- An unsubscription that succeeds switches the subscription of its number off and takes it
out of the registry. -/
theorem World.unsubscribe_eq {world : World} {handle : Handle}
    (success : (world.unsubscribe handle).1 = true) :
    ∃ subscription,
      ⟨handle.id, subscription⟩ ∈
        ((world.container handle.container).registry handle.channel).entries ∧
      (world.unsubscribe handle).2 = world.setBoard handle.container handle.channel
        ⟨world.subscriptions.modify subscription Subscription.deactivate,
          ((world.container handle.container).registry handle.channel).erase handle.id⟩ := by
  unfold World.unsubscribe Switchboard.unsubscribe at success ⊢
  cases found : (world.board handle.container handle.channel).registry.find? handle.id with
  | none =>
    simp only [found] at success
    cases success
  | some subscription =>
    simp only [Switchboard.deactivate]
    refine ⟨subscription, ?_, rfl⟩
    obtain ⟨entry, first, same⟩ := Option.map_eq_some_iff.mp found
    have number : entry.id = handle.id := by simpa using List.find?_some first
    have inside := List.mem_of_find?_eq_some first
    rcases entry with ⟨id, row⟩
    cases number
    cases same
    exact inside

/-- Only a container that exists has subscriptions. -/
theorem World.lt_size_of_entry {world : World} {container : ContainerRef} {channel : Channel}
    {entry : Registration}
    (inside : entry ∈ ((world.container container).registry channel).entries) :
    container < world.containers.size := by
  rcases Nat.lt_or_ge container world.containers.size with there | beyond
  · exact there
  · rw [World.container, Table.entry_of_size_le beyond] at inside
    cases channel <;> cases inside

/-- A turn changes the registries of all channels as its deed says. -/
theorem Turn.registry (turn : Turn world rest taken deed other put) (sound : world.Sound)
    (container : ContainerRef) (channel : Channel) :
    (other.container container).registry channel =
      deed.onRegistry container channel ((world.container container).registry channel) := by
  cases turn with
  | quiet _ _ same | dropped _ same | settled _ same | settledEmpty _ _ same
  | dischargedEmpty _ same
  | passed _ same | notified same | told _ same | tornDown same | refused _ _ _ same
  | setShielded _ _ _ _ same | abandoned _ _ same | announced same | opened _ _ _ same
  | closed same | ranAsked _ _ _ same | ranSettled _ _ same | ranDischarged _ same
  | bound _ _ _ _ same | drawn _ _ _ _ same | realmOpened _ _ same =>
    rw [same.container]
    rfl
  | borrowed _ _ _ _ _ same | setBegun _ _ _ _ _ _ same | released same
  | inserted _ _ _ _ _ same | removed _ _ _ _ same | stored _ same | rekeyed _ same =>
    rw [same.container]
    refine World.registry_modifyContainer world _ ?_ container channel
    intro held channel
    cases channel <;> rfl
  | @replaced replacedIn items _ _ same =>
    rw [same.container]
    have kept (world : World) (change : Contents → Contents) :
        ((world.modifyContents replacedIn change).container container).registry channel =
          (world.container container).registry channel := by
      refine World.registry_modifyContainer world replacedIn ?_ container channel
      intro held channel
      cases channel <;> rfl
    exact (kept _ _).trans (kept world _)
  | @listMade _ _ name realm _ _ _ _ _ _ same =>
    rw [same.container]
    refine World.registry_makeContainer (world.takeListId realm) name ?_ container channel
    intro channel
    cases channel <;> rfl
  | @cellMade _ _ name _ _ _ _ _ _ _ same =>
    rw [same.container]
    refine World.registry_makeContainer world name ?_ container channel
    intro channel
    cases channel <;> rfl
  | @subscribed _ _ name target named callback _ _ _ found same =>
    have drawn := sound.modifyRealm (world.realmOf target) fun realm =>
      { realm with subscriptionIds := realm.subscriptionIds.advance }
    have row := World.registry_setBoard (drawn.names name target found) named
      ((world.board target named).insert (world.nextSubscriptionId (world.realmOf target))
        callback) container channel
    rw [same.container, Deed.onRegistry]
    refine row.trans ?_
    split
    · next here =>
      obtain ⟨rfl, rfl⟩ := here
      rfl
    · rfl
  | unsubscribed _ _ success same =>
    obtain ⟨subscription, inside, after⟩ := World.unsubscribe_eq success
    rw [same.container, after, World.registry_setBoard (World.lt_size_of_entry inside),
      Deed.onRegistry]
    split
    · next here =>
      obtain ⟨rfl, rfl⟩ := here
      rfl
    · rfl

/-- A turn that neither makes nor ends a subscription leaves all of them as they are. -/
theorem Turn.subscriptions (turn : Turn world rest taken deed other put) :
    (deed.enrolments = [] ∧ (∀ enrolment, deed.ends enrolment = false) ∧
      other.subscriptions = world.subscriptions) ∨
    (∃ name container channel callback, world.names.find? name = some container ∧
      deed = .subscribed container channel (world.nextSubscriptionId (world.realmOf container))
        world.subscriptions.size ∧
      (world.subscribe container channel callback).Alike other) ∨
    ∃ handle, deed = .unsubscribed handle ∧ (world.unsubscribe handle).1 = true ∧
      (world.unsubscribe handle).2.Alike other := by
  cases turn with
  | subscribed _ _ found same => exact .inr (.inl ⟨_, _, _, _, found, rfl, same⟩)
  | unsubscribed _ _ success same => exact .inr (.inr ⟨_, rfl, success, same⟩)
  | quiet _ _ same | dropped _ same | settled _ same | settledEmpty _ _ same
  | dischargedEmpty _ same
  | passed _ same | notified same | told _ same | tornDown same | refused _ _ _ same
  | setShielded _ _ _ _ same | abandoned _ _ same | announced same | opened _ _ _ same
  | closed same | ranAsked _ _ _ same | ranSettled _ _ same | ranDischarged _ same
  | bound _ _ _ _ same | drawn _ _ _ _ same | realmOpened _ _ same
  | borrowed _ _ _ _ _ same | setBegun _ _ _ _ _ _ same | released same
  | inserted _ _ _ _ _ same | removed _ _ _ _ same | stored _ same | rekeyed _ same
  | replaced _ same | listMade _ _ _ same | cellMade _ _ _ same =>
    exact .inl ⟨rfl, fun _ => rfl, same.subscriptions⟩

end

/-- Registries and subscriptions are what the history says. -/
structure World.Enrolled (world : World) (history : List Deed) : Prop where
  /-- Subscriptions have the rows in the order in which they were made. -/
  rows : (enrolled history).map (·.subscription) = List.range world.subscriptions.size
  /-- The container of a subscription exists, and its realm has drawn the number. -/
  drawn : ∀ enrolment ∈ enrolled history, enrolment.container < world.containers.size ∧
    enrolment.id < world.nextSubscriptionId (world.realmOf enrolment.container)
  /-- Subscriptions of one container are numbered in the order in which they were made. -/
  ascending : (enrolled history).Pairwise fun earlier later =>
    earlier.container = later.container → earlier.id < later.id
  /-- Only what was made is ended. -/
  ended : ∀ handle, .unsubscribed handle ∈ history → ∃ enrolment ∈ enrolled history,
    (Deed.unsubscribed handle).ends enrolment = true
  /-- What is registered was made and has not been ended. -/
  entries : ∀ container channel, ((world.container container).registry channel).entries =
    (registered container channel history).map Enrolment.entry
  /-- What has been ended is switched off, and nothing else. -/
  active : ∀ enrolment ∈ enrolled history, ∃ held,
    world.subscriptions.get? enrolment.subscription = some held ∧
      held.active = !enrolment.isEnded history

namespace World.Enrolled

variable {world other : World} {rest taken put : List Frame} {deed : Deed}
  {history : List Deed}

/-- No two subscriptions have one row. -/
theorem eq_of_subscription (enrolment : world.Enrolled history) {first second : Enrolment}
    (one : first ∈ enrolled history) (two : second ∈ enrolled history)
    (same : first.subscription = second.subscription) : first = second := by
  have nodup : ((enrolled history).map (·.subscription)).Nodup := by
    rw [enrolment.rows]
    exact List.nodup_range
  exact List.inj_on_of_nodup_map nodup one two same

/-- No two subscriptions of a container have one number. -/
theorem eq_of_id (enrolment : world.Enrolled history) {first second : Enrolment}
    (one : first ∈ enrolled history) (two : second ∈ enrolled history)
    (container : first.container = second.container) (id : first.id = second.id) :
    first = second := by
  by_contra apart
  have different : (enrolled history).Pairwise fun earlier later =>
      earlier.container = later.container → earlier.id ≠ later.id :=
    enrolment.ascending.imp fun before same => Nat.ne_of_lt (before same)
  have symmetric : Std.Symm fun earlier later : Enrolment =>
      earlier.container = later.container → earlier.id ≠ later.id :=
    ⟨fun _ _ before same equal => before same.symm equal.symm⟩
  exact different.forall one two apart container id

/-- The rows of subscriptions exist. -/
theorem lt_size (enrolment : world.Enrolled history) {made : Enrolment}
    (inside : made ∈ enrolled history) : made.subscription < world.subscriptions.size := by
  have row := List.mem_map_of_mem (f := (·.subscription)) inside
  rw [enrolment.rows] at row
  exact List.mem_range.mp row

/-- Alike worlds have the same subscriptions. -/
theorem alike (enrolment : world.Enrolled history) (same : world.Alike other) :
    other.Enrolled history where
  rows := by rw [same.subscriptions]; exact enrolment.rows
  drawn made inside := by
    rw [same.containers, World.nextSubscriptionId, same.realm, World.realmOf, same.container]
    exact enrolment.drawn made inside
  ascending := enrolment.ascending
  ended := enrolment.ended
  entries container channel := by rw [same.container]; exact enrolment.entries container channel
  active made inside := by rw [same.subscriptions]; exact enrolment.active made inside

/-- No turn takes the numbers of subscriptions back. -/
theorem drawn_turn (enrolment : world.Enrolled history) (sound : world.Sound)
    (turn : Turn world rest taken deed other put) :
    ∀ made ∈ enrolled history, made.container < other.containers.size ∧
      made.id < other.nextSubscriptionId (other.realmOf made.container) := by
  intro made inside
  obtain ⟨there, below⟩ := enrolment.drawn made inside
  refine ⟨Nat.lt_of_lt_of_le there turn.size_le, ?_⟩
  rw [turn.realmOf there]
  exact Nat.lt_of_lt_of_le below (turn.supplies sound (sound.realmOf made.container)).1

/-- A turn that neither makes nor ends a subscription keeps all of them. -/
theorem keep (enrolment : world.Enrolled history) (sound : world.Sound)
    (turn : Turn world rest taken deed other put) (none : deed.enrolments = [])
    (nothing : ∀ made, deed.ends made = false)
    (same : other.subscriptions = world.subscriptions) : other.Enrolled (deed :: history) := by
  have kept : enrolled (deed :: history) = enrolled history := by
    rw [enrolled_cons, none, List.append_nil]
  have still (made : Enrolment) : made.isEnded (deed :: history) = made.isEnded history := by
    rw [Enrolment.isEnded, List.any_cons, nothing, Bool.false_or]
    rfl
  have unchanged (container : ContainerRef) (channel : Channel) :
      registered container channel (deed :: history) = registered container channel history := by
    simp only [registered, kept, still]
  refine ⟨?_, ?_, ?_, fun handle inside => ?_, fun container channel => ?_, fun made inside => ?_⟩
  · rw [kept, same]
    exact enrolment.rows
  · rw [kept]
    exact enrolment.drawn_turn sound turn
  · rw [kept]
    exact enrolment.ascending
  · rw [kept]
    rcases List.mem_cons.mp inside with latest | inside
    · have ends := nothing ⟨handle.container, handle.channel, handle.id, 0⟩
      rw [← latest] at ends
      simp [Deed.ends] at ends
    · exact enrolment.ended handle inside
  · have untouched : (other.container container).registry channel =
        (world.container container).registry channel := by
      rw [turn.registry sound]
      cases deed with
      | subscribed => cases none
      | unsubscribed handle =>
        have ends := nothing ⟨handle.container, handle.channel, handle.id, 0⟩
        simp [Deed.ends] at ends
      | _ => rfl
    rw [untouched, unchanged]
    exact enrolment.entries container channel
  · rw [kept] at inside
    rw [same, still]
    exact enrolment.active made inside

/-- A new subscription has not been ended. -/
theorem not_isEnded_of_le (enrolment : world.Enrolled history) {new : Enrolment}
    (fresh : world.nextSubscriptionId (world.realmOf new.container) ≤ new.id) :
    new.isEnded history = false := by
  by_contra ended
  rw [Bool.not_eq_false, Enrolment.isEnded_iff] at ended
  obtain ⟨handle, inside, container, channel, id⟩ := ended
  obtain ⟨made, known, ends⟩ := enrolment.ended handle inside
  obtain ⟨sameContainer, _, sameId⟩ := of_decide_eq_true ends
  have below := (enrolment.drawn made known).2
  rw [← sameContainer, ← sameId, container, id] at below
  exact Nat.not_lt_of_le fresh below

/-- After a new subscription every registry lists the subscriptions that are registered in it. -/
theorem entries_subscribed (enrolment : world.Enrolled history) (new : Enrolment)
    (fresh : world.nextSubscriptionId (world.realmOf new.container) = new.id)
    (other : ContainerRef) (named : Channel) :
    ((Deed.subscribed new.container new.channel new.id new.subscription).onRegistry other named
      ((world.container other).registry named)).entries =
      (registered other named
        (.subscribed new.container new.channel new.id new.subscription :: history)).map
          (·.entry) := by
  have before := enrolment.entries other named
  have unended := enrolment.not_isEnded_of_le (Nat.le_of_eq fresh)
  have added := registered_subscribed unended other named
  rw [Deed.onRegistry]
  by_cases here : other = new.container ∧ named = new.channel
  · have highest : ∀ entry ∈ ((world.container other).registry named).entries,
        entry.id < new.id := by
      intro entry listed
      rw [before, List.mem_map] at listed
      obtain ⟨made, known, rfl⟩ := listed
      obtain ⟨known, same, _⟩ := mem_registered.mp known
      have drawn := (enrolment.drawn made known).2
      rw [same, here.1, fresh] at drawn
      exact drawn
    rw [if_pos here] at added ⊢
    rw [added, List.map_append, ← before, Registry.insert]
    exact Registry.place_of_lt highest
  · rw [if_neg here] at added ⊢
    rw [added, List.append_nil]
    exact before

/-- Making a subscription. -/
theorem subscribe (enrolment : world.Enrolled history) (sound : world.Sound) {name : String}
    {container : ContainerRef} {channel : Channel} {callback : Callback}
    (found : world.names.find? name = some container) :
    (world.subscribe container channel callback).Enrolled
      (.subscribed container channel (world.nextSubscriptionId (world.realmOf container))
        world.subscriptions.size :: history) := by
  let realm := world.realmOf container
  let new : Enrolment :=
    ⟨container, channel, world.nextSubscriptionId realm, world.subscriptions.size⟩
  have inside := sound.names name container found
  have turn : Turn world [] [] (.subscribed container channel new.id new.subscription)
      (world.subscribe container channel callback) [] :=
    .subscribed Plain.nil Plain.nil found (.refl _)
  have all : enrolled (.subscribed container channel new.id new.subscription :: history) =
      enrolled history ++ [new] := enrolled_cons _ _
  have still (made : Enrolment) :
      made.isEnded (.subscribed container channel new.id new.subscription :: history) =
        made.isEnded history := rfl
  have table : (world.subscribe container channel callback).subscriptions =
      world.subscriptions.add ⟨new.id, callback, true⟩ := rfl
  refine ⟨?_, fun made known => ?_, ?_, fun handle ends => ?_, fun other named => ?_,
    fun made known => ?_⟩
  · rw [all, table, List.map_append, enrolment.rows, Table.size_add, List.range_succ]
    rfl
  · rw [all] at known
    rcases List.mem_append.mp known with known | latest
    · exact enrolment.drawn_turn sound turn made known
    · cases List.mem_singleton.mp latest
      refine ⟨Nat.lt_of_lt_of_le inside turn.size_le, ?_⟩
      have advanced := World.realm_modifyRealm (sound.realmOf container) realm fun held =>
        { held with subscriptionIds := held.subscriptionIds.advance }
      rw [if_pos rfl] at advanced
      have next : (world.subscribe container channel callback).nextSubscriptionId realm =
          new.id + 1 := congrArg (·.subscriptionIds.peek) advanced
      rw [turn.realmOf inside, next]
      exact Nat.lt_succ_self _
  · rw [all]
    refine List.pairwise_append.mpr ⟨enrolment.ascending, List.pairwise_singleton _ _, ?_⟩
    intro made known last latest same
    cases List.mem_singleton.mp latest
    have drawn := (enrolment.drawn made known).2
    rw [same] at drawn
    exact drawn
  · have earlier : .unsubscribed handle ∈ history := by simpa using ends
    obtain ⟨made, known, ended⟩ := enrolment.ended handle earlier
    exact ⟨made, by rw [all]; exact List.mem_append_left _ known, ended⟩
  · rw [turn.registry sound]
    exact enrolment.entries_subscribed new rfl other named
  · rw [all] at known
    rw [table, still, Table.get?_add]
    rcases List.mem_append.mp known with known | latest
    · rw [if_neg (Nat.ne_of_lt (enrolment.lt_size known))]
      exact enrolment.active made known
    · cases List.mem_singleton.mp latest
      rw [if_pos rfl, enrolment.not_isEnded_of_le (Nat.le_refl _)]
      exact ⟨_, rfl, rfl⟩

/-- After the end of a subscription every registry lists the subscriptions that are still
registered in it. -/
theorem entries_unsubscribed (enrolment : world.Enrolled history) (handle : Handle)
    (other : ContainerRef) (named : Channel) :
    ((Deed.unsubscribed handle).onRegistry other named
      ((world.container other).registry named)).entries =
      (registered other named (.unsubscribed handle :: history)).map (·.entry) := by
  have before := enrolment.entries other named
  rw [Deed.onRegistry, registered_unsubscribed]
  split
  · next here =>
    obtain ⟨rfl, rfl⟩ := here
    simp only [Registry.erase, before, List.filter_map]
    refine congrArg _ (List.filter_congr fun made there => ?_)
    obtain ⟨_, sameContainer, sameChannel, _⟩ := mem_registered.mp there
    rw [Bool.eq_iff_iff]
    simp only [Deed.ends, Enrolment.entry, sameContainer, sameChannel, Function.comp_apply,
      bne_iff_ne, ne_eq, true_and, Bool.not_eq_true', decide_eq_false_iff_not]
    exact not_congr eq_comm
  · next elsewhere =>
    rw [before, List.filter_eq_self.mpr]
    intro made there
    obtain ⟨_, sameContainer, sameChannel, _⟩ := mem_registered.mp there
    have misses : ¬ (handle.container = made.container ∧ handle.channel = made.channel ∧
        handle.id = made.id) := fun same =>
      elsewhere ⟨sameContainer.symm.trans same.1.symm, sameChannel.symm.trans same.2.1.symm⟩
    rw [Deed.ends, decide_eq_false misses]
    rfl

/-- Ending a subscription. -/
theorem unsubscribe (enrolment : world.Enrolled history) (sound : world.Sound) {handle : Handle}
    (success : (world.unsubscribe handle).1 = true) :
    (world.unsubscribe handle).2.Enrolled (.unsubscribed handle :: history) := by
  have turn : Turn world [] [] (.unsubscribed handle) (world.unsubscribe handle).2 [] :=
    .unsubscribed Plain.nil Plain.nil success (.refl _)
  obtain ⟨subscription, inside, after⟩ := World.unsubscribe_eq success
  rw [enrolment.entries, List.mem_map] at inside
  obtain ⟨target, listed, entry⟩ := inside
  obtain ⟨known, container, channel, _⟩ := mem_registered.mp listed
  have number : target.id = handle.id := congrArg (·.id) entry
  have row : target.subscription = subscription := congrArg (·.subscription) entry
  have hits : (Deed.unsubscribed handle).ends target = true :=
    decide_eq_true ⟨container.symm, channel.symm, number.symm⟩
  -- The handle ends the subscription that is switched off, and no other one.
  have only (made : Enrolment) (there : made ∈ enrolled history) :
      (Deed.unsubscribed handle).ends made = true ↔ made = target := by
    constructor
    · intro ends
      obtain ⟨sameContainer, _, sameId⟩ := of_decide_eq_true ends
      exact enrolment.eq_of_id there known (sameContainer.symm.trans container.symm)
        (sameId.symm.trans number.symm)
    · rintro rfl
      exact hits
  have all : enrolled (.unsubscribed handle :: history) = enrolled history := by
    rw [enrolled_cons]
    exact List.append_nil _
  have ended (made : Enrolment) : made.isEnded (.unsubscribed handle :: history) =
      ((Deed.unsubscribed handle).ends made || made.isEnded history) := List.any_cons
  have table : (world.unsubscribe handle).2.subscriptions =
      world.subscriptions.modify subscription Subscription.deactivate := by
    rw [after]
    rfl
  refine ⟨?_, ?_, ?_, fun other ends => ?_, fun other named => ?_, fun made there => ?_⟩
  · rw [all, table, Table.size_modify]
    exact enrolment.rows
  · rw [all]
    exact enrolment.drawn_turn sound turn
  · rw [all]
    exact enrolment.ascending
  · rw [all]
    rcases List.mem_cons.mp ends with latest | earlier
    · cases latest
      exact ⟨target, known, hits⟩
    · exact enrolment.ended other earlier
  · rw [turn.registry sound]
    exact enrolment.entries_unsubscribed handle other named
  · rw [all] at there
    obtain ⟨held, found, active⟩ := enrolment.active made there
    rw [table, Table.get?_modify, ended]
    by_cases same : made = target
    · subst same
      rw [if_pos row.symm, found, hits]
      exact ⟨_, rfl, rfl⟩
    · have apart : subscription ≠ made.subscription := fun equal =>
        same (enrolment.eq_of_subscription there known (equal.symm.trans row.symm))
      have misses : (Deed.unsubscribed handle).ends made = false := by
        rw [← Bool.not_eq_true, only made there]
        exact same
      rw [if_neg apart, misses, Bool.false_or]
      exact ⟨held, found, active⟩

/-- Registries and subscriptions are what the history says whenever a script runs. -/
theorem preserved : Preserved (fun world _ _ => world.Sound)
    fun world _ history => world.Enrolled history where
  first tracing := by
    refine ⟨rfl, fun made inside => ?_, List.Pairwise.nil, fun handle inside => ?_,
      fun container channel => ?_, fun made inside => ?_⟩
    · cases inside
    · cases inside
    · cases channel <;> rfl
    · cases inside
  alike same enrolment := enrolment.alike same
  turn sound enrolment _ turn := by
    rcases turn.subscriptions with ⟨none, nothing, same⟩ |
      ⟨name, container, channel, callback, found, rfl, same⟩ | ⟨handle, rfl, success, same⟩
    · exact enrolment.keep sound turn none nothing same
    · exact (enrolment.subscribe sound found).alike same
    · exact (enrolment.unsubscribe sound success).alike same

/-- What is registered is in the snapshot of the registry once, in the order in which it was
made. -/
theorem snapshot (enrolment : world.Enrolled history) (container : ContainerRef)
    (channel : Channel) : ((world.container container).registry channel).snapshot =
      (registered container channel history).map (·.subscription) := by
  rw [Registry.snapshot, enrolment.entries, List.map_map]
  rfl

/-- No subscription is in a snapshot twice. -/
theorem nodup_snapshot (enrolment : world.Enrolled history) (container : ContainerRef)
    (channel : Channel) : ((world.container container).registry channel).snapshot.Nodup := by
  rw [enrolment.snapshot]
  have all : ((enrolled history).map (·.subscription)).Nodup := by
    rw [enrolment.rows]
    exact List.nodup_range
  exact all.sublist (List.filter_sublist.map _)

/-- A subscription is called unless it has been ended. -/
theorem callback?_eq_none_iff (enrolment : world.Enrolled history) {made : Enrolment}
    (inside : made ∈ enrolled history) :
    world.callback? made.subscription = none ↔ made.isEnded history = true := by
  obtain ⟨held, found, active⟩ := enrolment.active made inside
  rw [World.callback?, found, Option.bind_some, Subscription.callback?, active]
  cases made.isEnded history <;> simp

end World.Enrolled

/-- Registries and subscriptions are what the history says at every moment. -/
theorem Moment.IsReached.enrolled {moment : Moment} (reached : moment.IsReached) :
    moment.world.Enrolled moment.history :=
  World.Enrolled.preserved.reached (fun reached => reached.held.sound)
    (fun same sound => sound.alike same) reached

end Observables
