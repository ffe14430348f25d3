import Observables.Proofs.Invariant

/-!
# References that lead somewhere

Realms and containers are referred to by the numbers of their rows. Whatever
a script does, the realms that can be meant exist, every container belongs to
a realm that exists, and names of containers lead to containers. What changes
of the world do to a look-up is stated first.
-/

namespace Observables

namespace World

/-- A container after a change of one that exists. -/
theorem container_modify {world : World} {container : ContainerRef}
    (inside : container < world.containers.size) (other : ContainerRef)
    (change : Container → Container) :
    (world.modifyContainer container change).container other =
      if other = container then change (world.container container)
      else world.container other :=
  Table.entry_modify inside other change

/-- A container after a change of one that does not exist. -/
theorem container_modify_of_le {world : World} {container : ContainerRef}
    (beyond : world.containers.size ≤ container) (other : ContainerRef)
    (change : Container → Container) :
    (world.modifyContainer container change).container other = world.container other :=
  Table.entry_modify_of_size_le beyond other change

/-- A realm after a change of one that exists. -/
theorem realm_modify {world : World} {realm : RealmRef} (inside : realm < world.realms.size)
    (other : RealmRef) (change : Realm → Realm) :
    (world.modifyRealm realm change).realm other =
      if other = realm then change (world.realm realm) else world.realm other :=
  Table.entry_modify inside other change

/-- A realm after a change of one that does not exist. -/
theorem realm_modify_of_le {world : World} {realm : RealmRef} (beyond : world.realms.size ≤ realm)
    (other : RealmRef) (change : Realm → Realm) :
    (world.modifyRealm realm change).realm other = world.realm other :=
  Table.entry_modify_of_size_le beyond other change

/-- A change of a realm makes no realm. -/
theorem size_modifyRealm (world : World) (realm : RealmRef) (change : Realm → Realm) :
    (world.modifyRealm realm change).realms.size = world.realms.size :=
  Table.size_modify _ _ _

/-- A change of a container makes no container. -/
theorem size_modifyContainer (world : World) (container : ContainerRef)
    (change : Container → Container) :
    (world.modifyContainer container change).containers.size = world.containers.size :=
  Table.size_modify _ _ _

/-- Only a container that exists can be a list. -/
theorem lt_size_of_isList {world : World} {container : ContainerRef}
    (isList : (world.container container).contents.isList = true) :
    container < world.containers.size := by
  rcases Nat.lt_or_ge container world.containers.size with inside | beyond
  · exact inside
  · rw [World.container, Table.entry_of_size_le beyond] at isList
    cases isList

/-- What belongs to every container and is kept by a change belongs to every
container after it. -/
theorem container_modify_keeps {world : World} {container : ContainerRef}
    {change : Container → Container} (belongs : Container → Prop)
    (kept : belongs (world.container container) → belongs (change (world.container container)))
    {other : ContainerRef} (before : belongs (world.container other)) :
    belongs ((world.modifyContainer container change).container other) := by
  by_cases inside : container < world.containers.size
  · rw [container_modify inside]
    split
    · next same =>
      subst same
      exact kept before
    · exact before
  · rw [container_modify_of_le (Nat.le_of_not_lt inside)]
    exact before

/-- References lead somewhere. -/
structure Sound (world : World) : Prop where
  /-- There is a realm to begin with. -/
  some_realm : 0 < world.realms.size
  /-- The realms that have been entered exist. -/
  entered : ∀ realm ∈ world.entered, realm < world.realms.size
  /-- Names of realms lead to realms. -/
  realmNames : ∀ name realm, world.realmNames.find? name = some realm →
    realm < world.realms.size
  /-- Every container belongs to a realm. -/
  realmOf : ∀ container, world.realmOf container < world.realms.size
  /-- Names of containers lead to containers. -/
  names : ∀ name container, world.names.find? name = some container →
    container < world.containers.size

namespace Sound

variable {world other : World}

/-- The first world is sound. -/
theorem start (tracing : Bool) : (Session.start tracing).world.Sound where
  some_realm := Nat.zero_lt_one
  entered realm inside := by simp [Session.start] at inside
  realmNames name realm found := by simp [Session.start, Directory.find?] at found
  realmOf container := Nat.zero_lt_one
  names name container found := by simp [Session.start, Directory.find?] at found

/-- A world like a sound one is sound. -/
theorem alike (sound : world.Sound) (same : world.Alike other) : other.Sound where
  some_realm := by rw [same.realms]; exact sound.some_realm
  entered := by rw [same.realms, same.entered]; exact sound.entered
  realmNames := by rw [same.realms, same.realmNames]; exact sound.realmNames
  realmOf container := by
    rw [same.realms, World.realmOf, same.container]
    exact sound.realmOf container
  names name container found := by
    rw [same.containers]
    obtain ⟨known, found⟩ := same.names name container found
    exact sound.names known container found

/-- A realm that an action can mean exists. -/
theorem lt_size_of_knows (sound : world.Sound) {realm : RealmRef} (known : world.Knows realm) :
    realm < world.realms.size := by
  cases known with
  | current =>
    unfold World.current
    cases entered : world.entered with
    | nil => exact sound.some_realm
    | cons first rest => exact sound.entered first (by rw [entered]; exact List.mem_cons_self)
  | named found => exact sound.realmNames _ _ found
  | holder => exact sound.realmOf _

/-- A change of a realm keeps a world sound. -/
theorem modifyRealm (sound : world.Sound) (realm : RealmRef) (change : Realm → Realm) :
    (world.modifyRealm realm change).Sound where
  some_realm := by
    rw [size_modifyRealm]
    exact sound.some_realm
  entered := by
    rw [size_modifyRealm]
    exact sound.entered
  realmNames := by
    rw [size_modifyRealm]
    exact sound.realmNames
  realmOf container := by
    rw [size_modifyRealm]
    exact sound.realmOf container
  names := sound.names

/-- A change of a container that stays in its realm keeps a world sound. -/
theorem modifyContainer (sound : world.Sound) (container : ContainerRef)
    (change : Container → Container) (kept : ∀ held, (change held).realm = held.realm) :
    (world.modifyContainer container change).Sound where
  some_realm := sound.some_realm
  entered := sound.entered
  realmNames := sound.realmNames
  realmOf other :=
    container_modify_keeps (fun held => held.realm < world.realms.size)
      (fun before => by rw [kept]; exact before) (sound.realmOf other)
  names name other found := by
    rw [size_modifyContainer]
    exact sound.names name other found

/-- A change of what a container holds keeps a world sound. -/
theorem modifyContents (sound : world.Sound) (container : ContainerRef)
    (change : Contents → Contents) : (world.modifyContents container change).Sound :=
  sound.modifyContainer container _ fun _ => rfl

/-- Making a container in a realm that exists keeps a world sound. -/
theorem makeContainer (sound : world.Sound) (name : String) {container : Container}
    (inside : container.realm < world.realms.size) :
    (world.makeContainer name container).Sound where
  some_realm := sound.some_realm
  entered := sound.entered
  realmNames := sound.realmNames
  realmOf other := by
    show ((world.containers.add container).entry other).realm < world.realms.size
    rw [Table.entry_add]
    split
    · exact inside
    · exact sound.realmOf other
  names other row found := by
    change (world.names.insert name world.containers.size).find? other = some row at found
    show row < (world.containers.add container).size
    rw [Directory.find?_insert] at found
    rw [Table.size_add]
    split at found
    · cases found
      exact Nat.lt_succ_self _
    · exact Nat.lt_succ_of_lt (sound.names other row found)

/-- Making a realm keeps a world sound. -/
theorem openRealm (sound : world.Sound) (name : String) (label : Option String) (firstId : Nat) :
    (world.openRealm name label firstId).Sound where
  some_realm := by
    show 0 < (world.realms.add _).size
    rw [Table.size_add]
    exact Nat.succ_pos _
  entered realm inside := by
    show realm < (world.realms.add _).size
    rw [Table.size_add]
    exact Nat.lt_succ_of_lt (sound.entered realm inside)
  realmNames other realm found := by
    change (world.realmNames.insert name world.realms.size).find? other = some realm at found
    show realm < (world.realms.add _).size
    rw [Directory.find?_insert] at found
    rw [Table.size_add]
    split at found
    · cases found
      exact Nat.lt_succ_self _
    · exact Nat.lt_succ_of_lt (sound.realmNames other realm found)
  realmOf container := by
    show _ < (world.realms.add _).size
    rw [Table.size_add]
    exact Nat.lt_succ_of_lt (sound.realmOf container)
  names := sound.names

/-- Opening a key keeps a world sound. -/
theorem enter (sound : world.Sound) {realm : RealmRef} (inside : realm < world.realms.size)
    (key : Key) : (world.enter realm key).Sound := by
  have changed := sound.modifyRealm realm fun realm => realm.openKey key
  refine ⟨changed.some_realm, ?_, changed.realmNames, changed.realmOf, changed.names⟩
  intro other member
  show other < (world.realms.modify realm _).size
  rw [Table.size_modify]
  rcases List.mem_cons.mp member with rfl | member
  · exact inside
  · exact sound.entered other member

/-- Closing a key keeps a world sound. -/
theorem leave (sound : world.Sound) (realm : RealmRef) : (world.leave realm).Sound := by
  have changed := sound.modifyRealm realm Realm.closeKey
  refine ⟨changed.some_realm, ?_, changed.realmNames, changed.realmOf, changed.names⟩
  intro other member
  exact changed.entered other (List.mem_of_mem_tail member)

/-- A change of the table of subscriptions keeps a world sound. -/
theorem withSubscriptions (sound : world.Sound)
    (subscriptions : Table (Subscription Callback)) :
    { world with subscriptions := subscriptions }.Sound :=
  ⟨sound.some_realm, sound.entered, sound.realmNames, sound.realmOf, sound.names⟩

/-- Replacing the registry of a channel keeps a world sound. -/
theorem setBoard (sound : world.Sound) (container : ContainerRef) (channel : Channel)
    (board : Switchboard Callback) : (world.setBoard container channel board).Sound := by
  have stays (held : Container) : (held.setRegistry channel board.registry).realm = held.realm := by
    cases channel <;> rfl
  exact (sound.modifyContainer container _ stays).withSubscriptions board.subscriptions

/-- Every turn keeps a world sound. -/
theorem turn (sound : world.Sound) {rest taken put : List Frame} {deed : Deed}
    (turn : Turn world rest taken deed other put) : other.Sound := by
  cases turn with
  | quiet _ _ same | dropped _ same | settled _ same | settledEmpty _ _ same
  | dischargedEmpty _ same
  | passed _ same | notified same | told _ same | tornDown same | refused _ _ _ same
  | setShielded _ _ _ _ same | abandoned _ _ same => exact sound.alike same
  | announced same => exact (sound.enter (sound.realmOf _) _).alike same
  | opened _ _ known same => exact (sound.enter (sound.lt_size_of_knows known) _).alike same
  | closed same => exact (sound.leave _).alike same
  | ranAsked _ _ _ same | ranSettled _ _ same | ranDischarged _ same | bound _ _ _ _ same
  | drawn _ _ _ _ same => exact (sound.modifyRealm _ _).alike same
  | @borrowed _ _ _ container _ _ _ _ _ _ _ _ _ _ same
  | @setBegun _ _ _ container _ _ _ _ _ _ _ _ _ _ _ same =>
    have held := sound.modifyContainer container Container.borrow fun _ => rfl
    exact held.alike same
  | @released container _ same =>
    have free := sound.modifyContainer container Container.release fun _ => rfl
    exact free.alike same
  | inserted _ _ _ _ _ same | removed _ _ _ _ same | stored _ same | rekeyed _ same =>
    exact (sound.modifyContents _ _).alike same
  | replaced _ same => exact ((sound.modifyContents _ _).modifyContents _ _).alike same
  | @listMade _ _ _ realm _ _ _ _ _ known same =>
    have drawn : (world.takeListId realm).Sound := sound.modifyRealm realm _
    refine (drawn.makeContainer _ ?_).alike same
    rw [takeListId, size_modifyRealm]
    exact sound.lt_size_of_knows known
  | cellMade _ _ known same =>
    exact (sound.makeContainer _ (sound.lt_size_of_knows known)).alike same
  | realmOpened _ _ same => exact (sound.openRealm _ _ _).alike same
  | subscribed _ _ _ same => exact ((sound.modifyRealm _ _).setBoard _ _ _).alike same
  | unsubscribed _ _ _ same => exact (sound.setBoard _ _ _).alike same

end Sound

/-- References lead somewhere whenever a script runs. -/
theorem sound_invariant : Invariant fun world _ _ => world.Sound where
  first := Sound.start
  alike same sound := sound.alike same
  turn _ sound _ turn := sound.turn turn

end World

end Observables
