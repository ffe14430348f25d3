import Observables.Proofs.Reference
import Observables.Proofs.Identity

/-!
# What a deed does to the rows

A turn changes the containers and the realms that exist exactly as its deed
says, and leaves everything else in them alone. What it makes anew starts out
empty. An invariant about containers or realms can therefore be checked deed
by deed.
-/

namespace Observables

/-- A container without its subscriptions. -/
def Container.bare (held : Container) : Container :=
  { held with changes := {}, additions := {}, removals := {} }

namespace Deed

/-- What a deed does to a container that exists. -/
def onContainer (container : ContainerRef) (deed : Deed) (held : Container) : Container :=
  match deed with
  | .inserted other position _ item =>
    if container = other then { held with contents := held.contents.insert position item }
    else held
  | .removed other position _ _ =>
    if container = other then { held with contents := held.contents.remove position } else held
  | .stored other value =>
    if container = other then { held with contents := held.contents.store value } else held
  | .replaced other _ _ items =>
    if container = other then
      { held with
        contents := (held.contents.replaceKeys items.length).replaceItems items }
    else held
  | .rekeyed other _ allotted =>
    if container = other then
      { held with contents := held.contents.replaceKeys allotted.length }
    else held
  | .borrowed other | .setBegun other _ => if container = other then held.borrow else held
  | .released other => if container = other then held.release else held
  | _ => held

/-- What a deed does to the teardowns of a realm. -/
def onTeardowns (realm : RealmRef) (deed : Deed) (table : TeardownTable Callback) :
    TeardownTable Callback :=
  match deed with
  | .registered other (some key) teardown =>
    if realm = other then table.register key teardown else table
  | .running _ other key _ => if realm = other then table.erase key else table
  | _ => table

/-- What a deed does to the open keys of a realm. -/
def onActive (realm : RealmRef) (deed : Deed) (active : List Key) : List Key :=
  match deed with
  | .opened _ other key => if realm = other then key :: active else active
  | .closed other => if realm = other then active.tail else active
  | _ => active

/-- No deed moves a container to another realm. -/
theorem realm_onContainer (container : ContainerRef) (deed : Deed) (held : Container) :
    (deed.onContainer container held).realm = held.realm := by
  cases deed <;> simp only [onContainer] <;> split <;> rfl

/-- No deed changes how a container treats failures. -/
theorem surface_onContainer (container : ContainerRef) (deed : Deed) (held : Container) :
    (deed.onContainer container held).surface = held.surface := by
  cases deed <;> simp only [onContainer] <;> split <;> rfl

/-- No deed makes a list of a cell or a cell of a list. -/
theorem isList_onContainer (container : ContainerRef) (deed : Deed) (held : Container) :
    (deed.onContainer container held).contents.isList = held.contents.isList := by
  cases deed <;> simp only [onContainer] <;> split <;>
    simp only [Contents.isList_insert, Contents.isList_remove, Contents.isList_store,
      Contents.isList_replaceKeys, Contents.isList_replaceItems, Container.borrow,
      Container.release]

end Deed

namespace World

/-- A container that exists after a change of some container. -/
theorem container_modifyContainer {world : World} {container : ContainerRef}
    (inside : container < world.containers.size) (other : ContainerRef)
    (change : Container → Container) :
    (world.modifyContainer other change).container container =
      if container = other then change (world.container container)
      else world.container container := by
  by_cases same : container = other
  · subst same
    rw [container_modify inside]
  · rw [if_neg same]
    by_cases there : other < world.containers.size
    · rw [container_modify there, if_neg same]
    · rw [container_modify_of_le (Nat.le_of_not_lt there)]

/-- The realms after a change of a realm, which must exist unless the change leaves a blank realm
alone. -/
theorem realm_modifyRealm_eq {world : World} {realm : RealmRef} {change : Realm → Realm}
    (there : realm < world.realms.size ∨ change default = default) (other : RealmRef) :
    (world.modifyRealm realm change).realm other =
      if other = realm then change (world.realm other) else world.realm other := by
  rcases Nat.lt_or_ge realm world.realms.size with inside | beyond
  · rw [realm_modify inside]
    split
    · next here => rw [here]
    · rfl
  · rw [realm_modify_of_le beyond]
    split
    · next here =>
      rw [here, World.realm, Table.entry_of_size_le beyond]
      exact (there.resolve_left (Nat.not_lt_of_le beyond)).symm
    · rfl

/-- A change of a realm that keeps one field keeps it in all realms. -/
theorem field_modifyRealm_kept {world : World} {realm : RealmRef} {change : Realm → Realm}
    {Value : Type} (field : Realm → Value) (kept : ∀ held, field (change held) = field held)
    (other : RealmRef) :
    field ((world.modifyRealm realm change).realm other) = field (world.realm other) := by
  rcases Nat.lt_or_ge realm world.realms.size with inside | beyond
  · rw [realm_modifyRealm_eq (.inl inside)]
    split
    · exact kept _
    · rfl
  · rw [realm_modify_of_le beyond]

/-- Only a realm that exists has teardowns. -/
theorem lt_size_of_find? {world : World} {realm : RealmRef} {key : Key} {waiting : List Callback}
    (found : (world.realm realm).teardowns.find? key = some waiting) :
    realm < world.realms.size := by
  rcases Nat.lt_or_ge realm world.realms.size with inside | beyond
  · exact inside
  · rw [World.realm, Table.entry_of_size_le beyond] at found
    cases found

/-- Before the first action all realms are as blank as the first one. -/
theorem field_start {Value : Type} (field : Realm → Value)
    (new : field (.make none 0) = field default) (tracing : Bool) (realm : RealmRef) :
    field ((Session.start tracing).world.realm realm) = field default := by
  have row : (Session.start tracing).world.realm realm =
      if realm = 0 then .make none 0 else (Table.entry {} realm) := Table.entry_add _ _ _
  rw [row]
  split
  · exact new
  · rw [Table.entry_of_size_le (Nat.zero_le _)]

/-- A realm that exists after a change of some realm. -/
theorem realm_modifyRealm {world : World} {realm : RealmRef}
    (inside : realm < world.realms.size) (other : RealmRef) (change : Realm → Realm) :
    (world.modifyRealm other change).realm realm =
      if realm = other then change (world.realm realm) else world.realm realm := by
  by_cases same : realm = other
  · subst same
    rw [realm_modify inside]
  · rw [if_neg same]
    by_cases there : other < world.realms.size
    · rw [realm_modify there, if_neg same]
    · rw [realm_modify_of_le (Nat.le_of_not_lt there)]

/-- A realm that exists is not touched by making another one. -/
theorem realm_openRealm {world : World} {realm : RealmRef} (inside : realm < world.realms.size)
    (name : String) (label : Option String) (firstId : Nat) :
    (world.openRealm name label firstId).realm realm = world.realm realm := by
  have apart : realm ≠ world.realms.size := Nat.ne_of_lt inside
  exact (Table.entry_add _ _ _).trans (if_neg apart)

/-- Making a realm changes no field of other realms that a new one has like a blank one. -/
theorem field_openRealm (world : World) {Value : Type} (field : Realm → Value) (name : String)
    (label : Option String) (firstId : Nat) (new : field (.make label firstId) = field default)
    (realm : RealmRef) :
    field ((world.openRealm name label firstId).realm realm) = field (world.realm realm) := by
  have added := Table.entry_add world.realms (.make label firstId) realm
  have made : (world.openRealm name label firstId).realm realm =
      if realm = world.realms.size then .make label firstId else world.realm realm := added
  rw [made]
  split
  · next here =>
    rw [new, here, World.realm, Table.entry_of_size_le (Nat.le_refl _)]
  · rfl

/-- A container that exists is not touched by making another one. -/
theorem container_makeContainer {world : World} {container : ContainerRef}
    (inside : container < world.containers.size) (name : String) (made : Container) :
    (world.makeContainer name made).container container = world.container container := by
  have apart : container ≠ world.containers.size := Nat.ne_of_lt inside
  exact (Table.entry_add _ _ _).trans (if_neg apart)

/-- A container that has just been made. -/
theorem container_makeContainer_self (world : World) (name : String) (made : Container) :
    (world.makeContainer name made).container world.containers.size = made :=
  (Table.entry_add _ _ _).trans (if_pos rfl)

/-- Only one container is made at a time. -/
theorem eq_size_of_makeContainer (world : World) {name : String} {made : Container}
    {container : ContainerRef} (beyond : world.containers.size ≤ container)
    (inside : container < (world.makeContainer name made).containers.size) :
    container = world.containers.size := by
  have bound : container < (world.containers.add made).size := inside
  rw [Table.size_add] at bound
  exact Nat.le_antisymm (Nat.le_of_lt_succ bound) beyond

/-- Subscriptions are all that a change of a registry changes in a container. -/
theorem bare_setBoard {world : World} {container : ContainerRef}
    (inside : container < world.containers.size) (other : ContainerRef) (channel : Channel)
    (board : Switchboard Callback) :
    ((world.setBoard other channel board).container container).bare =
      (world.container container).bare := by
  have changed := container_modifyContainer inside other
    fun held => held.setRegistry channel board.registry
  show ((world.modifyContainer other _).container container).bare = _
  rw [changed]
  split
  · cases channel <;> rfl
  · rfl

end World

/-- How a deed may change the realm that it is about. -/
structure Deed.Moves (deed : Deed) (target : RealmRef) (change : Realm → Realm) : Prop where
  /-- The teardowns change as the deed says. -/
  teardowns : ∀ realm held, (if realm = target then change held else held).teardowns =
    deed.onTeardowns realm held.teardowns
  /-- The open keys change as the deed says. -/
  active : ∀ realm held, (if realm = target then change held else held).active =
    deed.onActive realm held.active
  /-- The label stays. -/
  label : ∀ held, (change held).label = held.label
  /-- No number of a subscription is drawn twice. -/
  subscriptionIds : ∀ held, held.subscriptionIds.peek ≤ (change held).subscriptionIds.peek
  /-- No number of a list is drawn twice. -/
  containerIds : ∀ held, held.containerIds.peek ≤ (change held).containerIds.peek

namespace Deed.Moves

variable {deed : Deed} {target : RealmRef} {key : Key}

/-- A deed about neither keys nor teardowns changes no more of a realm than its supplies. -/
theorem ofSupplies {change : Realm → Realm}
    (teardowns : ∀ realm table, deed.onTeardowns realm table = table)
    (active : ∀ realm keys, deed.onActive realm keys = keys)
    (kept : ∀ held, (change held).teardowns = held.teardowns ∧
      (change held).active = held.active ∧ (change held).label = held.label)
    (subscriptionIds : ∀ held, held.subscriptionIds.peek ≤ (change held).subscriptionIds.peek)
    (containerIds : ∀ held, held.containerIds.peek ≤ (change held).containerIds.peek) :
    deed.Moves target change where
  teardowns := fun realm held => by
    rw [teardowns]
    split
    · exact (kept held).1
    · rfl
  active := fun realm held => by
    rw [active]
    split
    · exact (kept held).2.1
    · rfl
  label := fun held => (kept held).2.2
  subscriptionIds := subscriptionIds
  containerIds := containerIds

/-- A deed about neither keys nor teardowns may change nothing. -/
theorem inert (teardowns : ∀ realm table, deed.onTeardowns realm table = table)
    (active : ∀ realm keys, deed.onActive realm keys = keys) : deed.Moves target id :=
  ofSupplies teardowns active (fun _ => ⟨rfl, rfl, rfl⟩) (fun _ => Nat.le_refl _)
    fun _ => Nat.le_refl _

/-- The number of a subscription is drawn. -/
theorem drawsSubscription (teardowns : ∀ realm table, deed.onTeardowns realm table = table)
    (active : ∀ realm keys, deed.onActive realm keys = keys) :
    deed.Moves target fun held =>
      { held with subscriptionIds := held.subscriptionIds.advance } :=
  ofSupplies teardowns active (fun _ => ⟨rfl, rfl, rfl⟩)
    (fun held => Nat.le_of_lt held.subscriptionIds.peek_lt_peek_advance) fun _ => Nat.le_refl _

/-- The number of a list is drawn. -/
theorem drawsList (teardowns : ∀ realm table, deed.onTeardowns realm table = table)
    (active : ∀ realm keys, deed.onActive realm keys = keys) :
    deed.Moves target fun held => { held with containerIds := held.containerIds.advance } :=
  ofSupplies teardowns active (fun _ => ⟨rfl, rfl, rfl⟩) (fun _ => Nat.le_refl _)
    fun held => Nat.le_of_lt held.containerIds.peek_lt_peek_advance

/-- A deed about the open keys of a realm changes nothing else of it. -/
theorem ofActive (effect : List Key → List Key)
    (teardowns : ∀ realm table, deed.onTeardowns realm table = table)
    (active : ∀ realm keys, deed.onActive realm keys =
      if realm = target then effect keys else keys) :
    deed.Moves target fun held => { held with active := effect held.active } where
  teardowns := fun realm held => by
    rw [teardowns]
    split <;> rfl
  active := fun realm held => by
    rw [active]
    split <;> rfl
  label := fun _ => rfl
  subscriptionIds := fun _ => Nat.le_refl _
  containerIds := fun _ => Nat.le_refl _

/-- A deed about the teardowns of a realm changes nothing else of it. -/
theorem ofTeardowns (effect : TeardownTable Callback → TeardownTable Callback)
    (teardowns : ∀ realm table, deed.onTeardowns realm table =
      if realm = target then effect table else table)
    (active : ∀ realm keys, deed.onActive realm keys = keys) :
    deed.Moves target fun held => { held with teardowns := effect held.teardowns } where
  teardowns := fun realm held => by
    rw [teardowns]
    split <;> rfl
  active := fun realm held => by
    rw [active]
    split <;> rfl
  label := fun _ => rfl
  subscriptionIds := fun _ => Nat.le_refl _
  containerIds := fun _ => Nat.le_refl _

/-- A key is opened. -/
theorem opens {origin : Origin} :
    (opened origin target key).Moves target (Realm.openKey · key) :=
  ofActive (key :: ·) (fun _ _ => rfl) fun _ _ => rfl

/-- A key is closed. -/
theorem closes : (closed target).Moves target Realm.closeKey :=
  ofActive List.tail (fun _ _ => rfl) fun _ _ => rfl

/-- The teardowns of a key are taken. -/
theorem runs {origin : Origin} {batch : List Callback} :
    (running origin target key batch).Moves target (Realm.unbind · key) :=
  ofTeardowns (·.erase key) (fun _ _ => rfl) fun _ _ => rfl

/-- A teardown is bound to a key. -/
theorem binds {teardown : Callback} :
    (registered target (some key) teardown).Moves target (Realm.bind · key teardown) :=
  ofTeardowns (·.register key teardown) (fun _ _ => rfl) fun _ _ => rfl

end Deed.Moves

section

variable {world other : World} {rest taken put : List Frame} {deed : Deed}

/-- A turn changes a container that exists as its deed says. -/
theorem Turn.container (turn : Turn world rest taken deed other put) {container : ContainerRef}
    (inside : container < world.containers.size) :
    (other.container container).bare =
      (deed.onContainer container (world.container container)).bare := by
  cases turn with
  | quiet _ _ same | dropped _ same | settled _ same | settledEmpty _ _ same
  | dischargedEmpty _ same
  | passed _ same | notified same | told _ same | tornDown same | refused _ _ _ same
  | setShielded _ _ _ _ same | abandoned _ _ same | announced same | opened _ _ _ same
  | closed same | ranAsked _ _ _ same | ranSettled _ _ same | ranDischarged _ same
  | bound _ _ _ _ same | drawn _ _ _ _ same =>
    rw [same.container]
    rfl
  | realmOpened _ _ same =>
    rw [same.container]
    rfl
  | borrowed _ _ _ _ _ same | setBegun _ _ _ _ _ _ same =>
    rw [same.container, World.borrow, World.container_modifyContainer inside]
    rfl
  | released same =>
    rw [same.container, World.release, World.container_modifyContainer inside]
    rfl
  | inserted _ _ _ _ _ same | removed _ _ _ _ same | stored _ same =>
    rw [same.container]
    exact congrArg Container.bare (World.container_modifyContainer inside _ _)
  | rekeyed _ same =>
    rw [same.container, World.modifyContents, World.container_modifyContainer inside,
      Deed.onContainer, KeySequence.length_inUse_fill_releaseAll]
  | @replaced replacedIn items _ _ same =>
    have still : container < (world.modifyContents replacedIn
        (.replaceKeys items.length)).containers.size := by
      rw [World.modifyContents, World.size_modifyContainer]
      exact inside
    rw [same.container, World.modifyContents, World.container_modifyContainer still,
      World.modifyContents, World.container_modifyContainer inside, Deed.onContainer]
    split
    · rfl
    · rfl
  | listMade _ _ _ same =>
    rw [same.container]
    exact congrArg Container.bare (World.container_makeContainer (by exact inside) _ _)
  | cellMade _ _ _ same =>
    rw [same.container, World.makeCell, World.container_makeContainer inside]
    rfl
  | subscribed _ _ _ same | unsubscribed _ _ _ same =>
    rw [same.container]
    exact World.bare_setBoard inside _ _ _

/-- A turn changes one realm at most, in the way of its deed, or makes one. -/
theorem Turn.realms (turn : Turn world rest taken deed other put) (sound : world.Sound) :
    (∃ target change, deed.Moves target change ∧ ∀ realm, other.realm realm =
      if realm = target then change (world.realm realm) else world.realm realm) ∨
    ∃ name label firstId, deed = .quiet ∧
      other.realmNames = (world.openRealm name label firstId).realmNames ∧
      ∀ realm, other.realm realm = (world.openRealm name label firstId).realm realm := by
  -- Most turns change no realm, which is said of the first one.
  have still (moves : deed.Moves 0 id) (same : ∀ realm, other.realm realm = world.realm realm) :
      ∃ target change, deed.Moves target change ∧ ∀ realm, other.realm realm =
        if realm = target then change (world.realm realm) else world.realm realm :=
    ⟨0, id, moves, fun realm => (same realm).trans (ite_self _).symm⟩
  have moved {target : RealmRef} {change : Realm → Realm} (moves : deed.Moves target change)
      (there : target < world.realms.size ∨ change default = default)
      (same : ∀ realm, other.realm realm = (world.modifyRealm target change).realm realm) :
      ∃ target change, deed.Moves target change ∧ ∀ realm, other.realm realm =
        if realm = target then change (world.realm realm) else world.realm realm :=
    ⟨target, change, moves, fun realm => (same realm).trans (World.realm_modifyRealm_eq there _)⟩
  cases turn with
  | quiet _ _ same | dropped _ same | settled _ same | settledEmpty _ _ same
  | dischargedEmpty _ same
  | passed _ same | notified same | told _ same | tornDown same | refused _ _ _ same
  | setShielded _ _ _ _ same | abandoned _ _ same | borrowed _ _ _ _ _ same
  | setBegun _ _ _ _ _ _ same | released same | inserted _ _ _ _ _ same
  | removed _ _ _ _ same | stored _ same | rekeyed _ same | replaced _ same
  | cellMade _ _ _ same | unsubscribed _ _ _ same =>
    exact .inl (still (.inert (fun _ _ => rfl) fun _ _ => rfl) same.realm)
  | announced same => exact .inl (moved .opens (.inl (sound.realmOf _)) same.realm)
  | opened _ _ known same =>
    exact .inl (moved .opens (.inl (sound.lt_size_of_knows known)) same.realm)
  | closed same => exact .inl (moved .closes (.inr rfl) same.realm)
  | ranAsked _ _ found same | ranSettled _ found same | ranDischarged found same =>
    exact .inl (moved .runs (.inl (World.lt_size_of_find? found)) same.realm)
  | bound _ _ known _ same =>
    exact .inl (moved .binds (.inl (sound.lt_size_of_knows known)) same.realm)
  | listMade _ _ known same =>
    exact .inl (moved (.drawsList (fun _ _ => rfl) fun _ _ => rfl)
      (.inl (sound.lt_size_of_knows known)) same.realm)
  | @subscribed _ _ _ container _ _ _ _ _ _ same =>
    exact .inl (moved (.drawsSubscription (fun _ _ => rfl) fun _ _ => rfl)
      (.inl (sound.realmOf container)) same.realm)
  | drawn _ _ known either same =>
    rcases either with rfl | rfl
    · exact .inl (moved (.drawsSubscription (fun _ _ => rfl) fun _ _ => rfl)
        (.inl (sound.lt_size_of_knows known)) same.realm)
    · exact .inl (moved (.drawsList (fun _ _ => rfl) fun _ _ => rfl)
        (.inl (sound.lt_size_of_knows known)) same.realm)
  | realmOpened _ _ same => exact .inr ⟨_, _, _, rfl, same.realmNames, same.realm⟩

/-- A turn changes the teardowns of every realm as its deed says. -/
theorem Turn.teardowns (turn : Turn world rest taken deed other put) (sound : world.Sound)
    (realm : RealmRef) :
    (other.realm realm).teardowns = deed.onTeardowns realm (world.realm realm).teardowns := by
  rcases turn.realms sound with ⟨target, change, moves, same⟩ | ⟨_, _, _, rfl, _, same⟩
  · rw [same]
    exact moves.teardowns realm _
  · rw [same]
    refine World.field_openRealm world Realm.teardowns _ _ _ ?_ realm
    rfl

/-- A turn changes the open keys of every realm as its deed says. -/
theorem Turn.active (turn : Turn world rest taken deed other put) (sound : world.Sound)
    (realm : RealmRef) :
    (other.realm realm).active = deed.onActive realm (world.realm realm).active := by
  rcases turn.realms sound with ⟨target, change, moves, same⟩ | ⟨_, _, _, rfl, _, same⟩
  · rw [same]
    exact moves.active realm _
  · rw [same]
    refine World.field_openRealm world Realm.active _ _ _ ?_ realm
    rfl

/-- A turn that gives no name to a realm leaves the labels of all realms as they are. -/
theorem Turn.label (turn : Turn world rest taken deed other put) (sound : world.Sound)
    (named : other.realmNames = world.realmNames) (realm : RealmRef) :
    (other.realm realm).label = (world.realm realm).label := by
  rcases turn.realms sound with ⟨target, change, moves, same⟩ | ⟨name, _, _, _, names, _⟩
  · rw [same]
    split
    · exact moves.label _
    · rfl
  · -- The realm would have had its name before it was made.
    have found : world.realmNames.find? name = some world.realms.size := by
      rw [← named, names]
      exact (Directory.find?_insert _ _ _ _).trans (if_pos rfl)
    exact absurd (sound.realmNames name _ found) (Nat.lt_irrefl _)

/-- No turn takes a supply of numbers back. -/
theorem Turn.supplies (turn : Turn world rest taken deed other put) (sound : world.Sound)
    {realm : RealmRef} (inside : realm < world.realms.size) :
    world.nextSubscriptionId realm ≤ other.nextSubscriptionId realm ∧
      world.nextListId realm ≤ other.nextListId realm := by
  unfold World.nextSubscriptionId World.nextListId
  rcases turn.realms sound with ⟨target, change, moves, same⟩ | ⟨_, _, _, _, _, same⟩
  · rw [same]
    split
    · exact ⟨moves.subscriptionIds _, moves.containerIds _⟩
    · exact ⟨Nat.le_refl _, Nat.le_refl _⟩
  · rw [same, World.realm_openRealm inside]
    exact ⟨Nat.le_refl _, Nat.le_refl _⟩

/-- A turn makes no container, or a list, or a cell. -/
theorem Turn.makes (turn : Turn world rest taken deed other put) :
    other.containers.size = world.containers.size ∨
    (∃ name realm surface items, let keys := .ofLength (world.nextListId realm) items.length
      world.Knows realm ∧ deed = .listMade world.containers.size keys.inUse items ∧
        ((world.takeListId realm).makeContainer name
          ⟨realm, surface, .list items keys, 0, {}, {}, {}⟩).Alike other) ∨
    ∃ name realm surface value, (world.makeCell name realm surface value).Alike other := by
  cases turn with
  | quiet _ _ same | dropped _ same | settled _ same | settledEmpty _ _ same
  | dischargedEmpty _ same
  | passed _ same | notified same | told _ same | tornDown same | refused _ _ _ same
  | setShielded _ _ _ _ same | abandoned _ _ same | announced same | opened _ _ _ same
  | closed same | ranAsked _ _ _ same | ranSettled _ _ same | ranDischarged _ same
  | bound _ _ _ _ same | drawn _ _ _ _ same | realmOpened _ _ same =>
    exact .inl (congrArg Table.size same.containers)
  | borrowed _ _ _ _ _ same | setBegun _ _ _ _ _ _ same | released same
  | inserted _ _ _ _ _ same | removed _ _ _ _ same | stored _ same | rekeyed _ same
  | subscribed _ _ _ same | unsubscribed _ _ _ same =>
    refine .inl ?_
    rw [same.containers]
    exact Table.size_modify _ _ _
  | replaced _ same =>
    refine .inl ?_
    rw [same.containers]
    exact (Table.size_modify _ _ _).trans (Table.size_modify _ _ _)
  | listMade _ _ known same => exact .inr (.inl ⟨_, _, _, _, known, rfl, same⟩)
  | cellMade _ _ _ same => exact .inr (.inr ⟨_, _, _, _, same⟩)

/-- What a turn makes is a cell, or a list with the next number of its realm. -/
theorem Turn.made (turn : Turn world rest taken deed other put) (sound : world.Sound)
    {container : ContainerRef} (beyond : world.containers.size ≤ container)
    (inside : container < other.containers.size) :
    container = world.containers.size ∧ (other.container container).borrows = 0 ∧
      ((other.container container).contents.isList = true →
        ∃ items, let realm := other.realmOf container
          let keys := KeySequence.ofLength (world.nextListId realm) items.length
          deed = .listMade container keys.inUse items ∧
          (other.container container).contents = .list items keys ∧
          other.nextListId realm = world.nextListId realm + 1) := by
  obtain size | ⟨name, realm, surface, items, known, rfl, same⟩ |
    ⟨name, realm, surface, value, same⟩ := turn.makes
  · rw [size] at inside
    exact absurd inside (Nat.not_lt_of_le beyond)
  · rw [same.containers] at inside
    have last : container = world.containers.size :=
      World.eq_size_of_makeContainer (world.takeListId realm) beyond inside
    have row := (same.container container).trans
      (last ▸ World.container_makeContainer_self (world.takeListId realm) name _)
    refine ⟨last, by rw [row], fun _ => ⟨items, ?_⟩⟩
    have belongs : other.realmOf container = realm := by rw [World.realmOf, row]
    rw [belongs, row]
    refine ⟨by rw [last], rfl, ?_⟩
    unfold World.nextListId
    rw [same.realm]
    have drawn := World.realm_modifyRealm (sound.lt_size_of_knows known) realm
      fun held => { held with containerIds := held.containerIds.advance }
    rw [if_pos rfl] at drawn
    exact congrArg (·.containerIds.peek) drawn
  · rw [same.containers] at inside
    have last := World.eq_size_of_makeContainer world beyond inside
    have row := (same.container container).trans
      (last ▸ World.container_makeContainer_self world _ _)
    refine ⟨last, by rw [row], fun isList => ?_⟩
    rw [row] at isList
    cases isList

/-- No container is ever lost. -/
theorem Turn.size_le (turn : Turn world rest taken deed other put) :
    world.containers.size ≤ other.containers.size := by
  have adds (made : Container) : world.containers.size ≤ (world.containers.add made).size :=
    Nat.le_of_lt (Nat.lt_of_lt_of_eq (Nat.lt_succ_self _) (Table.size_add _ _).symm)
  obtain size | ⟨_, _, _, _, _, _, same⟩ | ⟨_, _, _, _, same⟩ := turn.makes
  · exact Nat.le_of_eq size.symm
  · rw [same.containers]
    exact adds _
  · rw [same.containers]
    exact adds _

variable {container : ContainerRef} (turn : Turn world rest taken deed other put)
  (inside : container < world.containers.size)

include turn inside

/-- A container stays in its realm. -/
theorem Turn.realmOf : other.realmOf container = world.realmOf container :=
  (congrArg (·.realm) (turn.container inside)).trans (deed.realm_onContainer _ _)

/-- A container stays as it treats failures. -/
theorem Turn.surface :
    (other.container container).surface = (world.container container).surface :=
  (congrArg (·.surface) (turn.container inside)).trans (deed.surface_onContainer _ _)

/-- A list stays a list and a cell stays a cell. -/
theorem Turn.isList :
    (other.container container).contents.isList =
      (world.container container).contents.isList :=
  (congrArg (·.contents.isList) (turn.container inside)).trans (deed.isList_onContainer _ _)

end

end Observables
