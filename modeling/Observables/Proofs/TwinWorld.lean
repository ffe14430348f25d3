import Observables.Proofs.Twin
import Observables.Proofs.Retention

/-!
# The worlds of a container in company and alone

Every single change of a world that the scripts of a container make, in
company and alone, leaves the two worlds with the same in common. Only a new
subscription adds to the bond.
-/

namespace Observables

open Script

/-- A registry that has been put back in one of two runs lists the same as in the other one if
its new entries do. -/
theorem Twin.Bonds.entries_setBoard {twin : Twin} {bond later : Bond} {left right : World}
    (bonds : twin.Bonds bond left right) (more : ∀ pair ∈ bond, pair ∈ later)
    (here : twin.estate.container < left.containers.size)
    (there : twin.other < right.containers.size)
    {channel : Channel} {board other : Switchboard Callback}
    (entries : List.Forall₂ (fun one two => (one, two) ∈ later) board.registry.entries
      other.registry.entries) (named : Channel) :
    List.Forall₂ (fun one two => (one, two) ∈ later)
      (((left.setBoard twin.estate.container channel board).container
        twin.estate.container).registry named).entries
      (((right.setBoard twin.other channel other).container
        twin.other).registry named).entries := by
  rw [World.registry_setBoard here, World.registry_setBoard there]
  by_cases same : named = channel
  · rw [if_pos ⟨rfl, same⟩, if_pos ⟨rfl, same⟩]
    exact entries
  · rw [if_neg fun both => same both.2, if_neg fun both => same both.2]
    exact (bonds.entries named).imp fun _ _ inside => more _ inside

namespace Twin.Bonds

variable {twin : Twin} {bond : Bond} {left right : World}

/-- The registries of other containers are as they were when one has been put back. -/
theorem registry_apart (here : twin.estate.container < left.containers.size)
    {channel named : Channel} {board : Switchboard Callback} {container : ContainerRef}
    (other : container ≠ twin.estate.container) :
    ((left.setBoard twin.estate.container channel board).container container).registry named =
      (left.container container).registry named := by
  rw [World.registry_setBoard here, if_neg fun both => other both.1]

/-- Callbacks that do the same are subscribed under numbers above all others. -/
theorem insert (bonds : twin.Bonds bond left right)
    (here : twin.estate.container < left.containers.size)
    (there : twin.other < right.containers.size)
    (channel : Channel) {callback other : Callback} (same : twin.Callbacks callback other)
    {id second : Nat} (above : ∀ pair ∈ bond, pair.1.id < id ∧ pair.2.id < second)
    (drawn : id < left.nextSubscriptionId twin.realm ∧
      second < right.nextSubscriptionId twin.realm) :
    twin.Bonds ((⟨id, left.subscriptions.size⟩, ⟨second, right.subscriptions.size⟩) :: bond)
      (left.setBoard twin.estate.container channel
        ((left.board twin.estate.container channel).insert id callback))
      (right.setBoard twin.other channel
        ((right.board twin.other channel).insert second other)) := by
  have old (pair : Registration × Registration) (inside : pair ∈ bond) :
      pair.1.subscription < left.subscriptions.size ∧
        pair.2.subscription < right.subscriptions.size := by
    obtain ⟨one, two, here, there, _⟩ := bonds.callbacks pair inside
    exact ⟨Array.getElem?_eq_some_iff.mp here |>.1, Array.getElem?_eq_some_iff.mp there |>.1⟩
  have more (pair : Registration × Registration) (inside : pair ∈ bond) :
      pair ∈ (((⟨id, left.subscriptions.size⟩, ⟨second, right.subscriptions.size⟩) :
        Registration × Registration) :: bond) := List.mem_cons_of_mem _ inside
  refine ⟨bonds.entries_setBoard more here there ?_, fun pair inside => ?_,
    fun first one last two => ?_, fun first one last two => ?_, fun pair inside => ?_,
    fun container other named entry inside => ?_⟩
  · -- New numbers are above all others, so both come last.
    have entries := bonds.entries channel
    have lower : ∀ entry ∈ ((left.container twin.estate.container).registry channel).entries,
        entry.id < id :=
      (List.forall₂_and_left _ _).mp
        (entries.imp fun _ _ inside => ⟨(above _ inside).1, inside⟩) |>.1
    have lowest : ∀ entry ∈ ((right.container twin.other).registry channel).entries,
        entry.id < second :=
      (List.forall₂_and_left _ _).mp
        (entries.flip.imp fun _ _ inside => ⟨(above _ inside).2, inside⟩) |>.1
    show List.Forall₂ _ (Registry.place _ _) (Registry.place _ _)
    rw [Registry.place_of_lt lower, Registry.place_of_lt lowest]
    exact List.rel_append (entries.imp fun _ _ inside => more _ inside)
      (.cons List.mem_cons_self .nil)
  · rcases List.mem_cons.mp inside with rfl | inside
    · exact ⟨⟨id, callback, true⟩, ⟨second, other, true⟩,
        (Table.get?_add _ _ _).trans (if_pos rfl), (Table.get?_add _ _ _).trans (if_pos rfl),
        rfl, same⟩
    · obtain ⟨one, two, found, known, same⟩ := bonds.callbacks pair inside
      obtain ⟨first, last⟩ := old pair inside
      exact ⟨one, two, ((Table.get?_add _ _ _).trans (if_neg (Nat.ne_of_lt first))).trans found,
        ((Table.get?_add _ _ _).trans (if_neg (Nat.ne_of_lt last))).trans known, same⟩
  · rcases List.mem_cons.mp one with rfl | one <;> rcases List.mem_cons.mp two with rfl | two
    · exact ⟨fun _ => rfl, fun _ => rfl⟩
    · obtain ⟨below, lower⟩ := above last two
      exact iff_of_false (Nat.ne_of_gt lower) (Nat.ne_of_gt below)
    · obtain ⟨below, lower⟩ := above first one
      exact iff_of_false (Nat.ne_of_lt lower) (Nat.ne_of_lt below)
    · exact bonds.ids first one last two
  · rcases List.mem_cons.mp one with rfl | one <;> rcases List.mem_cons.mp two with rfl | two
    · exact ⟨fun _ => rfl, fun _ => rfl⟩
    · obtain ⟨below, lower⟩ := old last two
      exact iff_of_false (Nat.ne_of_gt lower) (Nat.ne_of_gt below)
    · obtain ⟨below, lower⟩ := old first one
      exact iff_of_false (Nat.ne_of_lt lower) (Nat.ne_of_lt below)
    · exact bonds.rows first one last two
  · rcases List.mem_cons.mp inside with rfl | inside
    · exact drawn
    · exact bonds.drawn pair inside
  · rw [registry_apart here other] at inside
    obtain ⟨below, apart⟩ := bonds.apart container other named entry inside
    refine ⟨Nat.lt_of_lt_of_eq (Nat.lt_succ_of_lt below) (Table.size_add _ _).symm,
      fun pair there => ?_⟩
    rcases List.mem_cons.mp there with rfl | there
    · exact Nat.ne_of_lt below
    · exact apart pair there

/-- Putting a registry back as it was changes nothing. -/
theorem keep (bonds : twin.Bonds bond left right)
    (here : twin.estate.container < left.containers.size)
    (there : twin.other < right.containers.size)
    (channel : Channel) :
    twin.Bonds bond
      (left.setBoard twin.estate.container channel (left.board twin.estate.container channel))
      (right.setBoard twin.other channel (right.board twin.other channel)) :=
  { bonds with
    entries := bonds.entries_setBoard (fun _ inside => inside) here there (bonds.entries channel)
    apart := fun container other named entry inside => by
      rw [registry_apart here other] at inside
      exact bonds.apart container other named entry inside }

/-- A subscription is ended in both runs. -/
theorem unsubscribe (bonds : twin.Bonds bond left right)
    (here : twin.estate.container < left.containers.size)
    (there : twin.other < right.containers.size)
    (channel : Channel) {id second : Nat} {row other : SubscriptionRef}
    (inside : (⟨id, row⟩, ⟨second, other⟩) ∈ bond) :
    twin.Bonds bond
      (left.setBoard twin.estate.container channel
        ⟨left.subscriptions.modify row Subscription.deactivate,
          ((left.container twin.estate.container).registry channel).erase id⟩)
      (right.setBoard twin.other channel
        ⟨right.subscriptions.modify other Subscription.deactivate,
          ((right.container twin.other).registry channel).erase second⟩) := by
  refine ⟨bonds.entries_setBoard (fun _ inside => inside) here there
      (bonds.erase ⟨row, other, inside⟩ channel), fun pair there => ?_, bonds.ids, bonds.rows,
    bonds.drawn, fun container apart named entry listed => ?_⟩
  · obtain ⟨one, two, found, known, same⟩ := bonds.callbacks pair there
    have first := Table.get?_modify left.subscriptions row pair.1.subscription
      Subscription.deactivate
    have last := Table.get?_modify right.subscriptions other pair.2.subscription
      Subscription.deactivate
    have both : other = pair.2.subscription ↔ row = pair.1.subscription :=
      bonds.rows _ inside pair there
    rw [found] at first
    rw [known] at last
    by_cases here : row = pair.1.subscription
    · rw [if_pos here] at first
      rw [if_pos (both.mpr here)] at last
      exact ⟨one.deactivate, two.deactivate, first, last, same.deactivate⟩
    · rw [if_neg here] at first
      rw [if_neg fun there => here (both.mp there)] at last
      exact ⟨one, two, first, last, same⟩
  · rw [registry_apart here apart] at listed
    obtain ⟨below, other⟩ := bonds.apart container apart named entry listed
    exact ⟨Nat.lt_of_lt_of_eq below (Table.size_modify _ _ _).symm, other⟩

end Twin.Bonds

namespace Twin.Worlds

variable {twin : Twin} {bond : Bond} {left right : World}

/-- What the container holds is the same. -/
theorem contents (worlds : twin.Worlds bond left right) :
    (right.container twin.other).contents = (left.container twin.estate.container).contents :=
  (Container.bare_eq.mp worlds.bare).2.2.1

/-- The container treats failures the same. -/
theorem surface (worlds : twin.Worlds bond left right) :
    (right.container twin.other).surface = (left.container twin.estate.container).surface :=
  (Container.bare_eq.mp worlds.bare).2.1

/-- The container belongs to the same realm. -/
theorem realmOf (worlds : twin.Worlds bond left right) :
    right.realmOf twin.other = left.realmOf twin.estate.container :=
  (Container.bare_eq.mp worlds.bare).1

/-- The container has the same elements. -/
theorem items (worlds : twin.Worlds bond left right) :
    (right.container twin.other).items = (left.container twin.estate.container).items :=
  congrArg Contents.items worlds.contents

/-- The container has the same keys. -/
theorem keys (worlds : twin.Worlds bond left right) :
    (right.container twin.other).keys = (left.container twin.estate.container).keys :=
  congrArg Contents.keys worlds.contents

/-- The container has the same value. -/
theorem value (worlds : twin.Worlds bond left right) :
    (right.container twin.other).value = (left.container twin.estate.container).value :=
  congrArg Contents.value worlds.contents

/-- Readers hold on to the container, or none does. -/
theorem isBorrowed (worlds : twin.Worlds bond left right) :
    right.isBorrowed twin.other = left.isBorrowed twin.estate.container :=
  congrArg (· != 0) (Container.bare_eq.mp worlds.bare).2.2.2

/-- The container is described the same. -/
theorem describe (worlds : twin.Worlds bond left right) :
    (right.container twin.other).describe =
      (left.container twin.estate.container).describe := by
  have count : (right.container twin.other).changes.size =
      (left.container twin.estate.container).changes.size := worlds.size .change
  unfold Container.describe
  rw [worlds.contents, count]

/-- The current realm is the same. -/
theorem current (worlds : twin.Worlds bond left right) : right.current = left.current := by
  unfold World.current
  rw [worlds.entered]

/-- The innermost open key of a realm is the same. -/
theorem innermost (worlds : twin.Worlds bond left right) (realm : RealmRef) :
    (right.realm realm).activeKey? = (left.realm realm).activeKey? :=
  congrArg List.head? (worlds.active realm)

/-- The innermost open key is the same. -/
theorem activeKey? (worlds : twin.Worlds bond left right) :
    right.activeKey? = left.activeKey? := by
  unfold World.activeKey?
  rw [worlds.current, worlds.innermost]

/-- What its names stand for is the same. -/
theorem held (worlds : twin.Worlds bond left right) (name : String)
    (allowed : twin.estate.names name = true) : right.held name = left.held name := by
  obtain ⟨here, there⟩ := worlds.names name allowed
  unfold World.held
  rw [here, there]
  exact worlds.value

/-- Something becomes visible in both runs, the same but for numbers. -/
theorem emit (worlds : twin.Worlds bond left right) {event other : Event}
    (same : other.veiled = event.veiled) :
    twin.Worlds bond (left.emit event) (right.emit other) :=
  { worlds with told := congrArg₂ List.cons same worlds.told }

/-- The same event is traced in both runs. -/
theorem trace (worlds : twin.Worlds bond left right) (event : TraceEvent) :
    twin.Worlds bond (left.trace event) (right.trace event) := by
  unfold World.trace Journal.trace
  rw [worlds.tracing]
  split
  · exact worlds.emit rfl
  · exact worlds

/-- The same events are traced in both runs. -/
theorem traceAll (worlds : twin.Worlds bond left right) (events : List TraceEvent) :
    twin.Worlds bond (left.traceAll events) (right.traceAll events) := by
  induction events generalizing left right with
  | nil => exact worlds
  | cons event events ih => exact ih (worlds.trace event)

/-- A limited body is arrived at in both runs. -/
theorem arrive (worlds : twin.Worlds bond left right) (name : String) (count : Nat) :
    twin.Worlds bond { left with arrivals := left.arrivals.insert name count }
      { right with arrivals := right.arrivals.insert name count } := by
  refine { worlds with arrivals := fun asked own => ?_ }
  rw [Directory.find?_insert, Directory.find?_insert]
  split
  · rfl
  · exact worlds.arrivals asked own

/-- The container changes in both runs, but not in its registries. -/
theorem modifyContainer (worlds : twin.Worlds bond left right) {change : Container → Container}
    (bare : ∀ {held other : Container}, other.bare = held.bare →
      (change other).bare = (change held).bare)
    (realm : ∀ held, (change held).realm = held.realm)
    (registry : ∀ held channel, (change held).registry channel = held.registry channel)
    (numbered : ∀ held, held.contents.Numbered twin.number →
      (change held).contents.Numbered twin.number) :
    twin.Worlds bond (left.modifyContainer twin.estate.container change)
      (right.modifyContainer twin.other change) := by
  have here : (left.modifyContainer twin.estate.container change).container
      twin.estate.container = change (left.container twin.estate.container) := by
    rw [World.container_modify worlds.here, if_pos rfl]
  have there : (right.modifyContainer twin.other change).container twin.other =
      change (right.container twin.other) := by
    rw [World.container_modify worlds.there, if_pos rfl]
  exact { worlds with
    entries := fun channel => by
      rw [here, there, registry, registry]
      exact worlds.entries channel
    apart := fun container other channel entry inside => by
      rw [World.registry_modifyContainer left _ registry] at inside
      exact worlds.apart container other channel entry inside
    here := by
      rw [World.size_modifyContainer]
      exact worlds.here
    there := by
      rw [World.size_modifyContainer]
      exact worlds.there
    realm := by
      unfold World.realmOf
      rw [here, realm]
      exact worlds.realm
    bare := by
      rw [here, there]
      exact bare worlds.bare
    numbered := by
      rw [here]
      exact numbered _ worlds.numbered }

/-- What the container holds changes in both runs. -/
theorem modifyContents (worlds : twin.Worlds bond left right) {change : Contents → Contents}
    (numbered : ∀ contents : Contents, contents.Numbered twin.number →
      (change contents).Numbered twin.number) :
    twin.Worlds bond (left.modifyContents twin.estate.container change)
      (right.modifyContents twin.other change) := by
  refine worlds.modifyContainer (fun same => ?_) (fun _ => rfl) (fun _ channel => ?_)
    fun held => numbered held.contents
  · rw [Container.bare_eq] at same ⊢
    exact ⟨same.1, same.2.1, congrArg change same.2.2.1, same.2.2.2⟩
  · cases channel <;> rfl

/-- One more reader holds on to the container in both runs. -/
theorem borrow (worlds : twin.Worlds bond left right) :
    twin.Worlds bond (left.borrow twin.estate.container) (right.borrow twin.other) := by
  refine worlds.modifyContainer (fun same => ?_) (fun _ => rfl) (fun _ channel => ?_)
    fun _ numbered => numbered
  · rw [Container.bare_eq] at same ⊢
    exact ⟨same.1, same.2.1, same.2.2.1, congrArg (· + 1) same.2.2.2⟩
  · cases channel <;> rfl

/-- One reader lets go of the container in both runs. -/
theorem release (worlds : twin.Worlds bond left right) :
    twin.Worlds bond (left.release twin.estate.container) (right.release twin.other) := by
  refine worlds.modifyContainer (fun same => ?_) (fun _ => rfl) (fun _ channel => ?_)
    fun _ numbered => numbered
  · rw [Container.bare_eq] at same ⊢
    exact ⟨same.1, same.2.1, same.2.2.1, congrArg (· - 1) same.2.2.2⟩
  · cases channel <;> rfl

/-- A value is stored in both runs. -/
theorem store (worlds : twin.Worlds bond left right) (value : Value) :
    twin.Worlds bond (left.store twin.estate.container value) (right.store twin.other value) :=
  worlds.modifyContents fun _ numbered => numbered.store value

/-- An element is put into the container in both runs. -/
theorem insertElement (worlds : twin.Worlds bond left right) (position : Nat) (item : Value) :
    twin.Worlds bond (left.insertElement twin.estate.container position item)
      (right.insertElement twin.other position item) := by
  unfold World.insertElement
  rw [worlds.keys]
  exact (worlds.modifyContents fun _ numbered => numbered.insert position item).traceAll _

/-- An element is taken out of the container in both runs. -/
theorem removeElement (worlds : twin.Worlds bond left right) (position : Nat) :
    twin.Worlds bond (left.removeElement twin.estate.container position)
      (right.removeElement twin.other position) := by
  unfold World.removeElement
  rw [worlds.keys]
  exact (worlds.modifyContents fun _ numbered => numbered.remove position).traceAll _

/-- The keys of the container are replaced in both runs. -/
theorem replaceKeys (worlds : twin.Worlds bond left right) (count : Nat) :
    twin.Worlds bond (left.replaceKeys twin.estate.container count)
      (right.replaceKeys twin.other count) := by
  unfold World.replaceKeys
  rw [worlds.keys]
  exact (worlds.modifyContents fun _ numbered => numbered.replaceKeys count).traceAll _

/-- The elements of the container are replaced in both runs. -/
theorem replaceItems (worlds : twin.Worlds bond left right) (items : List Value) :
    twin.Worlds bond (left.replaceItems twin.estate.container items)
      (right.replaceItems twin.other items) :=
  worlds.modifyContents fun _ numbered => numbered.replaceItems items

/-- The realm changes in both runs. -/
theorem modifyRealm (worlds : twin.Worlds bond left right) {change other : Realm → Realm}
    (label : ∀ held, (change held).label = held.label ∧ (other held).label = held.label)
    (ids : ∀ held, held.subscriptionIds.peek ≤ (change held).subscriptionIds.peek ∧
      held.subscriptionIds.peek ≤ (other held).subscriptionIds.peek)
    (teardowns : ∀ key, twin.number = some key.container →
      Option.Rel (List.Forall₂ twin.Callbacks)
        ((change (left.realm twin.realm)).teardowns.find? key)
        ((other (right.realm twin.realm)).teardowns.find? key))
    (active : (other (right.realm twin.realm)).active = (change (left.realm twin.realm)).active)
    (owned : ∀ key ∈ (change (left.realm twin.realm)).active,
      twin.number = some key.container) :
    twin.Worlds bond (left.modifyRealm twin.realm change)
      (right.modifyRealm twin.realm other) := by
  have here (realm : RealmRef) := World.realm_modify worlds.realmHere realm change
  have there (realm : RealmRef) := World.realm_modify worlds.realmThere realm other
  exact { worlds with
    drawn := fun pair inside => by
      obtain ⟨one, two⟩ := worlds.drawn pair inside
      unfold World.nextSubscriptionId
      rw [here, there, if_pos rfl, if_pos rfl]
      exact ⟨Nat.lt_of_lt_of_le one (ids _).1, Nat.lt_of_lt_of_le two (ids _).2⟩
    realmHere := by
      rw [World.size_modifyRealm]
      exact worlds.realmHere
    realmThere := by
      rw [World.size_modifyRealm]
      exact worlds.realmThere
    labels := fun realm => by
      rw [here, there]
      split
      · rw [(label _).1, (label _).2, worlds.labels]
      · exact worlds.labels realm
    teardowns := fun key own => by
      rw [here, there, if_pos rfl, if_pos rfl]
      exact teardowns key own
    active := fun realm => by
      rw [here, there]
      split
      · exact active
      · exact worlds.active realm
    owned := fun realm key inside => by
      rw [here] at inside
      split at inside
      · next same => exact ⟨same, owned key inside⟩
      · exact worlds.owned realm key inside }

/-- A key of the container is opened in both runs. -/
theorem enter (worlds : twin.Worlds bond left right) {key : Key}
    (own : twin.number = some key.container) :
    twin.Worlds bond (left.enter twin.realm key) (right.enter twin.realm key) := by
  have opened : twin.Worlds bond (left.modifyRealm twin.realm (Realm.openKey · key))
      (right.modifyRealm twin.realm (Realm.openKey · key)) := by
    refine worlds.modifyRealm (fun _ => ⟨rfl, rfl⟩) (fun _ => ⟨Nat.le_refl _, Nat.le_refl _⟩)
      worlds.teardowns (congrArg (key :: ·) (worlds.active _)) fun other inside => ?_
    rcases List.mem_cons.mp inside with rfl | inside
    · exact own
    · exact (worlds.owned _ other inside).2
  exact { opened with entered := congrArg (twin.realm :: ·) worlds.entered }

/-- The innermost key is closed in both runs. -/
theorem leave (worlds : twin.Worlds bond left right) :
    twin.Worlds bond (left.leave twin.realm) (right.leave twin.realm) := by
  have closed : twin.Worlds bond (left.modifyRealm twin.realm Realm.closeKey)
      (right.modifyRealm twin.realm Realm.closeKey) :=
    worlds.modifyRealm (fun _ => ⟨rfl, rfl⟩) (fun _ => ⟨Nat.le_refl _, Nat.le_refl _⟩)
      worlds.teardowns (congrArg List.tail (worlds.active _))
      fun other inside => (worlds.owned _ other (List.mem_of_mem_tail inside)).2
  exact { closed with entered := congrArg List.tail worlds.entered }

/-- A subscription number is taken in both runs. -/
theorem takeSubscriptionId (worlds : twin.Worlds bond left right) :
    twin.Worlds bond (left.takeSubscriptionId twin.realm)
      (right.takeSubscriptionId twin.realm) :=
  worlds.modifyRealm (fun _ => ⟨rfl, rfl⟩)
    (fun held => ⟨Nat.le_of_lt held.subscriptionIds.peek_lt_peek_advance,
      Nat.le_of_lt held.subscriptionIds.peek_lt_peek_advance⟩)
    worlds.teardowns (worlds.active _) fun key inside => (worlds.owned _ key inside).2

/-- Teardowns that do the same are bound to the same key, or none is. -/
theorem register (worlds : twin.Worlds bond left right) (realm : RealmRef)
    {teardown other : Callback} (same : twin.Callbacks teardown other) :
    (right.register realm other).1 = (left.register realm teardown).1 ∧
      twin.Worlds bond (left.register realm teardown).2 (right.register realm other).2 := by
  unfold World.register
  rw [worlds.innermost, worlds.labels]
  cases active : (left.realm realm).activeKey? with
  | none => exact ⟨rfl, worlds.trace _⟩
  | some key =>
    obtain ⟨rfl, own⟩ := worlds.owned realm key (List.mem_of_head? active)
    have bound : twin.Worlds bond (left.modifyRealm twin.realm (Realm.bind · key teardown))
        (right.modifyRealm twin.realm (Realm.bind · key other)) := by
      refine worlds.modifyRealm (fun _ => ⟨rfl, rfl⟩) (fun _ => ⟨Nat.le_refl _, Nat.le_refl _⟩)
        (fun asked owns => ?_) (worlds.active _) fun key inside => (worlds.owned _ key inside).2
      show Option.Rel _ (((left.realm twin.realm).teardowns.register key teardown).find? asked)
        (((right.realm twin.realm).teardowns.register key other).find? asked)
      rw [TeardownTable.find?_register, TeardownTable.find?_register]
      split
      · exact .some (List.rel_append (worlds.pending own) (.cons same .nil))
      · exact worlds.teardowns asked owns
    exact ⟨rfl, bound.trace _⟩

/-- The same teardowns are taken out of the realm, or there are none. -/
theorem takeTeardowns (worlds : twin.Worlds bond left right) {key : Key}
    (own : twin.number = some key.container) :
    Option.Rel (fun one two => List.Forall₂ twin.Callbacks one.1 two.1 ∧
        twin.Worlds bond one.2 two.2)
      (left.takeTeardowns twin.realm key) (right.takeTeardowns twin.realm key) := by
  unfold World.takeTeardowns
  rw [worlds.labels]
  match (left.realm twin.realm).teardowns.find? key,
    (right.realm twin.realm).teardowns.find? key, worlds.teardowns key own with
  | _, _, .none => exact .none
  | _, _, .some same =>
    have taken : twin.Worlds bond (left.modifyRealm twin.realm (Realm.unbind · key))
        (right.modifyRealm twin.realm (Realm.unbind · key)) := by
      refine worlds.modifyRealm (fun _ => ⟨rfl, rfl⟩) (fun _ => ⟨Nat.le_refl _, Nat.le_refl _⟩)
        (fun asked owns => ?_) (worlds.active _) fun key inside => (worlds.owned _ key inside).2
      show Option.Rel _ (((left.realm twin.realm).teardowns.erase key).find? asked)
        (((right.realm twin.realm).teardowns.erase key).find? asked)
      rw [TeardownTable.find?_erase, TeardownTable.find?_erase]
      split
      · exact .none
      · exact worlds.teardowns asked owns
    dsimp only
    rw [same.length_eq]
    exact .some ⟨same, taken.trace _⟩

/-- A handle of the same subscription is kept in both runs. -/
theorem keepHandle (worlds : twin.Worlds bond left right) (name : String) {handle other : Handle}
    (same : twin.Handles bond handle other) :
    twin.Worlds bond (left.keepHandle name handle) (right.keepHandle name other) := by
  unfold World.keepHandle
  split
  · exact worlds
  · refine { worlds with handles := fun asked own => ?_ }
    rw [Directory.find?_insert, Directory.find?_insert]
    split
    · exact .some same
    · exact worlds.handles asked own

/-- A handle is forgotten in both runs. -/
theorem forgetHandle (worlds : twin.Worlds bond left right) (name : String) :
    twin.Worlds bond { left with handles := left.handles.erase name }
      { right with handles := right.handles.erase name } := by
  refine { worlds with handles := fun asked own => ?_ }
  rw [Directory.find?_erase, Directory.find?_erase]
  split
  · exact .none
  · exact worlds.handles asked own

/-- The registry of a channel changes in both runs, with the subscriptions. -/
theorem setBoard (worlds : twin.Worlds bond left right) {later : Bond}
    (more : ∀ pair ∈ bond, pair ∈ later) {channel : Channel} {board other : Switchboard Callback}
    (bonds : twin.Bonds later (left.setBoard twin.estate.container channel board)
      (right.setBoard twin.other channel other)) :
    twin.Worlds later (left.setBoard twin.estate.container channel board)
      (right.setBoard twin.other channel other) := by
  have here := World.bare_setBoard worlds.here twin.estate.container channel board
  have there := World.bare_setBoard worlds.there twin.other channel other
  have same := Container.bare_eq.mp here
  exact { worlds with
    toBonds := bonds
    here := Nat.lt_of_lt_of_eq worlds.here (World.size_modifyContainer _ _ _).symm
    there := Nat.lt_of_lt_of_eq worlds.there (World.size_modifyContainer _ _ _).symm
    realm := same.1.trans worlds.realm
    bare := there.trans (worlds.bare.trans here.symm)
    numbered := by
      rw [same.2.2.1]
      exact worlds.numbered
    handles := fun name own => by
      match left.handles.find? name, right.handles.find? name, worlds.handles name own with
      | _, _, .none => exact .none
      | _, _, .some handles => exact .some (handles.mono more) }

/-- Callbacks that do the same are subscribed in both runs. -/
theorem subscribe (worlds : twin.Worlds bond left right) (channel : Channel)
    {callback other : Callback} (same : twin.Callbacks callback other) :
    twin.Worlds
      ((⟨left.nextSubscriptionId twin.realm, left.subscriptions.size⟩,
        ⟨right.nextSubscriptionId twin.realm, right.subscriptions.size⟩) :: bond)
      (left.subscribe twin.estate.container channel callback)
      (right.subscribe twin.other channel other) := by
  have taken := worlds.takeSubscriptionId
  have advanced (world : World) (inside : twin.realm < world.realms.size) :
      world.nextSubscriptionId twin.realm <
        (world.takeSubscriptionId twin.realm).nextSubscriptionId twin.realm := by
    unfold World.nextSubscriptionId World.takeSubscriptionId
    rw [World.realm_modify inside, if_pos rfl]
    exact IdSupply.peek_lt_peek_advance _
  unfold World.subscribe
  rw [worlds.realmOf, worlds.realm]
  exact taken.setBoard (fun _ inside => List.mem_cons_of_mem _ inside)
    (taken.toBonds.insert taken.here taken.there channel same worlds.drawn
      ⟨advanced left worlds.realmHere, advanced right worlds.realmThere⟩)

/-- A subscription is ended in both runs, or in neither. -/
theorem unsubscribe (worlds : twin.Worlds bond left right) {handle other : Handle}
    (same : twin.Handles bond handle other) :
    (right.unsubscribe other).1 = (left.unsubscribe handle).1 ∧
      twin.Worlds bond (left.unsubscribe handle).2 (right.unsubscribe other).2 := by
  have found := worlds.find? same.bound handle.channel
  unfold World.unsubscribe World.board Switchboard.unsubscribe
  rw [same.here, same.there, same.channel]
  match ((left.container twin.estate.container).registry handle.channel).find? handle.id,
    ((right.container twin.other).registry handle.channel).find? other.id, found with
  | _, _, .none => exact ⟨rfl, worlds.setBoard (fun _ inside => inside)
      (worlds.toBonds.keep worlds.here worlds.there handle.channel)⟩
  | _, _, .some inside => exact ⟨rfl, worlds.setBoard (fun _ inside => inside)
      (worlds.toBonds.unsubscribe worlds.here worlds.there handle.channel inside)⟩

end Twin.Worlds

end Observables
