import Observables.Proofs.Estate
import Observables.Proofs.Enrolment
import Mathlib.Data.List.Forall2

/-!
# A container in company and alone

The scripts of a container run twice: once while other containers and their
scripts live beside it, and once without them. What the two runs have in
common lasts from action to action: what the container holds, who is
registered in which order, which teardowns wait for its keys, and what its
scripts keep. Subscriptions have other numbers and rows in the one run than in
the other, so a bond says which stands for which. While the scripts of the
container run, more is the same: the open keys, all of which belong to the
container, and what becomes visible.
-/

namespace Observables

open Script

namespace Contents

/-- The contents are those of a cell or of the list of a number, whose keys are proper. -/
structure Numbered (number : Option Nat) (contents : Contents) : Prop where
  /-- The number of the list. -/
  number : contents.number? = number
  /-- The keys of a list are its own and different. -/
  proper : contents.keys.Proper

namespace Numbered

variable {number : Option Nat} {contents : Contents}

theorem store (numbered : contents.Numbered number) (value : Value) :
    (contents.store value).Numbered number := by
  cases contents with
  | cell => exact ⟨numbered.number, numbered.proper⟩
  | list => exact numbered

theorem insert (numbered : contents.Numbered number) (position : Nat) (item : Value) :
    (contents.insert position item).Numbered number := by
  cases contents with
  | cell => exact numbered
  | list items keys => exact ⟨numbered.number, numbered.proper.allocate position⟩

theorem remove (numbered : contents.Numbered number) (position : Nat) :
    (contents.remove position).Numbered number := by
  cases contents with
  | cell => exact numbered
  | list items keys => exact ⟨numbered.number, numbered.proper.release position⟩

theorem replaceKeys (numbered : contents.Numbered number) (count : Nat) :
    (contents.replaceKeys count).Numbered number := by
  cases contents with
  | cell => exact numbered
  | list items keys =>
    refine ⟨?_, (KeySequence.Proper.releaseAll keys).fill count⟩
    rw [← numbered.number]
    exact congrArg some (KeySequence.container_fill _ _)

theorem replaceItems (numbered : contents.Numbered number) (items : List Value) :
    (contents.replaceItems items).Numbered number := by
  cases contents with
  | cell => exact numbered
  | list => exact ⟨numbered.number, numbered.proper⟩

/-- A key that is in use has the number of its list. -/
theorem owned (numbered : contents.Numbered number) {key : Key}
    (inside : key ∈ contents.keys.inUse) : number = some key.container := by
  cases contents with
  | cell => cases inside
  | list items keys =>
    rw [← numbered.number]
    exact congrArg some (numbered.proper.allotted key inside).1.symm

/-- The next key of a list has its number. -/
theorem freshKey (numbered : contents.Numbered number) (isList : contents.isList = true) :
    number = some contents.keys.freshKey.container := by
  cases contents with
  | cell => cases isList
  | list items keys => exact numbered.number.symm

end Numbered

end Contents

/-- Containers that agree but for their subscriptions agree in everything else. -/
theorem Container.bare_eq {held other : Container} :
    other.bare = held.bare ↔ other.realm = held.realm ∧ other.surface = held.surface ∧
      other.contents = held.contents ∧ other.borrows = held.borrows := by
  simp only [bare, Container.mk.injEq, and_true]

/-- The entries of registries in one run, with those that stand for the same subscriptions in
another run. -/
abbrev Bond := List (Registration × Registration)

/-- A container in two runs. -/
structure Twin where
  /-- The container in company, and what belongs to it. -/
  estate : Estate
  /-- The container when it is alone. -/
  other : ContainerRef
  /-- The realm of both. -/
  realm : RealmRef
  /-- The number of both, if they are lists. -/
  number : Option Nat

namespace Twin

variable (twin : Twin)

/-- Scripts of the container read the same in their variables. -/
def Locals (left right : Variables) : Prop :=
  ∀ name, twin.estate.reads name = true → right.find? name = left.find? name

/-- Callbacks do the same. -/
structure Callbacks (left right : Callback) : Prop where
  /-- They appear under the same name. -/
  tag : right.tag = left.tag
  /-- Failures are treated alike. -/
  surface : right.surface = left.surface
  /-- Their bodies are the same. -/
  body : right.body = left.body
  /-- They read the same in their variables. -/
  locals : twin.Locals left.locals right.locals

/-- Subscriptions call the same, or both are switched off. -/
structure Subscriptions (left right : Subscription Callback) : Prop where
  /-- Both are switched on, or both off. -/
  active : right.active = left.active
  /-- The callbacks do the same. -/
  callback : twin.Callbacks left.callback right.callback

/-- Handles are of the same subscription of the container. -/
structure Handles (bond : Bond) (left right : Handle) : Prop where
  /-- The handle in company is one of the container. -/
  here : left.container = twin.estate.container
  /-- The handle alone is one of the container. -/
  there : right.container = twin.other
  /-- The channel is the same. -/
  channel : right.channel = left.channel
  /-- The surface is the same. -/
  surface : right.surface = left.surface
  /-- The numbers stand for the same subscription. -/
  bound : ∃ row second, (⟨left.id, row⟩, ⟨right.id, second⟩) ∈ bond

/-- The subscriptions of the container in the two runs. -/
structure Bonds (bond : Bond) (left right : World) : Prop where
  /-- The registries list the same subscriptions in the same order. -/
  entries : ∀ channel, List.Forall₂ (fun one two => (one, two) ∈ bond)
    ((left.container twin.estate.container).registry channel).entries
    ((right.container twin.other).registry channel).entries
  /-- What stands for the same calls the same. -/
  callbacks : ∀ pair ∈ bond, ∃ one two,
    left.subscriptions.get? pair.1.subscription = some one ∧
      right.subscriptions.get? pair.2.subscription = some two ∧ twin.Subscriptions one two
  /-- A number in one run stands for one number in the other. -/
  ids : ∀ first ∈ bond, ∀ second ∈ bond,
    (first.2.id = second.2.id ↔ first.1.id = second.1.id)
  /-- A row in one run stands for one row in the other. -/
  rows : ∀ first ∈ bond, ∀ second ∈ bond,
    (first.2.subscription = second.2.subscription ↔
      first.1.subscription = second.1.subscription)
  /-- The numbers have been drawn. -/
  drawn : ∀ pair ∈ bond, pair.1.id < left.nextSubscriptionId twin.realm ∧
    pair.2.id < right.nextSubscriptionId twin.realm
  /-- Other containers have other subscriptions. -/
  apart : ∀ container, container ≠ twin.estate.container → ∀ channel,
    ∀ entry ∈ ((left.container container).registry channel).entries,
      entry.subscription < left.subscriptions.size ∧
        ∀ pair ∈ bond, entry.subscription ≠ pair.1.subscription

/-- What two runs have in common from action to action. -/
structure Lasting (bond : Bond) (left right : World) : Prop
    extends twin.Bonds bond left right where
  /-- The container exists in company. -/
  here : twin.estate.container < left.containers.size
  /-- The container exists alone. -/
  there : twin.other < right.containers.size
  /-- The realm exists in company. -/
  realmHere : twin.realm < left.realms.size
  /-- The realm exists alone. -/
  realmThere : twin.realm < right.realms.size
  /-- The container belongs to the realm. -/
  realm : left.realmOf twin.estate.container = twin.realm
  /-- But for subscriptions the container is the same. -/
  bare : (right.container twin.other).bare = (left.container twin.estate.container).bare
  /-- It is a cell, or the list of the number. -/
  numbered : (left.container twin.estate.container).contents.Numbered twin.number
  /-- Its names lead to it. -/
  names : ∀ name, twin.estate.names name = true →
    left.names.find? name = some twin.estate.container ∧
      right.names.find? name = some twin.other
  /-- It has a name. -/
  named : ∃ name, twin.estate.names name = true
  /-- Realms have the same names. -/
  realmNames : right.realmNames = left.realmNames
  /-- Realms have the same labels. -/
  labels : ∀ realm, (right.realm realm).label = (left.realm realm).label
  /-- The same teardowns wait for the keys of the container. -/
  teardowns : ∀ key, twin.number = some key.container →
    Option.Rel (List.Forall₂ twin.Callbacks) ((left.realm twin.realm).teardowns.find? key)
      ((right.realm twin.realm).teardowns.find? key)
  /-- Handles are of the same subscriptions. -/
  handles : ∀ name, twin.estate.handles name = true →
    Option.Rel (twin.Handles bond) (left.handles.find? name) (right.handles.find? name)
  /-- Limited bodies have been arrived at as often. -/
  arrivals : ∀ name, twin.estate.counters name = true →
    right.arrivals.find? name = left.arrivals.find? name
  /-- Both or none are traced. -/
  tracing : right.journal.tracing = left.journal.tracing

/-- What two runs have in common while scripts of the container run. -/
structure Worlds (bond : Bond) (left right : World) : Prop
    extends twin.Lasting bond left right where
  /-- The realms of open keys are the same. -/
  entered : right.entered = left.entered
  /-- The open keys are the same. -/
  active : ∀ realm, (right.realm realm).active = (left.realm realm).active
  /-- All open keys belong to the container. -/
  owned : ∀ realm, ∀ key ∈ (left.realm realm).active,
    realm = twin.realm ∧ twin.number = some key.container
  /-- The same has become visible, but for numbers. -/
  told : right.journal.latest.map Event.veiled = left.journal.latest.map Event.veiled

variable {twin}

/-- Variables are written in both runs. -/
theorem Locals.insert {left right : Variables} (locals : twin.Locals left right) (name : String)
    (value : Value) : twin.Locals (left.insert name value) (right.insert name value) := by
  intro asked reads
  rw [Directory.find?_insert, Directory.find?_insert]
  split
  · rfl
  · exact locals asked reads

/-- The same arguments are given in both runs. -/
theorem Locals.insertAll {left right : Variables} (locals : twin.Locals left right)
    (arguments : List (String × Value)) :
    twin.Locals (left.insertAll arguments) (right.insertAll arguments) := by
  induction arguments generalizing left right with
  | nil => exact locals
  | cons argument arguments ih => exact ih (locals.insert argument.1 argument.2)

/-- Both are switched off. -/
theorem Subscriptions.deactivate {left right : Subscription Callback}
    (subscriptions : twin.Subscriptions left right) :
    twin.Subscriptions left.deactivate right.deactivate := { subscriptions with active := rfl }

/-- The same is called, or nothing. -/
theorem Subscriptions.callback? {left right : Subscription Callback}
    (subscriptions : twin.Subscriptions left right) :
    Option.Rel twin.Callbacks left.callback? right.callback? := by
  unfold Subscription.callback?
  rw [subscriptions.active]
  split
  · exact .some subscriptions.callback
  · exact .none

/-- More subscriptions can be bound. -/
theorem Handles.mono {bond later : Bond} (more : ∀ pair ∈ bond, pair ∈ later)
    {left right : Handle} (handles : twin.Handles bond left right) :
    twin.Handles later left right := by
  obtain ⟨row, second, inside⟩ := handles.bound
  exact { handles with bound := ⟨row, second, more _ inside⟩ }

/-- The teardowns that wait for a key of the container are the same. -/
theorem Lasting.pending {bond : Bond} {left right : World}
    (lasting : twin.Lasting bond left right) {key : Key}
    (own : twin.number = some key.container) :
    List.Forall₂ twin.Callbacks ((left.realm twin.realm).teardowns.pending key)
      ((right.realm twin.realm).teardowns.pending key) := by
  unfold TeardownTable.pending
  match (left.realm twin.realm).teardowns.find? key,
    (right.realm twin.realm).teardowns.find? key, lasting.teardowns key own with
  | _, _, .none => exact .nil
  | _, _, .some same => exact same

namespace Bonds

variable {bond : Bond} {left right : World}

/-- Numbers that stand for the same subscription are found together. -/
theorem find? (bonds : twin.Bonds bond left right) {id second : Nat}
    (bound : ∃ row other, (⟨id, row⟩, ⟨second, other⟩) ∈ bond) (channel : Channel) :
    Option.Rel (fun row other => (⟨id, row⟩, ⟨second, other⟩) ∈ bond)
      (((left.container twin.estate.container).registry channel).find? id)
      (((right.container twin.other).registry channel).find? second) := by
  obtain ⟨row, other, inside⟩ := bound
  have same := bonds.entries channel
  unfold Registry.find?
  generalize ((left.container twin.estate.container).registry channel).entries = entries at same
  generalize ((right.container twin.other).registry channel).entries = others at same
  induction same with
  | nil => exact .none
  | @cons entry next entries others first rest ih =>
    have same : (next.id == second) = (entry.id == id) := by
      rw [Bool.eq_iff_iff, beq_iff_eq, beq_iff_eq]
      exact bonds.ids _ first _ inside
    rw [List.find?_cons, List.find?_cons, same]
    cases found : entry.id == id with
    | true =>
      rw [found, beq_iff_eq] at same
      obtain rfl := same
      obtain rfl : entry.id = id := beq_iff_eq.mp found
      exact .some first
    | false => exact ih

/-- Entries of other numbers are kept in both runs. -/
theorem erase (bonds : twin.Bonds bond left right) {id second : Nat}
    (bound : ∃ row other, (⟨id, row⟩, ⟨second, other⟩) ∈ bond) (channel : Channel) :
    List.Forall₂ (fun one two => (one, two) ∈ bond)
      (((left.container twin.estate.container).registry channel).erase id).entries
      (((right.container twin.other).registry channel).erase second).entries := by
  obtain ⟨row, other, inside⟩ := bound
  have same := bonds.entries channel
  unfold Registry.erase
  generalize ((left.container twin.estate.container).registry channel).entries = entries at same
  generalize ((right.container twin.other).registry channel).entries = others at same
  induction same with
  | nil => exact .nil
  | @cons entry next entries others first rest ih =>
    have same : (next.id != second) = (entry.id != id) := by
      rw [Bool.eq_iff_iff, bne_iff_ne, bne_iff_ne]
      exact not_congr (bonds.ids _ first _ inside)
    rw [List.filter_cons, List.filter_cons, same]
    split
    · exact .cons first ih
    · exact ih

/-- The snapshots of a channel list the same subscriptions. -/
theorem snapshot (bonds : twin.Bonds bond left right) (channel : Channel) :
    List.Forall₂ (fun row other => ∃ id second, (⟨id, row⟩, ⟨second, other⟩) ∈ bond)
      ((left.container twin.estate.container).registry channel).snapshot
      ((right.container twin.other).registry channel).snapshot := by
  unfold Registry.snapshot
  rw [List.forall₂_map_left_iff, List.forall₂_map_right_iff]
  exact (bonds.entries channel).imp fun one two inside => ⟨one.id, two.id, inside⟩

/-- As many subscriptions are registered. -/
theorem size (bonds : twin.Bonds bond left right) (channel : Channel) :
    ((right.container twin.other).registry channel).size =
      ((left.container twin.estate.container).registry channel).size :=
  (bonds.entries channel).length_eq.symm

/-- The same is called for subscriptions that stand for each other. -/
theorem callback? (bonds : twin.Bonds bond left right) {id second : Nat}
    {row other : SubscriptionRef} (inside : (⟨id, row⟩, ⟨second, other⟩) ∈ bond) :
    Option.Rel twin.Callbacks (left.callback? row) (right.callback? other) := by
  obtain ⟨one, two, here, there, same⟩ := bonds.callbacks _ inside
  unfold World.callback?
  rw [here, there]
  exact same.callback?

end Bonds

end Twin

end Observables
