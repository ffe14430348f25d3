import Observables.Table

/-!
# Subscriptions and their registries

A registry lists the subscriptions of one channel in ascending order of their
numbers. The subscriptions themselves are shared: a snapshot of the registry
refers to the same ones, so switching one off is seen by every snapshot that
holds it. Unsubscribing removes the number from the registry and switches the
subscription off; inserting under a number in use replaces the entry and
leaves the displaced subscription switched on.
-/

namespace Observables

/-- A callback under a number, which can be switched off once and for all. -/
structure Subscription (α : Type) where
  /-- The number that the subscription was given. -/
  id : Nat
  /-- What to call. -/
  callback : α
  /-- The subscription has not been switched off. -/
  active : Bool := true
  deriving Inhabited

namespace Subscription

variable {α : Type}

/-- Switch the subscription off. -/
def deactivate (subscription : Subscription α) : Subscription α :=
  { subscription with active := false }

/-- The callback, unless the subscription is switched off. -/
def callback? (subscription : Subscription α) : Option α :=
  if subscription.active then some subscription.callback else none

end Subscription

/-- The row of a subscription in the table of all subscriptions. -/
abbrev SubscriptionRef := Nat

/-- One entry of a registry. -/
structure Registration where
  /-- The number under which the subscription is registered. -/
  id : Nat
  /-- The subscription that is registered. -/
  subscription : SubscriptionRef
  deriving Repr, DecidableEq, Inhabited

/-- The subscriptions of one channel, in ascending order of their numbers. -/
structure Registry where
  /-- The entries, in ascending order of their numbers. -/
  entries : List Registration := []
  deriving Repr, DecidableEq, Inhabited

namespace Registry

/-- Put an entry in its place in an ascending list, replacing one of the same number. -/
def place (entry : Registration) : List Registration → List Registration
  | [] => [entry]
  | first :: rest =>
    if entry.id < first.id then entry :: first :: rest
    else if entry.id = first.id then entry :: rest
    else first :: place entry rest

/-- Register a subscription under a number. -/
def insert (registry : Registry) (id : Nat) (subscription : SubscriptionRef) : Registry :=
  ⟨place ⟨id, subscription⟩ registry.entries⟩

/-- Remove a number. -/
def erase (registry : Registry) (id : Nat) : Registry :=
  ⟨registry.entries.filter fun entry => entry.id != id⟩

/-- The subscription registered under a number. -/
def find? (registry : Registry) (id : Nat) : Option SubscriptionRef :=
  (registry.entries.find? fun entry => entry.id == id).map (·.subscription)

/-- The numbers in use, ascending. -/
def ids (registry : Registry) : List Nat := registry.entries.map (·.id)

/-- The registered subscriptions, in ascending order of their numbers. -/
def snapshot (registry : Registry) : List SubscriptionRef :=
  registry.entries.map (·.subscription)

/-- How many subscriptions are registered. -/
def size (registry : Registry) : Nat := registry.entries.length

/-- A number above all others is registered last. -/
theorem place_of_lt {entry : Registration} {entries : List Registration}
    (above : ∀ other ∈ entries, other.id < entry.id) :
    place entry entries = entries ++ [entry] := by
  induction entries with
  | nil => rfl
  | cons first rest ih =>
    have lower : first.id < entry.id := above first List.mem_cons_self
    have later := ih fun other inside => above other (List.mem_cons_of_mem _ inside)
    rw [place, if_neg (by omega), if_neg (by omega), later, List.cons_append]

/-- What is registered after an entry is that entry or was registered before. -/
theorem mem_of_mem_place {entry other : Registration} {entries : List Registration}
    (inside : other ∈ place entry entries) : other = entry ∨ other ∈ entries := by
  induction entries with
  | nil => exact .inl (List.mem_singleton.mp inside)
  | cons first rest ih =>
    rw [place] at inside
    split at inside
    · exact List.mem_cons.mp inside
    · split at inside
      · exact (List.mem_cons.mp inside).imp_right (List.mem_cons_of_mem _)
      · rcases List.mem_cons.mp inside with rfl | later
        · exact .inr List.mem_cons_self
        · exact (ih later).imp_right (List.mem_cons_of_mem _)

/-- A number that is registered is found, and every other number is as it was. -/
theorem find?_insert (registry : Registry) (id other : Nat) (subscription : SubscriptionRef) :
    (registry.insert id subscription).find? other =
      if other = id then some subscription else registry.find? other := by
  have placed (entries : List Registration) :
      ((place ⟨id, subscription⟩ entries).find? fun entry => entry.id == other) =
        if other = id then some ⟨id, subscription⟩
        else entries.find? fun entry => entry.id == other := by
    induction entries with
    | nil =>
      by_cases same : other = id
      · simp [place, same]
      · simp [place, same, Ne.symm same]
    | cons first rest ih =>
      rw [place]
      by_cases same : other = id
      · subst same
        rw [if_pos rfl] at ih ⊢
        split
        · simp
        · split
          · simp
          · next below apart =>
            have elsewhere : (first.id == other) = false := beq_false_of_ne (Ne.symm apart)
            rw [List.find?_cons, elsewhere]
            exact ih
      · rw [if_neg same] at ih ⊢
        have elsewhere : (id == other) = false := beq_false_of_ne (Ne.symm same)
        split
        · rw [List.find?_cons, elsewhere]
        · split
          · next here =>
            have gone : (first.id == other) = false := by rw [← here]; exact elsewhere
            rw [List.find?_cons, List.find?_cons, elsewhere, gone]
          · rw [List.find?_cons, List.find?_cons, ih]
  rw [find?, insert, placed]
  split <;> rfl

/-- A number that is removed is not found, and every other number is as it was. -/
theorem find?_erase (registry : Registry) (id other : Nat) :
    (registry.erase id).find? other = if other = id then none else registry.find? other := by
  have kept (entries : List Registration) :
      ((entries.filter fun entry => entry.id != id).find? fun entry => entry.id == other) =
        if other = id then none else entries.find? fun entry => entry.id == other := by
    rw [List.find?_filter]
    split
    · next same =>
      subst same
      simp
    · next apart =>
      refine congrArg (List.find? · entries) (funext fun entry => ?_)
      by_cases here : entry.id = other
      · simp [here, apart]
      · simp [here]
  rw [find?, erase, kept]
  split <;> rfl

/-- A number is registered exactly if it is found. -/
theorem mem_ids (registry : Registry) (id : Nat) :
    id ∈ registry.ids ↔ ∃ subscription, registry.find? id = some subscription := by
  rw [ids, List.mem_map]
  constructor
  · rintro ⟨entry, inside, rfl⟩
    cases found : registry.find? entry.id with
    | some subscription => exact ⟨subscription, rfl⟩
    | none =>
      rw [find?, Option.map_eq_none_iff] at found
      simpa using List.find?_eq_none.mp found entry inside
  · rintro ⟨subscription, found⟩
    obtain ⟨entry, first, _⟩ := Option.map_eq_some_iff.mp found
    exact ⟨entry, List.mem_of_find?_eq_some first, by simpa using List.find?_some first⟩

/-- A new number is put in its place. -/
theorem ascending_insert {registry : Registry} (ascending : registry.ids.Pairwise (· < ·))
    (id : Nat) (subscription : SubscriptionRef) :
    (registry.insert id subscription).ids.Pairwise (· < ·) := by
  have placed (entries : List Registration)
      (ascending : (entries.map (·.id)).Pairwise (· < ·)) :
      ((place ⟨id, subscription⟩ entries).map (·.id)).Pairwise (· < ·) := by
    induction entries with
    | nil => simp [place]
    | cons first rest ih =>
      obtain ⟨lowest, others⟩ := List.pairwise_cons.mp ascending
      rw [place]
      split
      · next below =>
        refine List.pairwise_cons.mpr ⟨fun other inside => ?_, ascending⟩
        rcases List.mem_cons.mp inside with same | later
        · exact same ▸ below
        · exact Nat.lt_trans below (lowest other later)
      · split
        · next same =>
          refine List.pairwise_cons.mpr ⟨fun other inside => ?_, others⟩
          have equal : id = first.id := same
          rw [equal]
          exact lowest other inside
        · next notBelow apart =>
          refine List.pairwise_cons.mpr ⟨fun other inside => ?_, ih others⟩
          obtain ⟨entry, there, rfl⟩ := List.mem_map.mp inside
          rcases mem_of_mem_place there with rfl | before
          · exact Nat.lt_of_le_of_ne (Nat.not_lt.mp notBelow) (Ne.symm apart)
          · exact lowest entry.id (List.mem_map_of_mem before)
  exact placed registry.entries ascending

/-- Removing a number leaves the others in order. -/
theorem ascending_erase {registry : Registry} (ascending : registry.ids.Pairwise (· < ·))
    (id : Nat) : (registry.erase id).ids.Pairwise (· < ·) :=
  ascending.sublist (List.filter_sublist.map _)

/-- The snapshot of a registry has one entry for each subscription. -/
@[simp] theorem length_snapshot (registry : Registry) :
    registry.snapshot.length = registry.size := List.length_map _

end Registry

/-- A registry together with the table of the subscriptions it refers to. -/
structure Switchboard (α : Type) where
  /-- All subscriptions ever made, registered or not. -/
  subscriptions : Table (Subscription α) := {}
  /-- The registry. -/
  registry : Registry := {}

namespace Switchboard

variable {α : Type}

/-- Make a subscription that no registry holds; its row is the size before. -/
def make (board : Switchboard α) (id : Nat) (callback : α) : Switchboard α :=
  { board with subscriptions := board.subscriptions.add ⟨id, callback, true⟩ }

/-- Make a subscription and register it under its number. -/
def insert (board : Switchboard α) (id : Nat) (callback : α) : Switchboard α :=
  { board.make id callback with registry := board.registry.insert id board.subscriptions.size }

/-- Switch one subscription off, wherever it is referred to. -/
def deactivate (board : Switchboard α) (subscription : SubscriptionRef) : Switchboard α :=
  { board with
    subscriptions := board.subscriptions.modify subscription Subscription.deactivate }

/-- Remove a number and switch its subscription off. The answer tells whether
the number was in use; if it was not, nothing changes. -/
def unsubscribe (board : Switchboard α) (id : Nat) : Bool × Switchboard α :=
  match board.registry.find? id with
  | none => (false, board)
  | some subscription =>
    (true, { board.deactivate subscription with registry := board.registry.erase id })

/-- The callback of a subscription, unless it is switched off. -/
def callback? (board : Switchboard α) (subscription : SubscriptionRef) : Option α :=
  (board.subscriptions.get? subscription).bind Subscription.callback?

/-- A subscription is still switched on. -/
def isActive (board : Switchboard α) (subscription : SubscriptionRef) : Bool :=
  (board.callback? subscription).isSome

/-- Unsubscribing answers true exactly if the number was registered. -/
theorem unsubscribe_fst (board : Switchboard α) (id : Nat) :
    (board.unsubscribe id).1 = (board.registry.find? id).isSome := by
  unfold unsubscribe
  cases board.registry.find? id <;> rfl

end Switchboard

end Observables
