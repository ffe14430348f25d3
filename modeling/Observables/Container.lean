import Observables.Script.Action
import Observables.Identity.KeySequence
import Observables.Subscription.Registry

/-!
# Containers

A container is a cell, which holds one value, or a list, which holds elements
with a key for each. It belongs to a realm, has one registry of subscriptions
for each channel, and counts the readers that hold on to its contents. A cell
stays a cell and a list stays a list, whatever is done to them.
-/

namespace Observables

open Script

/-- The row of a realm. -/
abbrev RealmRef := Nat

/-- The row of a container. -/
abbrev ContainerRef := Nat

/-- A body that is to be called with the variables it was made with. -/
structure Callback where
  /-- The name under which its calls appear in the journal. -/
  tag : String
  /-- Whether its failures end in the call or pass through the caller. -/
  surface : Surface
  /-- What it does. -/
  body : List Action
  /-- The variables as they were when it was made. -/
  locals : Variables
  deriving Inhabited

/-- What a container holds. -/
inductive Contents where
  /-- One value. -/
  | cell (value : Value)
  /-- Elements in order, and the keys of the list. -/
  | list (items : List Value) (keys : KeySequence)
  deriving Inhabited

namespace Contents

/-- The contents as one value. -/
def value : Contents → Value
  | .cell value => value
  | .list items _ => .list items

/-- The contents are those of a list. -/
def isList : Contents → Bool
  | .cell _ => false
  | .list _ _ => true

/-- The elements; a cell has none. -/
def items : Contents → List Value
  | .cell _ => []
  | .list items _ => items

/-- The keys of the elements. -/
def keys : Contents → KeySequence
  | .cell _ => .empty 0
  | .list _ keys => keys

/-- Change the value of a cell. -/
def store (value : Value) : Contents → Contents
  | .cell _ => .cell value
  | contents => contents

/-- Put an element and a fresh key into a list. -/
def insert (position : Nat) (item : Value) : Contents → Contents
  | .list items keys => .list (items.insertIdx position item) (keys.allocate position)
  | contents => contents

/-- Take an element and its key out of a list. -/
def remove (position : Nat) : Contents → Contents
  | .list items keys => .list (items.eraseIdx position) (keys.release position)
  | contents => contents

/-- Replace the keys of a list by a number of fresh ones and leave the elements alone. -/
def replaceKeys (count : Nat) : Contents → Contents
  | .list items keys => .list items (keys.releaseAll.fill count)
  | contents => contents

/-- Replace the elements of a list and leave the keys alone. -/
def replaceItems (items : List Value) : Contents → Contents
  | .list _ keys => .list items keys
  | contents => contents

@[simp] theorem isList_store (value : Value) (contents : Contents) :
    (contents.store value).isList = contents.isList := by cases contents <;> rfl

@[simp] theorem isList_insert (position : Nat) (item : Value) (contents : Contents) :
    (contents.insert position item).isList = contents.isList := by cases contents <;> rfl

@[simp] theorem isList_remove (position : Nat) (contents : Contents) :
    (contents.remove position).isList = contents.isList := by cases contents <;> rfl

@[simp] theorem isList_replaceKeys (count : Nat) (contents : Contents) :
    (contents.replaceKeys count).isList = contents.isList := by cases contents <;> rfl

@[simp] theorem isList_replaceItems (items : List Value) (contents : Contents) :
    (contents.replaceItems items).isList = contents.isList := by cases contents <;> rfl

end Contents

/-- A value or list that can be observed. -/
structure Container where
  /-- The realm it belongs to. -/
  realm : RealmRef
  /-- How failures of its script functions are treated. -/
  surface : Surface
  /-- What it holds. -/
  contents : Contents
  /-- How many readers hold on to the contents. -/
  borrows : Nat := 0
  /-- The change subscriptions. -/
  changes : Registry := {}
  /-- The add subscriptions. -/
  additions : Registry := {}
  /-- The remove subscriptions. -/
  removals : Registry := {}
  deriving Inhabited

namespace Container

/-- The subscriptions of a channel. -/
def registry (container : Container) : Channel → Registry
  | .change => container.changes
  | .added => container.additions
  | .removed => container.removals

/-- Replace the subscriptions of a channel. -/
def setRegistry (container : Container) (channel : Channel) (registry : Registry) : Container :=
  match channel with
  | .change => { container with changes := registry }
  | .added => { container with additions := registry }
  | .removed => { container with removals := registry }

/-- One channel is replaced and the others are as they were. -/
theorem registry_setRegistry (container : Container) (channel other : Channel)
    (registry : Registry) :
    (container.setRegistry channel registry).registry other =
      if other = channel then registry else container.registry other := by
  cases channel <;> cases other <;> rfl

/-- What the container holds, as one value. -/
def value (container : Container) : Value := container.contents.value

/-- The elements of a list. -/
def items (container : Container) : List Value := container.contents.items

/-- The keys of a list. -/
def keys (container : Container) : KeySequence := container.contents.keys

/-- A reader holds on to the contents. -/
def isBorrowed (container : Container) : Bool := container.borrows != 0

/-- One more reader holds on to the contents. -/
def borrow (container : Container) : Container :=
  { container with borrows := container.borrows + 1 }

/-- One reader lets go of the contents. -/
def release (container : Container) : Container :=
  { container with borrows := container.borrows - 1 }

/-- Letting go undoes holding on. -/
@[simp] theorem release_borrow (container : Container) : container.borrow.release = container := by
  simp only [release, borrow, Nat.add_sub_cancel]

/-- The description of a container. -/
def describe (container : Container) : String :=
  match container.contents with
  | .cell value =>
    "State \x7b value: " ++ value.toDocument.compact ++
      ", subscriber_count: " ++ toString container.changes.size ++ " \x7d"
  | .list items keys =>
    "ListState \x7b id: " ++ toString keys.container ++
      ", items: [" ++ String.intercalate ", " (items.map fun item => item.toDocument.compact) ++
      "], keys: [" ++ String.intercalate ", " (keys.inUse.map Key.describe) ++ "] \x7d"

end Container

end Observables
