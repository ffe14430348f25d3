import Observables.Machine.Dispatch

/-!
# Changing containers

Each operation here first changes the contents of one container, unless a
reader holds on to them, and leaves everything that calls script functions to
frames: after an insertion the change subscriptions, then the add
subscriptions while the new key is open; after a removal the teardowns of the
key that left, then the change and the remove subscriptions; after a
replacement the teardowns of all old keys in order, then the change
subscriptions.
-/

namespace Observables

open Script

/-- The answer for an element that was found. -/
def Surface.found : Surface → Value → Value
  | .direct, item => .list [item]
  | .shielded, item => item

/-- The answer where no element was found. -/
def Surface.notFound : Surface → Value
  | .direct => .list []
  | .shielded => .undefined

namespace Machine

/-- Put an element into a list. A position past the end stands for the end. -/
def insertAt (machine : Machine) (container : ContainerRef) (position : Nat) (item : Value) :
    Machine :=
  if machine.world.isBorrowed container then machine.fail .borrowed
  else
    let position := min position (machine.world.container container).items.length
    let key := (machine.world.container container).keys.freshKey
    (machine.withWorld (machine.world.insertElement container position item)).push
      [.notify container .changed, .announce container key item position,
        .settle container key, .yield .null]

/-- Add an element at the end of a list. -/
def append (machine : Machine) (container : ContainerRef) (item : Value) : Machine :=
  machine.insertAt container (machine.world.container container).items.length item

/-- Remove the element at a position. A position past the end removes nothing. -/
def removeAt (machine : Machine) (container : ContainerRef) (position : Nat) : Machine :=
  if machine.world.isBorrowed container then machine.fail .borrowed
  else
    let held := machine.world.container container
    match held.items[position]? with
    | none => machine.answer held.surface.notFound
    | some item =>
      (machine.withWorld (machine.world.removeElement container position)).push
        [.discharge held.realm (held.keys.keyAt? position).toList,
          .notify container .changed, .notify container (.removed position),
          .yield (held.surface.found item)]

/-- Remove the last element of a list. -/
def pop (machine : Machine) (container : ContainerRef) : Machine :=
  match (machine.world.container container).items.length with
  | 0 => machine.answer (machine.world.container container).surface.notFound
  | length + 1 => machine.removeAt container length

/-- Ask the predicate about the next element of a list as it was when the search began. -/
def search (machine : Machine) (container : ContainerRef) (position : Nat)
    (rest : List Value) (body : List Action) (test : Expression) : Machine :=
  match rest with
  | [] => machine.answer (machine.world.container container).surface.notFound
  | item :: rest =>
    (machine.push [.verdict container position rest body test]).invoke
      (machine.world.container container).surface [("x", item)] body test

/-- Remove what is now at the position of an accepted element, or look further. -/
def verdict (machine : Machine) (container : ContainerRef) (position : Nat)
    (rest : List Value) (body : List Action) (test : Expression) (answer : Value) : Machine :=
  if answer.truthy then machine.removeAt container position
  else machine.search container (position + 1) rest body test

/-- Store a value in a container and tell its subscribers. -/
def store (machine : Machine) (container : ContainerRef) (value : Value) : Machine :=
  if machine.world.isBorrowed container then machine.fail .borrowed
  else
    (machine.withWorld (machine.world.store container value)).push
      [.notify container .changed]

/-- The elements that the answer of a setter stands for. -/
def replacement : Surface → Value → Except InitialValueError (List Value)
  | .direct, value => .ok (value.items?.getD [])
  | .shielded, value => value.toContents

/-- Replace the elements of a list. The keys are replaced first, and stay
replaced where a reader holds on to the elements. -/
def replace (machine : Machine) (container : ContainerRef) (value : Value) : Machine :=
  let held := machine.world.container container
  match replacement held.surface value with
  | .error error => machine.throw (.text error.text)
  | .ok items =>
    let world := machine.world.replaceKeys container items.length
    if machine.world.isBorrowed container then (machine.withWorld world).fail .borrowed
    else
      let event := .listReplaced held.keys.container held.keys.size
      (machine.withWorld ((world.replaceItems container items).trace event)).push
        [.discharge held.realm held.keys.inUse, .notify container .changed]

/-- The frame that takes the answer of a setter. -/
def setterTarget (container : ContainerRef) : Contents → Frame
  | .cell _ => .store container
  | .list _ _ => .replace container

/-- Run a setter and store what it answers. A direct container is borrowed
while its setter runs. -/
def set (machine : Machine) (container : ContainerRef) (body : List Action)
    (result : Expression) : Machine :=
  let held := machine.world.container container
  let target := setterTarget container held.contents
  let machine := match held.surface with
    | .direct =>
      (machine.withWorld (machine.world.borrow container)).push [.borrowed container, target]
    | .shielded => machine.push [target]
  machine.invoke held.surface [("v", held.value)] body result

/-- Run a body while the contents are borrowed. -/
def withBorrow (machine : Machine) (container : ContainerRef) (body : List Action)
    (result : Expression) : Machine :=
  let held := machine.world.container container
  ((machine.withWorld (machine.world.borrow container)).push [.borrowed container]).invoke
    held.surface [("v", held.value)] body result

end Machine

end Observables
