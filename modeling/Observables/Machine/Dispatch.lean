import Observables.Machine.Basic

/-!
# Telling subscribers and running teardowns

A notice goes to the subscriptions that are registered when it starts, in
ascending order of their numbers; one that has been switched off before its
turn is passed over. The teardowns of a key are taken out of their realm
before the first of them runs. An added element is announced while its key is
open, and its teardowns run at once if it has left the list by then.
-/

namespace Observables.Machine

/-- Start telling the subscriptions of a channel. -/
def notify (machine : Machine) (container : ContainerRef) (notice : Notice) : Machine :=
  let waiting := ((machine.world.container container).registry notice.channel).snapshot
  let world := machine.world.trace (.dispatching notice.channel waiting.length)
  (machine.withWorld world).push [.dispatch container notice waiting]

/-- Call one subscriber. A change is told with the contents of the moment. -/
def tell (machine : Machine) (container : ContainerRef) (notice : Notice)
    (callback : Callback) : Machine :=
  match notice with
  | .changed =>
    let value := (machine.world.container container).value
    machine.call callback (.change callback.tag value) [("v", value)]
  | .added item position =>
    machine.call callback (.add callback.tag item position)
      [("item", item), ("pos", .nat position)]
  | .removed position =>
    machine.call callback (.remove callback.tag position) [("pos", .nat position)]

/-- Give the next waiting subscription its turn. -/
def dispatch (machine : Machine) (container : ContainerRef) (notice : Notice) :
    List SubscriptionRef → Machine
  | [] => machine.proceed
  | subscription :: waiting =>
    let machine := machine.push [.dispatch container notice waiting]
    match machine.world.callback? subscription with
    | none => machine
    | some callback => machine.tell container notice callback

/-- Tell the add subscriptions about an element while its key is open. -/
def announce (machine : Machine) (container : ContainerRef) (key : Key) (item : Value)
    (position : Nat) : Machine :=
  let realm := machine.world.realmOf container
  (machine.withWorld (machine.world.enter realm key)).push
    [.notify container (.added item position), .scope realm key]

/-- Run the teardowns that wait for a key, and answer how many there were. -/
def runTeardowns (machine : Machine) (realm : RealmRef) (key : Key) : Machine :=
  match machine.world.takeTeardowns realm key with
  | none => machine.answer (.nat 0)
  | some (waiting, world) =>
    (machine.withWorld world).push
      [.teardown realm key waiting, .yield (.nat waiting.length)]

/-- Call the next waiting teardown. -/
def teardown (machine : Machine) (realm : RealmRef) (key : Key) : List Callback → Machine
  | [] => machine.proceed
  | callback :: waiting =>
    (machine.push [.teardown realm key waiting]).call callback (.teardown callback.tag) []

/-- Run the teardowns of several keys, one key after the other. -/
def discharge (machine : Machine) (realm : RealmRef) : List Key → Machine
  | [] => machine.proceed
  | key :: keys => (machine.push [.discharge realm keys]).runTeardowns realm key

/-- Run the teardowns of an announced key if it is no longer in its list. -/
def settle (machine : Machine) (container : ContainerRef) (key : Key) : Machine :=
  match (machine.world.container container).keys.positionOf? key with
  | some _ => machine.proceed
  | none => machine.runTeardowns (machine.world.realmOf container) key

end Observables.Machine
