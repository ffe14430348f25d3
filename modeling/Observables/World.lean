import Observables.Journal
import Observables.Realm

/-!
# The world of a run

All that a run keeps: realms, containers, subscriptions, the names under
which scripts reach them, the chain of realms that have a key open, and the
journal. The operations here are single changes of the world; none of them
calls a script function.
-/

namespace Observables

/-- What a script keeps to end a subscription later. -/
structure Handle where
  /-- The number of the subscription. -/
  id : Nat
  /-- The container that was subscribed to. -/
  container : ContainerRef
  /-- The channel that was subscribed to. -/
  channel : Channel
  /-- The surface through which the subscription was made. -/
  surface : Surface
  deriving Inhabited

/-- The description of a handle. -/
def Handle.describe (handle : Handle) : String :=
  "Unsubscribe \x7b id: " ++ toString handle.id ++ " \x7d"

/-- All that a run keeps. -/
structure World where
  /-- The realms; the first is current while no key is open. -/
  realms : Table Realm := Table.add {} (Realm.make none 0)
  /-- Realms by name. -/
  realmNames : Directory RealmRef := {}
  /-- The realms of the open keys, innermost first. -/
  entered : List RealmRef := []
  /-- The containers. -/
  containers : Table Container := {}
  /-- Containers by name. -/
  names : Directory ContainerRef := {}
  /-- The subscriptions of all containers. -/
  subscriptions : Table (Subscription Callback) := {}
  /-- Handles by name. -/
  handles : Directory Handle := {}
  /-- How often limited bodies have been arrived at. -/
  arrivals : Directory Nat := {}
  /-- What was made visible in this step of the script. -/
  journal : Journal := {}

namespace World

/-- Note an event. -/
def emit (world : World) (event : Event) : World :=
  { world with journal := world.journal.note event }

/-- Note an event of the trace. -/
def trace (world : World) (event : TraceEvent) : World :=
  { world with journal := world.journal.trace event }

/-- Note several events of the trace, in order. -/
def traceAll (world : World) (events : List TraceEvent) : World :=
  { world with journal := world.journal.traceAll events }

/-- A realm. -/
def realm (world : World) (realm : RealmRef) : Realm := world.realms.entry realm

/-- A container. -/
def container (world : World) (container : ContainerRef) : Container :=
  world.containers.entry container

/-- Change a realm. -/
def modifyRealm (world : World) (realm : RealmRef) (change : Realm → Realm) : World :=
  { world with realms := world.realms.modify realm change }

/-- Change a container. -/
def modifyContainer (world : World) (container : ContainerRef)
    (change : Container → Container) : World :=
  { world with containers := world.containers.modify container change }

/-- Change what a container holds. -/
def modifyContents (world : World) (container : ContainerRef)
    (change : Contents → Contents) : World :=
  world.modifyContainer container fun container =>
    { container with contents := change container.contents }

/-- The realm of a container. -/
def realmOf (world : World) (container : ContainerRef) : RealmRef :=
  (world.container container).realm

/-- The realm that an action without a named realm means. -/
def current (world : World) : RealmRef := world.entered.headD 0

/-- The innermost open key of the current realm. -/
def activeKey? (world : World) : Option Key := (world.realm world.current).activeKey?

/-- What the container of a name holds; null if there is none. -/
def held (world : World) (name : String) : Value :=
  match world.names.find? name with
  | none => .null
  | some container => (world.container container).value

/-- One more reader holds on to the contents of a container. -/
def borrow (world : World) (container : ContainerRef) : World :=
  world.modifyContainer container Container.borrow

/-- One reader lets go of the contents of a container. -/
def release (world : World) (container : ContainerRef) : World :=
  world.modifyContainer container Container.release

/-- A reader holds on to the contents of a container. -/
def isBorrowed (world : World) (container : ContainerRef) : Bool :=
  (world.container container).isBorrowed

/-- Open a key in a realm, which becomes the current one. -/
def enter (world : World) (realm : RealmRef) (key : Key) : World :=
  { world.modifyRealm realm fun realm => realm.openKey key with
    entered := realm :: world.entered }

/-- Close the innermost key of a realm and return to the realm that was current before. -/
def leave (world : World) (realm : RealmRef) : World :=
  { world.modifyRealm realm Realm.closeKey with entered := world.entered.tail }

/-- Make a realm and name it. -/
def openRealm (world : World) (name : String) (label : Option String) (firstId : Nat) : World :=
  { world.trace (.realmCreated label firstId) with
    realms := world.realms.add (.make label firstId)
    realmNames := world.realmNames.insert name world.realms.size }

/-- Make a container and name it. -/
def makeContainer (world : World) (name : String) (container : Container) : World :=
  { world with
    containers := world.containers.add container
    names := world.names.insert name world.containers.size }

/-- Make a cell. -/
def makeCell (world : World) (name : String) (realm : RealmRef) (surface : Surface)
    (value : Value) : World :=
  world.makeContainer name { realm := realm, surface := surface, contents := .cell value }

/-- The number that the next list of a realm will get. -/
def nextListId (world : World) (realm : RealmRef) : Nat := (world.realm realm).containerIds.peek

/-- Take a list number out of a realm's supply. -/
def takeListId (world : World) (realm : RealmRef) : World :=
  world.modifyRealm realm fun realm =>
    { realm with containerIds := realm.containerIds.advance }

/-- Make a list. It takes its number from its realm and a key for each element. -/
def makeList (world : World) (name : String) (realm : RealmRef) (surface : Surface)
    (items : List Value) : World :=
  let keys := KeySequence.empty (world.nextListId realm)
  let events := (keys.allocations items.length).map .keyMoved ++
    [.listCreated keys.container items.length]
  ((world.takeListId realm).traceAll events).makeContainer name
    { realm := realm, surface := surface, contents := .list items (keys.fill items.length) }

/-- The subscriptions of one channel with the table of all subscriptions. -/
def board (world : World) (container : ContainerRef) (channel : Channel) :
    Switchboard Callback :=
  ⟨world.subscriptions, (world.container container).registry channel⟩

/-- Put a changed board back. -/
def setBoard (world : World) (container : ContainerRef) (channel : Channel)
    (board : Switchboard Callback) : World :=
  { world.modifyContainer container fun container =>
      container.setRegistry channel board.registry with
    subscriptions := board.subscriptions }

/-- The number that the next subscription in a realm will get. -/
def nextSubscriptionId (world : World) (realm : RealmRef) : Nat :=
  (world.realm realm).subscriptionIds.peek

/-- Take a subscription number out of a realm's supply. -/
def takeSubscriptionId (world : World) (realm : RealmRef) : World :=
  world.modifyRealm realm fun realm =>
    { realm with subscriptionIds := realm.subscriptionIds.advance }

/-- Subscribe a callback to a channel. The number comes from the container's realm. -/
def subscribe (world : World) (container : ContainerRef) (channel : Channel)
    (callback : Callback) : World :=
  let realm := world.realmOf container
  let id := world.nextSubscriptionId realm
  (world.takeSubscriptionId realm).setBoard container channel
    ((world.board container channel).insert id callback)

/-- Keep a handle under a name, unless the name is empty. -/
def keepHandle (world : World) (name : String) (handle : Handle) : World :=
  if name.isEmpty then world else { world with handles := world.handles.insert name handle }

/-- End the subscription of a handle, whose container must still exist. -/
def unsubscribe (world : World) (handle : Handle) : Bool × World :=
  let (found, board) := (world.board handle.container handle.channel).unsubscribe handle.id
  (found, world.setBoard handle.container handle.channel board)

/-- The callback of a subscription, unless it is switched off. -/
def callback? (world : World) (subscription : SubscriptionRef) : Option Callback :=
  (world.subscriptions.get? subscription).bind Subscription.callback?

/-- Bind a teardown to the innermost open key of a realm. The answer tells
whether a key is open; if none is, nothing is bound. -/
def register (world : World) (realm : RealmRef) (teardown : Callback) : Bool × World :=
  let label := (world.realm realm).label
  match (world.realm realm).activeKey? with
  | none => (false, world.trace (.teardownIgnored label))
  | some key =>
    (true, (world.modifyRealm realm fun realm => realm.bind key teardown).trace
      (.teardownRegistered label key))

/-- Take the teardowns of a key out of a realm, if there are any. -/
def takeTeardowns (world : World) (realm : RealmRef) (key : Key) :
    Option (List Callback × World) :=
  match (world.realm realm).teardowns.find? key with
  | none => none
  | some waiting =>
    some (waiting, (world.modifyRealm realm fun realm => realm.unbind key).trace
      (.teardownsRunning (world.realm realm).label key waiting.length))

/-- Put an element and a fresh key into a list. The position must not be past the end. -/
def insertElement (world : World) (container : ContainerRef) (position : Nat) (item : Value) :
    World :=
  let keys := (world.container container).keys
  (world.modifyContents container (.insert position item)).traceAll
    [.keyMoved (keys.allocation position),
      .elementAdded keys.container keys.freshKey position]

/-- Take the element at a position, and its key, out of a list. -/
def removeElement (world : World) (container : ContainerRef) (position : Nat) : World :=
  let keys := (world.container container).keys
  let events := (keys.keyAt? position).toList.flatMap fun key =>
    [.keyMoved (.released key position), .elementRemoved keys.container key position]
  (world.modifyContents container (.remove position)).traceAll events

/-- Replace the keys of a list by fresh ones and leave its elements alone. -/
def replaceKeys (world : World) (container : ContainerRef) (count : Nat) : World :=
  let blank := (world.container container).keys.releaseAll
  (world.modifyContents container (.replaceKeys count)).traceAll
    ((blank.allocations count).map .keyMoved)

/-- Replace the elements of a list and leave its keys alone. -/
def replaceItems (world : World) (container : ContainerRef) (items : List Value) : World :=
  world.modifyContents container (.replaceItems items)

/-- Change the value of a cell. -/
def store (world : World) (container : ContainerRef) (value : Value) : World :=
  world.modifyContents container (.store value)

end World

end Observables
