import Observables.Session

/-!
# What a step does

Every step of a machine does at most one thing that later statements tell
apart: it makes a list, moves an element, subscribes, calls a callback, binds
or takes teardowns, opens or closes a key, or is lost to a failure. This
module reads that deed off the machine that is about to take the step, so the
deeds of a run are a history of it. Which deeds an operation, a command and a
frame can do at all is said here once, with one case for each kind.
-/

namespace Observables

open Script

/-- Who opens a key or runs the teardowns of one. -/
inductive Origin where
  /-- An action of the script. -/
  | asked
  /-- A list, for one of its elements. -/
  | due
  deriving DecidableEq

/-- What a step does. -/
inductive Deed where
  /-- Nothing that is told apart. -/
  | quiet
  /-- A list is made with elements and a key for each. -/
  | listMade (container : ContainerRef) (keys : List Key) (items : List Value)
  /-- An element and its key are put into a list. -/
  | inserted (container : ContainerRef) (position : Nat) (key : Key) (item : Value)
  /-- An element is taken out of a list with its key. -/
  | removed (container : ContainerRef) (position : Nat) (released : List Key) (item : Value)
  /-- All elements and keys of a list are replaced. -/
  | replaced (container : ContainerRef) (released allotted : List Key) (items : List Value)
  /-- All keys of a list are replaced, but its elements are held by a reader and stay. -/
  | rekeyed (container : ContainerRef) (released allotted : List Key)
  /-- A value is stored in a cell. -/
  | stored (container : ContainerRef) (value : Value)
  /-- The replacement of a direct list begins, possibly inside a setter or a
  borrowing body of the same list. -/
  | setBegun (container : ContainerRef) (inside : Bool)
  /-- A reader takes hold of the contents of a container. -/
  | borrowed (container : ContainerRef)
  /-- A reader lets go of the contents of a container. -/
  | released (container : ContainerRef)
  /-- A subscription is made under a number. -/
  | subscribed (container : ContainerRef) (channel : Channel) (id : Nat)
      (subscription : SubscriptionRef)
  /-- A subscription is ended through its handle. -/
  | unsubscribed (handle : Handle)
  /-- A notice starts to go out. -/
  | notified (container : ContainerRef) (notice : Notice) (waiting : List SubscriptionRef)
  /-- A subscriber is called. -/
  | told (container : ContainerRef) (notice : Notice) (subscription : SubscriptionRef)
  /-- A teardown is registered: bound to a key, or refused because none is open. -/
  | registered (realm : RealmRef) (key : Option Key) (teardown : Callback)
  /-- The teardowns of a key are taken to be run. -/
  | running (origin : Origin) (realm : RealmRef) (key : Key) (batch : List Callback)
  /-- A teardown is called. -/
  | tornDown (realm : RealmRef) (key : Key) (teardown : Callback)
  /-- A key is opened in a realm. -/
  | opened (origin : Origin) (realm : RealmRef) (key : Key)
  /-- The innermost key of a realm is closed. -/
  | closed (realm : RealmRef)
  /-- A failure passes through a frame, or ends there. -/
  | abandoned (frame : Frame)

/-- A failure passes through a frame, or ends there. -/
def Deed.isFailing : Deed → Bool
  | .abandoned _ => true
  | _ => false

/-- What putting an element into a list does. -/
def World.insertion (world : World) (container : ContainerRef) (position : Nat)
    (item : Value) : Deed :=
  if world.isBorrowed container then .quiet
  else
    .inserted container (min position (world.container container).items.length)
      (world.container container).keys.freshKey item

/-- What removing the element at a position does. -/
def World.removal (world : World) (container : ContainerRef) (position : Nat) : Deed :=
  if world.isBorrowed container then .quiet
  else
    match (world.container container).items[position]? with
    | none => .quiet
    | some item =>
      .removed container position ((world.container container).keys.keyAt? position).toList item

/-- What replacing the elements of a list by the answer of a setter does. -/
def World.replacing (world : World) (container : ContainerRef) (value : Value) : Deed :=
  let held := world.container container
  match Machine.replacement held.surface value with
  | .error _ => .quiet
  | .ok items =>
    let allotted := (held.keys.releaseAll.fill items.length).inUse
    if world.isBorrowed container then .rekeyed container held.keys.inUse allotted
    else .replaced container held.keys.inUse allotted items

/-- What running the teardowns of a key does. -/
def World.batch (world : World) (origin : Origin) (realm : RealmRef) (key : Key) : Deed :=
  match (world.realm realm).teardowns.find? key with
  | none => .quiet
  | some waiting => .running origin realm key waiting

namespace Machine

/-- A setter or a borrowing body of the container is running. -/
def isReading (machine : Machine) (container : ContainerRef) : Bool :=
  machine.stack.any fun
    | .borrowed other => container == other
    | _ => false

/-- What starting a setter does. -/
def settingDeed (machine : Machine) (container : ContainerRef) : Deed :=
  let held := machine.world.container container
  match held.surface, held.contents with
  | .direct, .cell _ => .borrowed container
  | .direct, .list _ _ => .setBegun container (machine.isReading container)
  | .shielded, _ => .quiet

/-- What the first step of an operation that the container knows does. -/
def operationDeed (machine : Machine) (container : ContainerRef) :
    Operation (List Action) → Deed
  | .borrow _ _ => .borrowed container
  | .set _ _ => machine.settingDeed container
  | .subscribe _ channel _ =>
    let held := machine.world.container container
    .subscribed container (if held.contents.isList then channel.getD .change else .change)
      (machine.world.nextSubscriptionId held.realm) machine.world.subscriptions.size
  | .push item =>
    machine.world.insertion container (machine.world.container container).items.length
      (machine.evaluate item)
  | .insertAt position item =>
    match (machine.evaluate position).position? with
    | none => .quiet
    | some position => machine.world.insertion container position (machine.evaluate item)
  | .pop =>
    match (machine.world.container container).items.length with
    | 0 => .quiet
    | length + 1 => machine.world.removal container length
  | .removeAt position =>
    match (machine.evaluate position).position? with
    | none => .quiet
    | some position => machine.world.removal container position
  | _ => .quiet

/-- What the first step of a command does. -/
def commandDeed (machine : Machine) (subject : String) : Command (List Action) → Deed
  | .runTeardowns realm key =>
    match machine.realm? realm, (machine.evaluate key).key? with
    | some realm, some key => machine.world.batch .asked realm key
    | _, _ => .quiet
  | .withKey realm key _ =>
    match machine.realm? realm, (machine.evaluate key).key? with
    | some realm, some key => .opened .asked realm key
    | _, _ => .quiet
  | .register realm tag surface body =>
    match machine.realm? realm with
    | none => .quiet
    | some named =>
      let realm := match surface with
        | .direct => named
        | .shielded => machine.world.current
      .registered realm (machine.world.realm realm).activeKey?
        ⟨machine.evaluateName tag, surface, body, machine.locals⟩
  | .handle name .unsubscribe =>
    match machine.world.handles.find? (machine.evaluateName name) with
    | none => .quiet
    | some handle =>
      if machine.isAlive handle.container && (machine.world.unsubscribe handle).1 then
        .unsubscribed handle
      else .quiet
  | .makeList _ value realm _ =>
    match machine.realm? realm, (machine.evaluate value).toContents with
    | some realm, .ok items =>
      .listMade machine.world.containers.size
        (KeySequence.ofLength (machine.world.nextListId realm) items.length).inUse items
    | _, _ => .quiet
  | .operate operation =>
    match machine.world.names.find? subject with
    | none => .quiet
    | some container =>
      let held := machine.world.container container
      if operation.isKnown held.surface held.contents.isList then
        machine.operationDeed container operation
      else .quiet
  | _ => .quiet

/-- What the first step of an action does. -/
def actionDeed (machine : Machine) (action : Action) : Deed :=
  machine.commandDeed (machine.subjectName action) action.command

/-- What going on with a frame that has been taken off the stack does. -/
def resumeDeed (machine : Machine) (frame : Frame) (reply : Reply) : Deed :=
  match frame with
  | .body (action :: _) => machine.actionDeed action
  | .scope realm _ => .closed realm
  | .borrowed container => .released container
  | .store container =>
    if machine.world.isBorrowed container then .quiet else .stored container reply.content
  | .replace container => machine.world.replacing container reply.content
  | .notify container notice =>
    .notified container notice
      ((machine.world.container container).registry notice.channel).snapshot
  | .dispatch container notice (subscription :: _) =>
    match machine.world.callback? subscription with
    | none => .quiet
    | some _ => .told container notice subscription
  | .announce container key _ _ => .opened .due (machine.world.realmOf container) key
  | .settle container key =>
    match (machine.world.container container).keys.positionOf? key with
    | some _ => .quiet
    | none => machine.world.batch .due (machine.world.realmOf container) key
  | .discharge realm (key :: _) => machine.world.batch .due realm key
  | .teardown realm key (teardown :: _) => .tornDown realm key teardown
  | .verdict container position _ _ _ =>
    if reply.content.truthy then machine.world.removal container position else .quiet
  | _ => .quiet

/-- What leaving a frame because of a failure does. -/
def unwindDeed : Frame → Deed
  | .scope realm _ => .closed realm
  | .borrowed container => .released container
  | frame => .abandoned frame

/-- What the next step does. -/
def deed (machine : Machine) : Deed :=
  match machine.stack, machine.focus with
  | [], _ => .quiet
  | frame :: stack, .resume reply => { machine with stack := stack }.resumeDeed frame reply
  | frame :: _, .unwind _ => unwindDeed frame

end Machine

/-- Putting an element into a list puts it in, unless the list is read. -/
theorem World.insertion_cases (world : World) (container : ContainerRef) (position : Nat)
    (item : Value) :
    world.insertion container position item = .quiet ∨
      ∃ place key, world.insertion container position item =
        .inserted container place key item := by
  unfold World.insertion
  split
  · exact .inl rfl
  · exact .inr ⟨_, _, rfl⟩

/-- Removing an element removes it, if there is one and the list is not read. -/
theorem World.removal_cases (world : World) (container : ContainerRef) (position : Nat) :
    world.removal container position = .quiet ∨
      ∃ keys item, world.removal container position =
        .removed container position keys item := by
  unfold World.removal
  split
  · exact .inl rfl
  · split
    · exact .inl rfl
    · exact .inr ⟨_, _, rfl⟩

/-- Running the teardowns of a key takes them, if there are any. -/
theorem World.batch_cases (world : World) (origin : Origin) (realm : RealmRef) (key : Key) :
    world.batch origin realm key = .quiet ∨
      ∃ waiting, world.batch origin realm key = .running origin realm key waiting := by
  unfold World.batch
  split
  · exact .inl rfl
  · exact .inr ⟨_, rfl⟩

namespace Machine

/-- What the first step of an operation on a container does: nothing, or what operations of its
kind are for. -/
inductive OperationDoes (machine : Machine) (container : ContainerRef) :
    Operation (List Action) → Deed → Prop where
  /-- Nothing comes of it, or its body runs first. -/
  | quiet {operation} : OperationDoes machine container operation .quiet
  /-- The container is read. -/
  | borrowed {operation} : OperationDoes machine container operation (.borrowed container)
  /-- The setter of a list begins. -/
  | setBegun {operation nested} :
      OperationDoes machine container operation (.setBegun container nested)
  /-- An element is put in. -/
  | inserted {operation position key item} :
      OperationDoes machine container operation (.inserted container position key item)
  /-- An element is removed. -/
  | removed {operation position keys item} :
      OperationDoes machine container operation (.removed container position keys item)
  /-- The container is subscribed to. -/
  | subscribed {tag channel body} :
      OperationDoes machine container (.subscribe tag channel body)
        (.subscribed container
          (if (machine.world.container container).contents.isList then channel.getD .change
            else .change)
          (machine.world.nextSubscriptionId (machine.world.container container).realm)
          machine.world.subscriptions.size)

theorem OperationDoes.insertion (machine : Machine) (container : ContainerRef)
    (operation : Operation (List Action)) (position : Nat) (item : Value) :
    machine.OperationDoes container operation
      (machine.world.insertion container position item) := by
  rcases machine.world.insertion_cases container position item with quiet | ⟨_, _, inserts⟩
  · exact quiet ▸ .quiet
  · exact inserts ▸ .inserted

theorem OperationDoes.removal (machine : Machine) (container : ContainerRef)
    (operation : Operation (List Action)) (position : Nat) :
    machine.OperationDoes container operation (machine.world.removal container position) := by
  rcases machine.world.removal_cases container position with quiet | ⟨_, _, removes⟩
  · exact quiet ▸ .quiet
  · exact removes ▸ .removed

/-- The first step of an operation does one of these. -/
theorem operation_does (machine : Machine) (container : ContainerRef)
    (operation : Operation (List Action)) :
    machine.OperationDoes container operation (machine.operationDeed container operation) := by
  cases operation with
  | borrow body result => exact .borrowed
  | subscribe tag channel body => exact .subscribed
  | set body result =>
    simp only [operationDeed, settingDeed]
    split
    · exact .borrowed
    · exact .setBegun
    · exact .quiet
  | push item => exact .insertion ..
  | insertAt position item =>
    simp only [operationDeed]
    split
    · exact .quiet
    · exact .insertion ..
  | pop =>
    simp only [operationDeed]
    split
    · exact .quiet
    · exact .removal ..
  | removeAt position =>
    simp only [operationDeed]
    split
    · exact .quiet
    · exact .removal ..
  | _ => exact .quiet

/-- What the first step of a command does: nothing, or what commands of its kind are for, after
all that they name has been found. -/
inductive CommandDoes (machine : Machine) (subject : String) :
    Command (List Action) → Deed → Prop where
  /-- Nothing comes of it. -/
  | quiet {command} : CommandDoes machine subject command .quiet
  /-- The teardowns that wait for a key are taken to be run. -/
  | ran {named key realm torn waiting} (known : machine.realm? named = some realm)
      (read : (machine.evaluate key).key? = some torn) :
      CommandDoes machine subject (.runTeardowns named key) (.running .asked realm torn waiting)
  /-- A key is opened. -/
  | opened {named key body realm entered} :
      CommandDoes machine subject (.withKey named key body) (.opened .asked realm entered)
  /-- A teardown is registered, a shielded one in the current realm. -/
  | registered {named tag surface body realm} (known : machine.realm? named = some realm)
      {target} (meant : target = match surface with
        | .direct => realm
        | .shielded => machine.world.current) :
      CommandDoes machine subject (.register named tag surface body)
        (.registered target (machine.world.realm target).activeKey?
          ⟨machine.evaluateName tag, surface, body, machine.locals⟩)
  /-- The subscription of a handle is ended. -/
  | unsubscribed {name handle}
      (found : machine.world.handles.find? (machine.evaluateName name) = some handle)
      (alive : machine.isAlive handle.container = true)
      (success : (machine.world.unsubscribe handle).1 = true) :
      CommandDoes machine subject (.handle name .unsubscribe) (.unsubscribed handle)
  /-- A list is made. -/
  | made {name value named surface container keys items} :
      CommandDoes machine subject (.makeList name value named surface)
        (.listMade container keys items)
  /-- A container with a name is operated on. -/
  | operated {operation container deed}
      (named : machine.world.names.find? subject = some container)
      (known : operation.isKnown (machine.world.container container).surface
        (machine.world.container container).contents.isList = true)
      (operates : machine.OperationDoes container operation deed) :
      CommandDoes machine subject (.operate operation) deed

/-- The first step of a command does one of these. -/
theorem command_does (machine : Machine) (subject : String) (command : Command (List Action)) :
    machine.CommandDoes subject command (machine.commandDeed subject command) := by
  cases command with
  | runTeardowns named key =>
    simp only [commandDeed]
    split
    · next realm torn known read =>
      rcases machine.world.batch_cases .asked realm torn with quiet | ⟨_, runs⟩
      · exact quiet ▸ .quiet
      · exact runs ▸ .ran known read
    · exact .quiet
  | withKey named key body =>
    simp only [commandDeed]
    split
    · exact .opened
    · exact .quiet
  | register named tag surface body =>
    simp only [commandDeed]
    split
    · exact .quiet
    · next realm known => exact .registered known rfl
  | handle name query =>
    cases query with
    | unsubscribe =>
      simp only [commandDeed]
      split
      · exact .quiet
      · next handle found =>
        split
        · next succeeds =>
          obtain ⟨alive, success⟩ := Bool.and_eq_true_iff.mp succeeds
          exact .unsubscribed found alive success
        · exact .quiet
    | forget | id | describe => exact .quiet
  | makeList name value named surface =>
    simp only [commandDeed]
    split
    · exact .made
    · exact .quiet
  | operate operation =>
    simp only [commandDeed]
    split
    · exact .quiet
    · next container named =>
      split
      · next known => exact .operated named known (machine.operation_does container operation)
      · exact .quiet
  | _ => exact .quiet

/-- What going on with a frame does: nothing, what its action does, or what frames of its kind
are for. -/
inductive FrameDoes (machine : Machine) : Frame → Deed → Prop where
  /-- Nothing comes of it. -/
  | quiet {frame} : FrameDoes machine frame .quiet
  /-- The first action of a body is performed. -/
  | acted {action actions deed}
      (does : machine.CommandDoes (machine.subjectName action) action.command deed) :
      FrameDoes machine (.body (action :: actions)) deed
  /-- A key is closed. -/
  | closed {realm key} : FrameDoes machine (.scope realm key) (.closed realm)
  /-- A reader lets go. -/
  | released {container} : FrameDoes machine (.borrowed container) (.released container)
  /-- A value is stored. -/
  | stored {container value} : FrameDoes machine (.store container) (.stored container value)
  /-- The elements of a list are replaced. -/
  | replaced {container keys allotted items} :
      FrameDoes machine (.replace container) (.replaced container keys allotted items)
  /-- The keys of a list are replaced, but not the elements. -/
  | rekeyed {container keys allotted} :
      FrameDoes machine (.replace container) (.rekeyed container keys allotted)
  /-- A notice starts to go out. -/
  | notified {container notice waiting} :
      FrameDoes machine (.notify container notice) (.notified container notice waiting)
  /-- A subscriber is called. -/
  | told {container notice subscription waiting} :
      FrameDoes machine (.dispatch container notice (subscription :: waiting))
        (.told container notice subscription)
  /-- The key of an added element is opened. -/
  | announced {container key item position} :
      FrameDoes machine (.announce container key item position)
        (.opened .due (machine.world.realmOf container) key)
  /-- The teardowns of an element that has left again are taken to be run. -/
  | settled {container key waiting} :
      FrameDoes machine (.settle container key)
        (.running .due (machine.world.realmOf container) key waiting)
  /-- The teardowns of a key that has left are taken to be run. -/
  | discharged {realm key keys waiting} :
      FrameDoes machine (.discharge realm (key :: keys)) (.running .due realm key waiting)
  /-- A teardown is called. -/
  | tornDown {realm key teardown waiting} :
      FrameDoes machine (.teardown realm key (teardown :: waiting))
        (.tornDown realm key teardown)
  /-- An element that was looked for is removed. -/
  | removed {container position others body test keys item} :
      FrameDoes machine (.verdict container position others body test)
        (.removed container position keys item)

/-- Going on with a frame does one of these. -/
theorem frame_does (machine : Machine) (frame : Frame) (reply : Reply) :
    machine.FrameDoes frame (machine.resumeDeed frame reply) := by
  cases frame with
  | body actions =>
    cases actions with
    | nil => exact .quiet
    | cons action actions => exact .acted (machine.command_does _ _)
  | scope => exact .closed
  | borrowed => exact .released
  | store container =>
    simp only [resumeDeed]
    split
    · exact .quiet
    · exact .stored
  | replace container =>
    simp only [resumeDeed, World.replacing]
    split
    · exact .quiet
    · split
      · exact .rekeyed
      · exact .replaced
  | notify => exact .notified
  | dispatch container notice waiting =>
    cases waiting with
    | nil => exact .quiet
    | cons subscription waiting =>
      simp only [resumeDeed]
      split
      · exact .quiet
      · exact .told
  | announce => exact .announced
  | settle container key =>
    simp only [resumeDeed]
    split
    · exact .quiet
    · rcases machine.world.batch_cases .due (machine.world.realmOf container) key with
        quiet | ⟨_, runs⟩
      · exact quiet ▸ .quiet
      · exact runs ▸ .settled
  | discharge realm keys =>
    cases keys with
    | nil => exact .quiet
    | cons key keys =>
      simp only [resumeDeed]
      rcases machine.world.batch_cases .due realm key with quiet | ⟨_, runs⟩
      · exact quiet ▸ .quiet
      · exact runs ▸ .discharged
  | teardown realm key waiting =>
    cases waiting with
    | nil => exact .quiet
    | cons teardown waiting => exact .tornDown
  | verdict container position others body test =>
    simp only [resumeDeed]
    split
    · rcases machine.world.removal_cases container position with quiet | ⟨_, _, removes⟩
      · exact quiet ▸ .quiet
      · exact removes ▸ .removed
    · exact .quiet
  | _ => exact .quiet

end Machine

/-- Only an action of the script does it. -/
def Deed.isScripted : Deed → Bool
  | .listMade .. | .subscribed .. | .unsubscribed _ | .registered .. | .running .asked _ _ _
  | .opened .asked _ _ => true
  | _ => false

/-- Only a body goes on with an action. -/
theorem Machine.not_isScripted_resumeDeed (machine : Machine) {frame : Frame} (reply : Reply)
    (other : ∀ action actions, frame ≠ .body (action :: actions)) :
    (machine.resumeDeed frame reply).isScripted = false := by
  have does := machine.frame_does frame reply
  generalize machine.resumeDeed frame reply = deed at does ⊢
  cases does with
  | acted => exact absurd rfl (other _ _)
  | _ => rfl

/-- What only actions do is done when a body goes on with one. -/
theorem Machine.body_of_isScripted {machine : Machine} (scripted : machine.deed.isScripted = true) :
    ∃ action actions rest reply, machine.stack = .body (action :: actions) :: rest ∧
      machine.focus = .resume reply := by
  rcases machine with ⟨world, locals, stack, focus⟩
  cases stack with
  | nil => cases scripted
  | cons frame rest =>
    cases focus with
    | unwind failure => cases frame <;> cases scripted
    | resume reply =>
      have going :
          (resumeDeed ⟨world, locals, rest, .resume reply⟩ frame reply).isScripted = true :=
        scripted
      by_cases body : ∃ action actions, frame = .body (action :: actions)
      · obtain ⟨action, actions, rfl⟩ := body
        exact ⟨action, actions, rest, reply, rfl, rfl⟩
      · rw [not_isScripted_resumeDeed _ _ fun action actions same => body ⟨action, actions, same⟩]
          at going
        cases going

end Observables
