import Observables.Proofs.Port
import Observables.Proofs.Effect

/-!
# The worlds of two corresponding runs

The world of the shielded run is that of the direct one but for the list: its
surface is another, nobody holds on to its elements, its handles are those of
a shielded list, and failures of its subscribers would end in their calls. The
elements, the keys and everything that is registered are the same. Every
single change of a world that both runs make keeps this so.
-/

namespace Observables

open Script

/-- An answer is noted, unless it is null. -/
def Reply.noted (verb : String) (reply : Reply) : List Event :=
  if reply = .value .null then [] else [.answered verb reply]

/-- What two runs have made visible, the latest first: the same but for corresponding answers. -/
inductive Told : List Event → List Event → Prop where
  /-- Nothing yet. -/
  | nil : Told [] []
  /-- The same event. -/
  | event {left right} (event : Event) (before : Told left right) :
      Told (event :: left) (event :: right)
  /-- Corresponding answers. -/
  | answer {left right direct shielded} {form : Form} (verb : String)
      (answers : form.Answers direct shielded) (before : Told left right) :
      Told (direct.noted verb ++ left) (shielded.noted verb ++ right)

/-- What has been told is the same as itself. -/
theorem Told.refl (events : List Event) : Told events events := by
  induction events with
  | nil => exact .nil
  | cons event events ih => exact ih.event event

/-- The event is the answer of an action. -/
def Event.isAnswer : Event → Bool
  | .answered _ _ => true
  | _ => false

/-- Everything but answers is the same and comes in the same order. -/
theorem Told.filter {left right : List Event} (told : Told left right) :
    left.filter (!·.isAnswer) = right.filter (!·.isAnswer) := by
  have silent (verb : String) (reply : Reply) :
      (reply.noted verb).filter (!·.isAnswer) = [] := by
    unfold Reply.noted
    split <;> rfl
  induction told with
  | nil => rfl
  | event event before ih => rw [List.filter_cons, List.filter_cons, ih]
  | answer verb answers before ih =>
    rw [List.filter_append, List.filter_append, silent, silent, ih]

/-- Two journals tell the same. -/
structure Journal.Matches (left right : Journal) : Prop where
  /-- Both or none are traced. -/
  tracing : right.tracing = left.tracing
  /-- The events correspond. -/
  told : Told left.latest right.latest

namespace Journal.Matches

variable {left right : Journal}

/-- The same event is noted in both. -/
theorem note (journals : left.Matches right) (event : Event) :
    (left.note event).Matches (right.note event) :=
  ⟨journals.tracing, journals.told.event event⟩

/-- The same event is traced in both. -/
theorem trace (journals : left.Matches right) (event : TraceEvent) :
    (left.trace event).Matches (right.trace event) := by
  unfold Journal.trace
  rw [journals.tracing]
  split
  · exact journals.note _
  · exact journals

/-- The same events are traced in both. -/
theorem traceAll (journals : left.Matches right) (events : List TraceEvent) :
    (left.traceAll events).Matches (right.traceAll events) := by
  induction events generalizing left right with
  | nil => exact journals
  | cons event events ih => exact ih (journals.trace event)

end Journal.Matches

namespace Port

variable (port : Port)

/-- Two callbacks correspond. The guard of the one may be direct where that of the other is
shielded. -/
structure Callbacks (left right : Callback) : Prop where
  /-- They appear under the same name. -/
  tag : right.tag = left.tag
  /-- Failures are treated alike, or they pass in the direct run only. -/
  surface : right.surface = left.surface ∨ left.surface = .direct ∧ right.surface = .shielded
  /-- Their bodies correspond. -/
  body : port.Bodies left.body right.body
  /-- Their variables correspond. -/
  locals : port.Locals left.locals right.locals

/-- The teardowns of the same key correspond. -/
def Waiting (left right : Key × List Callback) : Prop :=
  right.1 = left.1 ∧ List.Forall₂ port.Callbacks left.2 right.2

/-- Two realms are the same but for corresponding teardowns. -/
structure Realms (left right : Realm) : Prop where
  /-- The label is the same. -/
  label : right.label = left.label
  /-- The supply of subscription numbers is the same. -/
  subscriptionIds : right.subscriptionIds = left.subscriptionIds
  /-- The supply of list numbers is the same. -/
  containerIds : right.containerIds = left.containerIds
  /-- The open keys are the same. -/
  active : right.active = left.active
  /-- The teardowns correspond. -/
  teardowns : List.Forall₂ port.Waiting left.teardowns.entries right.teardowns.entries

/-- Two subscriptions are the same but for corresponding callbacks. -/
structure Subscriptions (left right : Subscription Callback) : Prop where
  /-- The number is the same. -/
  id : right.id = left.id
  /-- Both are switched on, or both off. -/
  active : right.active = left.active
  /-- The callbacks correspond. -/
  callback : port.Callbacks left.callback right.callback

/-- A container of the direct run as it is in the shielded one. -/
def shield (row : ContainerRef) (held : Container) : Container :=
  if row = port.list then { held with surface := .shielded, borrows := 0 } else held

/-- A handle of the direct run as it is in the shielded one. -/
def handle (handle : Handle) : Handle :=
  if handle.container = port.list then { handle with surface := .shielded } else handle

/-- The world of the direct run and that of the shielded run. -/
structure Worlds (left right : World) : Prop where
  /-- There are as many realms. -/
  realmCount : right.realms.size = left.realms.size
  /-- Realms correspond. -/
  realm : ∀ row, port.Realms (left.realm row) (right.realm row)
  /-- Realms have the same names. -/
  realmNames : right.realmNames = left.realmNames
  /-- The realms of open keys are the same. -/
  entered : right.entered = left.entered
  /-- There are as many containers. -/
  containerCount : right.containers.size = left.containers.size
  /-- Containers are the same but for the surface and the readers of the list. -/
  container : ∀ row, right.container row = port.shield row (left.container row)
  /-- It is direct in the direct run. -/
  direct : (left.container port.list).surface = .direct
  /-- It is a list. -/
  isList : (left.container port.list).contents.isList = true
  /-- Containers have the same names. -/
  names : right.names = left.names
  /-- There are as many subscriptions. -/
  subscriptionCount : right.subscriptions.size = left.subscriptions.size
  /-- Subscriptions correspond. -/
  subscription : ∀ row,
    Option.Rel port.Subscriptions (left.subscriptions.get? row) (right.subscriptions.get? row)
  /-- Handles are the same but for the surface. -/
  handle : ∀ name, right.handles.find? name = (left.handles.find? name).map port.handle
  /-- Those of the list are direct in the direct run. -/
  directHandle : ∀ name handle, left.handles.find? name = some handle →
    handle.container = port.list → handle.surface = .direct
  /-- Limited bodies have been arrived at as often. -/
  arrivals : right.arrivals = left.arrivals
  /-- The journals tell the same. -/
  journal : left.journal.Matches right.journal

variable {port} {row : ContainerRef} {held : Container}

@[simp] theorem realm_shield : (port.shield row held).realm = held.realm := by
  unfold shield
  split <;> rfl

@[simp] theorem contents_shield : (port.shield row held).contents = held.contents := by
  unfold shield
  split <;> rfl

@[simp] theorem registry_shield (channel : Channel) :
    (port.shield row held).registry channel = held.registry channel := by
  unfold shield
  split <;> cases channel <;> rfl

/-- Other containers are the same in both runs. -/
theorem shield_of_ne (other : row ≠ port.list) : port.shield row held = held := if_neg other

/-- What is done to the contents or the registries is done in both runs. -/
theorem shield_modify (change : Container → Container)
    (kept : ∀ held, change { held with surface := .shielded, borrows := 0 } =
      { change held with surface := .shielded, borrows := 0 }) :
    port.shield row (change held) = change (port.shield row held) := by
  unfold shield
  split
  · exact (kept held).symm
  · rfl

/-- Corresponding teardowns are bound in both runs. -/
theorem Waiting.place {entries others : List (Key × List Callback)}
    (waits : List.Forall₂ port.Waiting entries others) (key : Key) {teardown other : Callback}
    (same : port.Callbacks teardown other) :
    List.Forall₂ port.Waiting (TeardownTable.place key teardown entries)
      (TeardownTable.place key other others) := by
  induction waits with
  | nil => exact .cons ⟨rfl, .cons same .nil⟩ .nil
  | @cons entry second entries others first rest ih =>
    rcases entry with ⟨bound, waiting⟩
    obtain ⟨there, callbacks⟩ := first
    rcases second with ⟨second, following⟩
    obtain rfl : second = bound := there
    unfold TeardownTable.place
    split
    · have last : List.Forall₂ port.Callbacks [teardown] [other] := .cons same .nil
      exact .cons ⟨rfl, List.rel_append callbacks last⟩ rest
    · exact .cons ⟨rfl, callbacks⟩ ih

/-- The teardowns of a key are taken out in both runs. -/
theorem Waiting.filter {entries others : List (Key × List Callback)}
    (waits : List.Forall₂ port.Waiting entries others) (key : Key) :
    List.Forall₂ port.Waiting (entries.filter fun entry => key != entry.1)
      (others.filter fun entry => key != entry.1) := by
  induction waits with
  | nil => exact .nil
  | @cons entry second entries others first rest ih =>
    rw [List.filter_cons, List.filter_cons, first.1]
    split
    · exact .cons first ih
    · exact ih

/-- Corresponding teardowns are found in both runs. -/
theorem Waiting.lookup {entries others : List (Key × List Callback)}
    (waits : List.Forall₂ port.Waiting entries others) (key : Key) :
    Option.Rel (List.Forall₂ port.Callbacks) (entries.lookup key) (others.lookup key) := by
  induction waits with
  | nil => exact .none
  | @cons entry second entries others first rest ih =>
    rcases entry with ⟨bound, waiting⟩
    rcases second with ⟨second, following⟩
    obtain ⟨there, callbacks⟩ := first
    obtain rfl : second = bound := there
    rw [List.lookup_cons, List.lookup_cons]
    split
    · exact .some callbacks
    · exact ih

namespace Realms

variable {left right : Realm}

/-- The teardowns of a key correspond. -/
theorem find? (realms : port.Realms left right) (key : Key) :
    Option.Rel (List.Forall₂ port.Callbacks) (left.teardowns.find? key)
      (right.teardowns.find? key) := Waiting.lookup realms.teardowns key

/-- As many teardowns wait for a key. -/
theorem pending (realms : port.Realms left right) (key : Key) :
    (right.teardowns.pending key).length = (left.teardowns.pending key).length := by
  unfold TeardownTable.pending
  match left.teardowns.find? key, right.teardowns.find? key, realms.find? key with
  | _, _, .none => rfl
  | _, _, .some same => exact same.length_eq.symm

/-- As many keys have teardowns. -/
theorem tracked (realms : port.Realms left right) :
    right.teardowns.tracked = left.teardowns.tracked := realms.teardowns.length_eq.symm

/-- The descriptions are the same. -/
theorem describe (realms : port.Realms left right) : right.describe = left.describe := by
  unfold Realm.describe
  rw [realms.label, realms.active, realms.tracked]

/-- A new realm corresponds to itself. -/
theorem make (label : Option String) (firstId : Nat) :
    port.Realms (.make label firstId) (.make label firstId) := ⟨rfl, rfl, rfl, rfl, .nil⟩

/-- A key is opened in both. -/
theorem openKey (realms : port.Realms left right) (key : Key) :
    port.Realms (left.openKey key) (right.openKey key) :=
  { realms with active := congrArg (key :: ·) realms.active }

/-- The innermost key is closed in both. -/
theorem closeKey (realms : port.Realms left right) :
    port.Realms left.closeKey right.closeKey :=
  { realms with active := congrArg List.tail realms.active }

/-- Corresponding teardowns are bound in both. -/
theorem bind (realms : port.Realms left right) (key : Key) {teardown other : Callback}
    (same : port.Callbacks teardown other) :
    port.Realms (left.bind key teardown) (right.bind key other) :=
  { realms with teardowns := Waiting.place realms.teardowns key same }

/-- The teardowns of a key are taken out of both. -/
theorem unbind (realms : port.Realms left right) (key : Key) :
    port.Realms (left.unbind key) (right.unbind key) :=
  { realms with teardowns := Waiting.filter realms.teardowns key }

end Realms

namespace Subscriptions

variable {left right : Subscription Callback}

/-- Both are switched off. -/
theorem deactivate (subscriptions : port.Subscriptions left right) :
    port.Subscriptions left.deactivate right.deactivate := { subscriptions with active := rfl }

/-- Corresponding callbacks are called, or none. -/
theorem callback? (subscriptions : port.Subscriptions left right) :
    Option.Rel port.Callbacks left.callback? right.callback? := by
  unfold Subscription.callback?
  rw [subscriptions.active]
  split
  · exact .some subscriptions.callback
  · exact .none

end Subscriptions

end Port

namespace Port.Worlds

variable {port : Port} {left right : World}

section

variable (worlds : port.Worlds left right)

include worlds

theorem realmOf (container : ContainerRef) : right.realmOf container = left.realmOf container := by
  rw [World.realmOf, worlds.container, realm_shield]
  rfl

theorem contents (container : ContainerRef) :
    (right.container container).contents = (left.container container).contents := by
  rw [worlds.container, contents_shield]

theorem items (container : ContainerRef) :
    (right.container container).items = (left.container container).items :=
  congrArg Contents.items (worlds.contents container)

theorem keys (container : ContainerRef) :
    (right.container container).keys = (left.container container).keys :=
  congrArg Contents.keys (worlds.contents container)

theorem value (container : ContainerRef) :
    (right.container container).value = (left.container container).value :=
  congrArg Contents.value (worlds.contents container)

theorem registry (container : ContainerRef) (channel : Channel) :
    (right.container container).registry channel =
      (left.container container).registry channel := by
  rw [worlds.container, registry_shield]

/-- Containers other than the list are the same. -/
theorem container_of_ne {container : ContainerRef} (other : container ≠ port.list) :
    right.container container = left.container container := by
  rw [worlds.container, shield_of_ne other]

/-- The list is shielded in the shielded run. -/
theorem shielded : (right.container port.list).surface = .shielded := by
  rw [worlds.container, shield, if_pos rfl]

/-- The list exists. -/
theorem inside : port.list < left.containers.size := World.lt_size_of_isList worlds.isList

/-- Nobody holds on to the list in the shielded run. -/
theorem free : right.isBorrowed port.list = false := by
  rw [World.isBorrowed, worlds.container, shield, if_pos rfl]
  rfl

/-- The same containers are held on to, provided that it is not the list. -/
theorem isBorrowed {container : ContainerRef}
    (free : container = port.list → left.isBorrowed container = false) :
    right.isBorrowed container = left.isBorrowed container := by
  by_cases here : container = port.list
  · rw [free here, here, worlds.free]
  · rw [World.isBorrowed, worlds.container_of_ne here]
    rfl

theorem current : right.current = left.current := by
  rw [World.current, worlds.entered]
  rfl

theorem activeKey? : right.activeKey? = left.activeKey? := by
  rw [World.activeKey?, Realm.activeKey?, worlds.current, (worlds.realm _).active]
  rfl

/-- What containers hold is the same under every name. -/
theorem held : right.held = left.held := by
  funext name
  unfold World.held
  rw [worlds.names]
  cases left.names.find? name with
  | none => rfl
  | some container => exact worlds.value container

theorem nextSubscriptionId (realm : RealmRef) :
    right.nextSubscriptionId realm = left.nextSubscriptionId realm := by
  rw [World.nextSubscriptionId, (worlds.realm realm).subscriptionIds]
  rfl

theorem nextListId (realm : RealmRef) : right.nextListId realm = left.nextListId realm := by
  rw [World.nextListId, (worlds.realm realm).containerIds]
  rfl

end

/-- The journals change and still tell the same. -/
theorem withJournal (worlds : port.Worlds left right) {journal other : Journal}
    (journals : journal.Matches other) :
    port.Worlds { left with journal := journal } { right with journal := other } :=
  { worlds with journal := journals }

/-- Both runs note the same event. -/
theorem emit (worlds : port.Worlds left right) (event : Event) :
    port.Worlds (left.emit event) (right.emit event) :=
  worlds.withJournal (worlds.journal.note event)

/-- Both runs trace the same event. -/
theorem trace (worlds : port.Worlds left right) (event : TraceEvent) :
    port.Worlds (left.trace event) (right.trace event) :=
  worlds.withJournal (worlds.journal.trace event)

/-- Both runs trace the same events. -/
theorem traceAll (worlds : port.Worlds left right) (events : List TraceEvent) :
    port.Worlds (left.traceAll events) (right.traceAll events) :=
  worlds.withJournal (worlds.journal.traceAll events)

/-- Names of containers change in both runs. -/
theorem withNames (worlds : port.Worlds left right) (names : Directory ContainerRef) :
    port.Worlds { left with names := names } { right with names := names } :=
  { worlds with names := rfl }

/-- Limited bodies are arrived at in both runs. -/
theorem withArrivals (worlds : port.Worlds left right) (arrivals : Directory Nat) :
    port.Worlds { left with arrivals := arrivals } { right with arrivals := arrivals } :=
  { worlds with arrivals := rfl }

/-- A container changes in both runs, but for the surface and the readers of the list. -/
theorem modifyContainer (worlds : port.Worlds left right) {container : ContainerRef}
    {change other : Container → Container}
    (agrees : ∀ held, other (port.shield container held) = port.shield container (change held))
    (surface : ∀ held, (change held).surface = held.surface)
    (isList : ∀ held, (change held).contents.isList = held.contents.isList) :
    port.Worlds (left.modifyContainer container change)
      (right.modifyContainer container other) := by
  have row (row : ContainerRef) : (right.modifyContainer container other).container row =
      port.shield row ((left.modifyContainer container change).container row) := by
    rcases Nat.lt_or_ge container left.containers.size with inside | beyond
    · have there : container < right.containers.size := by
        rw [worlds.containerCount]
        exact inside
      rw [World.container_modify inside, World.container_modify there]
      split
      · next here => rw [worlds.container, agrees, here]
      · exact worlds.container row
    · have there : right.containers.size ≤ container := by
        rw [worlds.containerCount]
        exact beyond
      rw [World.container_modify_of_le beyond, World.container_modify_of_le there]
      exact worlds.container row
  have kept {Value : Type} (field : Container → Value)
      (same : ∀ held, field (change held) = field held) :
      field ((left.modifyContainer container change).container port.list) =
        field (left.container port.list) := by
    rw [World.container_modifyContainer worlds.inside]
    split
    · exact same _
    · rfl
  exact { worlds with
    containerCount := by
      rw [World.size_modifyContainer, World.size_modifyContainer, worlds.containerCount]
    container := row
    direct := (kept (·.surface) surface).trans worlds.direct
    isList := (kept (·.contents.isList) isList).trans worlds.isList }

/-- What a container holds changes in both runs. -/
theorem modifyContents (worlds : port.Worlds left right) (container : ContainerRef)
    {change : Contents → Contents}
    (isList : ∀ contents, (change contents).isList = contents.isList) :
    port.Worlds (left.modifyContents container change)
      (right.modifyContents container change) :=
  worlds.modifyContainer
    (fun _ => (shield_modify (fun held => { held with contents := change held.contents })
      fun _ => rfl).symm)
    (fun _ => rfl) fun held => isList held.contents

/-- A container other than the list is held on to in both runs. -/
theorem borrow (worlds : port.Worlds left right) {container : ContainerRef}
    (apart : container ≠ port.list) :
    port.Worlds (left.borrow container) (right.borrow container) :=
  worlds.modifyContainer (fun _ => by rw [shield_of_ne apart, shield_of_ne apart])
    (fun _ => rfl) fun _ => rfl

/-- A container other than the list is let go of in both runs. -/
theorem release (worlds : port.Worlds left right) {container : ContainerRef}
    (apart : container ≠ port.list) :
    port.Worlds (left.release container) (right.release container) :=
  worlds.modifyContainer (fun _ => by rw [shield_of_ne apart, shield_of_ne apart])
    (fun _ => rfl) fun _ => rfl

/-- The number of readers of the list changes in the direct run only. -/
theorem modifyReaders (worlds : port.Worlds left right) {change : Container → Container}
    (readers : ∀ held, port.shield port.list held = port.shield port.list (change held))
    (surface : ∀ held, (change held).surface = held.surface)
    (isList : ∀ held, (change held).contents.isList = held.contents.isList) :
    port.Worlds (left.modifyContainer port.list change) right := by
  have still : right.modifyContainer port.list id = right := by
    have same : right.containers.modify port.list id = right.containers :=
      Table.modify_eq_self fun _ _ => rfl
    rw [World.modifyContainer, same]
  have both : port.Worlds (left.modifyContainer port.list change)
      (right.modifyContainer port.list id) := worlds.modifyContainer readers surface isList
  rwa [still] at both

/-- The direct run holds on to the list while the shielded one does not. -/
theorem borrowList (worlds : port.Worlds left right) :
    port.Worlds (left.borrow port.list) right :=
  worlds.modifyReaders (fun _ => by rw [shield, if_pos rfl, shield, if_pos rfl]; rfl)
    (fun _ => rfl) fun _ => rfl

/-- The direct run lets go of the list, which the shielded one did not hold on to. -/
theorem releaseList (worlds : port.Worlds left right) :
    port.Worlds (left.release port.list) right :=
  worlds.modifyReaders (fun _ => by rw [shield, if_pos rfl, shield, if_pos rfl]; rfl)
    (fun _ => rfl) fun _ => rfl

/-- A realm changes in both runs. -/
theorem modifyRealm (worlds : port.Worlds left right) (realm : RealmRef)
    {change other : Realm → Realm}
    (agrees : ∀ {held second}, port.Realms held second →
      port.Realms (change held) (other second)) :
    port.Worlds (left.modifyRealm realm change) (right.modifyRealm realm other) := by
  have row (row : RealmRef) : port.Realms ((left.modifyRealm realm change).realm row)
      ((right.modifyRealm realm other).realm row) := by
    rcases Nat.lt_or_ge realm left.realms.size with inside | beyond
    · have there : realm < right.realms.size := by
        rw [worlds.realmCount]
        exact inside
      rw [World.realm_modify inside, World.realm_modify there]
      split
      · exact agrees (worlds.realm realm)
      · exact worlds.realm row
    · have there : right.realms.size ≤ realm := by
        rw [worlds.realmCount]
        exact beyond
      rw [World.realm_modify_of_le beyond, World.realm_modify_of_le there]
      exact worlds.realm row
  exact { worlds with
    realmCount := by
      rw [World.size_modifyRealm, World.size_modifyRealm, worlds.realmCount]
    realm := row }

/-- A key is opened in both runs. -/
theorem enter (worlds : port.Worlds left right) (realm : RealmRef) (key : Key) :
    port.Worlds (left.enter realm key) (right.enter realm key) :=
  { worlds.modifyRealm realm fun realms => realms.openKey key with
    entered := congrArg (realm :: ·) worlds.entered }

/-- A key is closed in both runs. -/
theorem leave (worlds : port.Worlds left right) (realm : RealmRef) :
    port.Worlds (left.leave realm) (right.leave realm) :=
  { worlds.modifyRealm realm Realms.closeKey with
    entered := congrArg List.tail worlds.entered }

/-- A subscription number is taken in both runs. -/
theorem takeSubscriptionId (worlds : port.Worlds left right) (realm : RealmRef) :
    port.Worlds (left.takeSubscriptionId realm) (right.takeSubscriptionId realm) :=
  worlds.modifyRealm realm fun realms =>
    { realms with subscriptionIds := congrArg IdSupply.advance realms.subscriptionIds }

/-- A list number is taken in both runs. -/
theorem takeListId (worlds : port.Worlds left right) (realm : RealmRef) :
    port.Worlds (left.takeListId realm) (right.takeListId realm) :=
  worlds.modifyRealm realm fun realms =>
    { realms with containerIds := congrArg IdSupply.advance realms.containerIds }

/-- A realm is made in both runs. -/
theorem openRealm (worlds : port.Worlds left right) (name : String) (label : Option String)
    (firstId : Nat) :
    port.Worlds (left.openRealm name label firstId) (right.openRealm name label firstId) := by
  have row (row : RealmRef) : port.Realms ((left.openRealm name label firstId).realm row)
      ((right.openRealm name label firstId).realm row) := by
    have one := Table.entry_add left.realms (.make label firstId) row
    have two := Table.entry_add right.realms (.make label firstId) row
    rw [worlds.realmCount] at two
    unfold World.realm World.openRealm
    rw [one, two]
    split
    · exact .make label firstId
    · exact worlds.realm row
  exact { worlds.trace (.realmCreated label firstId) with
    realmCount := by
      have count := congrArg (· + 1) worlds.realmCount
      simpa only [World.openRealm, Table.size_add] using count
    realm := row
    realmNames := by
      unfold World.openRealm
      rw [worlds.realmNames, worlds.realmCount] }

/-- A container is made in both runs. -/
theorem makeContainer (worlds : port.Worlds left right) (name : String) (made : Container) :
    port.Worlds (left.makeContainer name made) (right.makeContainer name made) := by
  have row (row : ContainerRef) : (right.makeContainer name made).container row =
      port.shield row ((left.makeContainer name made).container row) := by
    have one := Table.entry_add left.containers made row
    have two := Table.entry_add right.containers made row
    rw [worlds.containerCount] at two
    unfold World.container World.makeContainer
    rw [one, two]
    split
    · next last =>
      have apart : port.list ≠ left.containers.size := Nat.ne_of_lt worlds.inside
      exact (shield_of_ne (last ▸ apart.symm)).symm
    · exact worlds.container row
  have kept := World.container_makeContainer worlds.inside name made
  exact { worlds with
    containerCount := by
      have count := congrArg (· + 1) worlds.containerCount
      simpa only [World.makeContainer, Table.size_add] using count
    container := row
    direct := (congrArg (·.surface) kept).trans worlds.direct
    isList := (congrArg (·.contents.isList) kept).trans worlds.isList
    names := by
      unfold World.makeContainer
      rw [worlds.names, worlds.containerCount] }

/-- A list is made in both runs. -/
theorem makeList (worlds : port.Worlds left right) (name : String) (realm : RealmRef)
    (surface : Surface) (items : List Value) :
    port.Worlds (left.makeList name realm surface items)
      (right.makeList name realm surface items) := by
  unfold World.makeList
  rw [worlds.nextListId]
  exact ((worlds.takeListId realm).traceAll _).makeContainer name _

/-- The table of subscriptions changes in both runs. -/
theorem withSubscriptions (worlds : port.Worlds left right)
    {table other : Table (Subscription Callback)} (count : other.size = table.size)
    (rows : ∀ row, Option.Rel port.Subscriptions (table.get? row) (other.get? row)) :
    port.Worlds { left with subscriptions := table } { right with subscriptions := other } :=
  { worlds with subscriptionCount := count, subscription := rows }

/-- A registry changes in both runs. -/
theorem setRegistry (worlds : port.Worlds left right) (container : ContainerRef)
    (channel : Channel) (registry : Registry) :
    port.Worlds (left.modifyContainer container (·.setRegistry channel registry))
      (right.modifyContainer container (·.setRegistry channel registry)) := by
  refine worlds.modifyContainer (fun held => ?_) (fun held => ?_) fun held => ?_
  · exact (shield_modify (·.setRegistry channel registry)
      fun held => by cases channel <;> rfl).symm
  · cases channel <;> rfl
  · cases channel <;> rfl

/-- Corresponding callbacks are subscribed in both runs. -/
theorem subscribe (worlds : port.Worlds left right) (container : ContainerRef)
    (channel : Channel) {callback other : Callback} (same : port.Callbacks callback other) :
    port.Worlds (left.subscribe container channel callback)
      (right.subscribe container channel other) := by
  have id := worlds.nextSubscriptionId (left.realmOf container)
  have count := worlds.subscriptionCount
  have taken := worlds.takeSubscriptionId (left.realmOf container)
  have row (row : Nat) : Option.Rel port.Subscriptions
      ((left.subscriptions.add
        ⟨left.nextSubscriptionId (left.realmOf container), callback, true⟩).get? row)
      ((right.subscriptions.add
        ⟨left.nextSubscriptionId (left.realmOf container), other, true⟩).get? row) := by
    rw [Table.get?_add, Table.get?_add, count]
    split
    · exact .some ⟨rfl, rfl, same⟩
    · exact worlds.subscription row
  unfold World.subscribe World.setBoard World.board Switchboard.insert Switchboard.make
  dsimp only
  rw [worlds.realmOf, id, worlds.registry, count]
  refine (taken.setRegistry container channel _).withSubscriptions ?_ row
  rw [Table.size_add, Table.size_add, count]

/-- A handle is kept in both runs. -/
theorem keepHandle (worlds : port.Worlds left right) (name : String) (handle : Handle)
    (direct : handle.container = port.list → handle.surface = .direct) :
    port.Worlds (left.keepHandle name handle) (right.keepHandle name (port.handle handle)) := by
  unfold World.keepHandle
  split
  · exact worlds
  · refine { worlds with handle := fun asked => ?_, directHandle := fun asked held found => ?_ }
    · rw [Directory.find?_insert, Directory.find?_insert]
      split
      · rfl
      · exact worlds.handle asked
    · rw [Directory.find?_insert] at found
      split at found
      · cases found
        exact direct
      · exact worlds.directHandle asked held found

/-- A handle is forgotten in both runs. -/
theorem forgetHandle (worlds : port.Worlds left right) (name : String) :
    port.Worlds { left with handles := left.handles.erase name }
      { right with handles := right.handles.erase name } := by
  refine { worlds with handle := fun asked => ?_, directHandle := fun asked held found => ?_ }
  · rw [Directory.find?_erase, Directory.find?_erase]
    split
    · rfl
    · exact worlds.handle asked
  · rw [Directory.find?_erase] at found
    split at found
    · cases found
    · exact worlds.directHandle asked held found

/-- A subscription is ended in both runs, or in neither. -/
theorem unsubscribe (worlds : port.Worlds left right) (handle : Handle) :
    (right.unsubscribe (port.handle handle)).1 = (left.unsubscribe handle).1 ∧
      port.Worlds (left.unsubscribe handle).2 (right.unsubscribe (port.handle handle)).2 := by
  have still : port.handle handle = { handle with surface := (port.handle handle).surface } := by
    unfold Port.handle
    split <;> rfl
  rw [still]
  unfold World.unsubscribe World.board Switchboard.unsubscribe
  rw [worlds.registry]
  cases ((left.container handle.container).registry handle.channel).find? handle.id with
  | none =>
    refine ⟨rfl, ?_⟩
    exact (worlds.setRegistry _ _ _).withSubscriptions worlds.subscriptionCount
      worlds.subscription
  | some ended =>
    refine ⟨rfl, ?_⟩
    have row (row : Nat) : Option.Rel port.Subscriptions
        ((left.subscriptions.modify ended Subscription.deactivate).get? row)
        ((right.subscriptions.modify ended Subscription.deactivate).get? row) := by
      rw [Table.get?_modify, Table.get?_modify]
      split
      · match left.subscriptions.get? row, right.subscriptions.get? row,
          worlds.subscription row with
        | _, _, .none => exact .none
        | _, _, .some same => exact .some same.deactivate
      · exact worlds.subscription row
    refine (worlds.setRegistry _ _ _).withSubscriptions ?_ row
    unfold Switchboard.deactivate
    rw [Table.size_modify, Table.size_modify, worlds.subscriptionCount]

/-- Corresponding callbacks are called for a subscription, or none. -/
theorem callback? (worlds : port.Worlds left right) (subscription : SubscriptionRef) :
    Option.Rel port.Callbacks (left.callback? subscription) (right.callback? subscription) := by
  unfold World.callback?
  match left.subscriptions.get? subscription, right.subscriptions.get? subscription,
    worlds.subscription subscription with
  | _, _, .none => exact .none
  | _, _, .some same => exact same.callback?

/-- Corresponding teardowns are bound to the same key, or none is. -/
theorem register (worlds : port.Worlds left right) (realm : RealmRef)
    {teardown other : Callback} (same : port.Callbacks teardown other) :
    (right.register realm other).1 = (left.register realm teardown).1 ∧
      port.Worlds (left.register realm teardown).2 (right.register realm other).2 := by
  have realms := worlds.realm realm
  unfold World.register Realm.activeKey?
  rw [realms.active, realms.label]
  cases (left.realm realm).active.head? with
  | none => exact ⟨rfl, worlds.trace _⟩
  | some key => exact ⟨rfl, (worlds.modifyRealm realm fun realms => realms.bind key same).trace _⟩

/-- Corresponding teardowns are taken out of a realm. -/
theorem takeTeardowns (worlds : port.Worlds left right) (realm : RealmRef) (key : Key) :
    Option.Rel (fun one two => List.Forall₂ port.Callbacks one.1 two.1 ∧ port.Worlds one.2 two.2)
      (left.takeTeardowns realm key) (right.takeTeardowns realm key) := by
  have realms := worlds.realm realm
  unfold World.takeTeardowns
  rw [realms.label]
  match (left.realm realm).teardowns.find? key, (right.realm realm).teardowns.find? key,
    realms.find? key with
  | _, _, .none => exact .none
  | _, _, .some same =>
    dsimp only
    rw [same.length_eq]
    exact .some ⟨same, (worlds.modifyRealm realm fun realms => realms.unbind key).trace _⟩

/-- An element is put into a container in both runs. -/
theorem insertElement (worlds : port.Worlds left right) (container : ContainerRef)
    (position : Nat) (item : Value) :
    port.Worlds (left.insertElement container position item)
      (right.insertElement container position item) := by
  unfold World.insertElement
  rw [worlds.keys]
  exact (worlds.modifyContents container (Contents.isList_insert position item)).traceAll _

/-- An element is taken out of a container in both runs. -/
theorem removeElement (worlds : port.Worlds left right) (container : ContainerRef)
    (position : Nat) :
    port.Worlds (left.removeElement container position)
      (right.removeElement container position) := by
  unfold World.removeElement
  rw [worlds.keys]
  exact (worlds.modifyContents container (Contents.isList_remove position)).traceAll _

/-- The keys of a container are replaced in both runs. -/
theorem replaceKeys (worlds : port.Worlds left right) (container : ContainerRef) (count : Nat) :
    port.Worlds (left.replaceKeys container count) (right.replaceKeys container count) := by
  unfold World.replaceKeys
  rw [worlds.keys]
  exact (worlds.modifyContents container (Contents.isList_replaceKeys count)).traceAll _

/-- Both runs note their answers to an action. -/
theorem finish (worlds : port.Worlds left right) {form : Form} {direct shielded : Reply}
    (verb : String) (answers : form.Answers direct shielded) :
    port.Worlds
      (if direct = .value .null then left else left.emit (.answered verb direct))
      (if shielded = .value .null then right else right.emit (.answered verb shielded)) := by
  have noted (world : World) (reply : Reply) :
      (if reply = .value .null then world else world.emit (.answered verb reply)) =
        { world with journal :=
          { world.journal with latest := reply.noted verb ++ world.journal.latest } } := by
    unfold Reply.noted
    split <;> rfl
  rw [noted, noted]
  exact worlds.withJournal
    ⟨worlds.journal.tracing, worlds.journal.told.answer verb answers⟩

end Port.Worlds

end Observables
