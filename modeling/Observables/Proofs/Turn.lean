import Observables.Proofs.Moment

/-!
# The turns of a machine

A step takes at most one frame off the stack, changes the world a little and
puts frames on the stack; what lies beneath is not touched. Each way in which
this can happen is a turn, with the deed that it does. The main statement says
where the frames come from that a turn puts on the stack. What is asked of the
frames of a kind is shown from it, without going through all turns again.
-/

namespace Observables

open Script

/-- Nothing has changed from one world to another except the journal, counts of
arrivals, handles, and names that were forgotten or given once more. -/
structure World.Alike (world other : World) : Prop where
  /-- The realms are the same. -/
  realms : other.realms = world.realms
  /-- The chain of entered realms is the same. -/
  entered : other.entered = world.entered
  /-- The containers are the same. -/
  containers : other.containers = world.containers
  /-- The subscriptions are the same. -/
  subscriptions : other.subscriptions = world.subscriptions
  /-- The names of realms are the same. -/
  realmNames : other.realmNames = world.realmNames
  /-- Every container that has a name had one before. -/
  names : ∀ name container, other.names.find? name = some container →
    ∃ known, world.names.find? known = some container

namespace World

/-- Every world is like itself. -/
theorem Alike.refl (world : World) : world.Alike world :=
  ⟨rfl, rfl, rfl, rfl, rfl, fun name _ found => ⟨name, found⟩⟩

/-- Worlds that share what matters are alike whatever became of the rest. -/
theorem Alike.of_eq {world other : World} (realms : other.realms = world.realms)
    (entered : other.entered = world.entered) (containers : other.containers = world.containers)
    (subscriptions : other.subscriptions = world.subscriptions)
    (realmNames : other.realmNames = world.realmNames) (names : other.names = world.names) :
    world.Alike other :=
  ⟨realms, entered, containers, subscriptions, realmNames,
    fun name _ found => ⟨name, by rw [← names]; exact found⟩⟩

/-- Alike worlds have the same realms. -/
theorem Alike.realm {world other : World} (alike : world.Alike other) (realm : RealmRef) :
    other.realm realm = world.realm realm := by
  simp only [World.realm, alike.realms]

/-- Alike worlds have the same containers. -/
theorem Alike.container {world other : World} (alike : world.Alike other)
    (container : ContainerRef) : other.container container = world.container container := by
  simp only [World.container, alike.containers]

/-- A realm that an action can mean. -/
inductive Knows (world : World) : RealmRef → Prop where
  /-- The current realm. -/
  | current : Knows world world.current
  /-- A realm that has a name. -/
  | named {name realm} (found : world.realmNames.find? name = some realm) : Knows world realm
  /-- The realm of a container that has a name. -/
  | holder {name container} (found : world.names.find? name = some container) :
      Knows world (world.realmOf container)

end World

namespace Frame

/-- A frame that only says how a script goes on. -/
def isPlain : Frame → Bool
  | .body _ | .finish _ | .answer _ | .restore _ | .attempt | .shield | .boundary
  | .operating _ | .store _ | .search .. | .verdict .. => true
  | _ => false

/-- A frame that can be dropped without anything becoming due. -/
def isSpent : Frame → Bool
  | .yield _ | .replace _ | .dispatch _ _ [] | .teardown _ _ [] | .discharge _ [] => true
  | frame => frame.isPlain

end Frame

/-- All frames only say how a script goes on. -/
def Plain (frames : List Frame) : Prop := ∀ frame ∈ frames, frame.isPlain = true

/-- All frames can be dropped. -/
def Spent (frames : List Frame) : Prop := ∀ frame ∈ frames, frame.isSpent = true

theorem Plain.nil : Plain [] := by simp [Plain]

theorem Plain.cons {frame : Frame} {frames : List Frame} (first : frame.isPlain = true)
    (rest : Plain frames) : Plain (frame :: frames) := by
  simpa [Plain, first] using rest

theorem Plain.append {first second : List Frame} (left : Plain first) (right : Plain second) :
    Plain (first ++ second) := by
  intro frame inside
  rcases List.mem_append.mp inside with inside | inside
  · exact left frame inside
  · exact right frame inside

theorem Plain.spent {frames : List Frame} (plain : Plain frames) : Spent frames := by
  intro frame inside
  have isPlain := plain frame inside
  cases frame <;> simp_all [Frame.isSpent, Frame.isPlain]

/-- What no frame that can be dropped has, several of them do not have. -/
theorem Spent.flatMap_eq_nil {α : Type} {frames : List Frame} (spent : Spent frames)
    {has : Frame → List α} (none : ∀ frame : Frame, frame.isSpent = true → has frame = []) :
    frames.flatMap has = [] :=
  List.flatMap_eq_nil_iff.mpr fun frame inside => none frame (spent frame inside)

/-- The frames of a body that runs with variables of its own. -/
def called (body : List Action) (surface : Surface) (locals : Variables) : List Frame :=
  [.body body, Machine.guard surface, .restore locals]

/-- The frames of a setter, predicate or borrowing body. -/
def invoked (body : List Action) (result : Expression) (surface : Surface)
    (locals : Variables) : List Frame :=
  .body body :: .answer result :: Machine.edge surface ++ [.restore locals]

theorem plain_called (body : List Action) (surface : Surface) (locals : Variables) :
    Plain (called body surface locals) := by
  cases surface <;> simp [Plain, called, Machine.guard, Frame.isPlain]

theorem plain_invoked (body : List Action) (result : Expression) (surface : Surface)
    (locals : Variables) : Plain (invoked body result surface locals) := by
  cases surface <;> simp [Plain, invoked, Machine.edge, Frame.isPlain]

theorem plain_scoped (body : List Action) : Plain [.body body, .boundary] :=
  .cons rfl (.cons rfl .nil)

/-- One turn: the frames `taken` off the stack above `rest` are replaced by
others, and the world changes as the deed says. -/
inductive Turn (world : World) (rest : List Frame) :
    List Frame → Deed → World → List Frame → Prop where
  /-- A script goes on without touching what matters. -/
  | quiet {taken put other} (spent : Plain taken) (plain : Plain put)
      (alike : world.Alike other) : Turn world rest taken .quiet other put
  /-- A frame that has nothing left to do is dropped. -/
  | dropped {taken other} (spent : Spent taken) (alike : world.Alike other) :
      Turn world rest taken .quiet other []
  /-- An added element is still in its list after its announcement. -/
  | settled {container key position other}
      (found : (world.container container).keys.positionOf? key = some position)
      (alike : world.Alike other) : Turn world rest [.settle container key] .quiet other []
  /-- The key of an added element that has left again has no teardowns. -/
  | settledEmpty {container key other}
      (gone : (world.container container).keys.positionOf? key = none)
      (empty : (world.realm (world.realmOf container)).teardowns.find? key = none)
      (alike : world.Alike other) : Turn world rest [.settle container key] .quiet other []
  /-- A key that left has no teardowns. -/
  | dischargedEmpty {realm key keys other}
      (empty : (world.realm realm).teardowns.find? key = none) (alike : world.Alike other) :
      Turn world rest [.discharge realm (key :: keys)] .quiet other [.discharge realm keys]
  /-- A subscription that is switched off is passed over. -/
  | passed {container notice subscription waiting other}
      (off : world.callback? subscription = none) (alike : world.Alike other) :
      Turn world rest [.dispatch container notice (subscription :: waiting)] .quiet other
        [.dispatch container notice waiting]
  /-- A notice starts to go out. -/
  | notified {container notice other} (alike : world.Alike other) :
      Turn world rest [.notify container notice]
        (.notified container notice
          ((world.container container).registry notice.channel).snapshot) other
        [.dispatch container notice
          ((world.container container).registry notice.channel).snapshot]
  /-- A subscriber is called. -/
  | told {container notice subscription waiting callback locals other}
      (on : world.callback? subscription = some callback) (alike : world.Alike other) :
      Turn world rest [.dispatch container notice (subscription :: waiting)]
        (.told container notice subscription) other
        (called callback.body callback.surface locals ++ [.dispatch container notice waiting])
  /-- A key is opened to announce its element. -/
  | announced {container key item position other}
      (alike : (world.enter (world.realmOf container) key).Alike other) :
      Turn world rest [.announce container key item position]
        (.opened .due (world.realmOf container) key) other
        [.notify container (.added item position), .scope (world.realmOf container) key]
  /-- An action opens a key. -/
  | opened {taken tail realm key body other} (spent : Plain taken) (plain : Plain tail)
      (known : world.Knows realm) (alike : (world.enter realm key).Alike other) :
      Turn world rest taken (.opened .asked realm key) other
        ([.body body, .boundary, .scope realm key] ++ tail)
  /-- A key is closed. -/
  | closed {realm key other} (alike : (world.leave realm).Alike other) :
      Turn world rest [.scope realm key] (.closed realm) other []
  /-- An action takes the teardowns of a key. -/
  | ranAsked {taken tail realm key batch other} (spent : Plain taken) (plain : Plain tail)
      (found : (world.realm realm).teardowns.find? key = some batch)
      (alike : (world.modifyRealm realm (Realm.unbind · key)).Alike other) :
      Turn world rest taken (.running .asked realm key batch) other
        ([.teardown realm key batch, .yield (.nat batch.length)] ++ tail)
  /-- The teardowns of an added element that has left again are taken. -/
  | ranSettled {container key batch other}
      (gone : (world.container container).keys.positionOf? key = none)
      (found : (world.realm (world.realmOf container)).teardowns.find? key = some batch)
      (alike : (world.modifyRealm (world.realmOf container) (Realm.unbind · key)).Alike other) :
      Turn world rest [.settle container key]
        (.running .due (world.realmOf container) key batch) other
        [.teardown (world.realmOf container) key batch, .yield (.nat batch.length)]
  /-- The teardowns of a key that left its list are taken. -/
  | ranDischarged {realm key keys batch other}
      (found : (world.realm realm).teardowns.find? key = some batch)
      (alike : (world.modifyRealm realm (Realm.unbind · key)).Alike other) :
      Turn world rest [.discharge realm (key :: keys)] (.running .due realm key batch) other
        [.teardown realm key batch, .yield (.nat batch.length), .discharge realm keys]
  /-- A teardown is called. -/
  | tornDown {realm key teardown waiting locals other} (alike : world.Alike other) :
      Turn world rest [.teardown realm key (teardown :: waiting)]
        (.tornDown realm key teardown) other
        (called teardown.body teardown.surface locals ++ [.teardown realm key waiting])
  /-- A teardown is bound to the innermost open key. -/
  | bound {taken put realm key teardown other} (spent : Plain taken) (plain : Plain put)
      (known : world.Knows realm) (active : (world.realm realm).activeKey? = some key)
      (alike : (world.modifyRealm realm (Realm.bind · key teardown)).Alike other) :
      Turn world rest taken (.registered realm (some key) teardown) other put
  /-- A teardown is refused. -/
  | refused {taken put realm teardown other} (spent : Plain taken) (plain : Plain put)
      (inactive : (world.realm realm).activeKey? = none) (alike : world.Alike other) :
      Turn world rest taken (.registered realm none teardown) other put
  /-- A body or the setter of a cell runs while the contents are borrowed. -/
  | borrowed {taken tail name container body result locals target other} (spent : Plain taken)
      (plain : Plain tail) (found : world.names.find? name = some container)
      (inner : Plain target) (direct : (world.container container).surface = .direct)
      (alike : (world.borrow container).Alike other) :
      Turn world rest taken (.borrowed container) other
        (invoked body result .direct locals ++ .borrowed container :: target ++ tail)
  /-- The setter of a direct list runs while the contents are borrowed. -/
  | setBegun {taken tail name container body result locals inside other} (spent : Plain taken)
      (plain : Plain tail) (found : world.names.find? name = some container)
      (direct : (world.container container).surface = .direct)
      (isList : (world.container container).contents.isList = true)
      (reading : inside = true ↔ Frame.borrowed container ∈ rest)
      (alike : (world.borrow container).Alike other) :
      Turn world rest taken (.setBegun container inside) other
        (invoked body result .direct locals ++
          [.borrowed container, .replace container] ++ tail)
  /-- The setter of a shielded list runs. -/
  | setShielded {taken tail container body result locals other} (spent : Plain taken)
      (plain : Plain tail) (shielded : (world.container container).surface = .shielded)
      (isList : (world.container container).contents.isList = true)
      (alike : world.Alike other) :
      Turn world rest taken .quiet other
        (invoked body result .shielded locals ++ .replace container :: tail)
  /-- A reader lets go. -/
  | released {container other} (alike : (world.release container).Alike other) :
      Turn world rest [.borrowed container] (.released container) other []
  /-- An element is put into a list. -/
  | inserted {taken tail container position item other} (spent : Plain taken)
      (plain : Plain tail) (isList : (world.container container).contents.isList = true)
      (free : world.isBorrowed container = false)
      (within : position ≤ (world.container container).items.length)
      (alike : (world.modifyContents container (.insert position item)).Alike other) :
      Turn world rest taken
        (.inserted container position (world.container container).keys.freshKey item) other
        ([.notify container .changed,
          .announce container (world.container container).keys.freshKey item position,
          .settle container (world.container container).keys.freshKey, .yield .null] ++ tail)
  /-- An element is taken out of a list. -/
  | removed {taken tail container position item value other} (spent : Plain taken)
      (plain : Plain tail) (free : world.isBorrowed container = false)
      (there : (world.container container).items[position]? = some item)
      (alike : (world.modifyContents container (.remove position)).Alike other) :
      Turn world rest taken
        (.removed container position
          ((world.container container).keys.keyAt? position).toList item) other
        ([.discharge (world.realmOf container)
            ((world.container container).keys.keyAt? position).toList,
          .notify container .changed, .notify container (.removed position), .yield value] ++
          tail)
  /-- A value is stored in a cell. -/
  | stored {container value other} (free : world.isBorrowed container = false)
      (alike : (world.store container value).Alike other) :
      Turn world rest [.store container] (.stored container value) other
        [.notify container .changed]
  /-- The elements of a list are replaced. -/
  | replaced {container items other} (free : world.isBorrowed container = false)
      (alike : ((world.modifyContents container (.replaceKeys items.length)).modifyContents
        container (.replaceItems items)).Alike other) :
      Turn world rest [.replace container]
        (.replaced container (world.container container).keys.inUse
          ((world.container container).keys.releaseAll.fill items.length).inUse items) other
        [.discharge (world.realmOf container) (world.container container).keys.inUse,
          .notify container .changed]
  /-- The keys of a list are replaced and a reader keeps the elements. -/
  | rekeyed {container count other} (held : world.isBorrowed container = true)
      (alike : (world.modifyContents container (.replaceKeys count)).Alike other) :
      Turn world rest [.replace container]
        (.rekeyed container (world.container container).keys.inUse
          ((world.container container).keys.releaseAll.fill count).inUse) other []
  /-- A list is made. -/
  | listMade {taken put name realm surface items other} (spent : Plain taken)
      (plain : Plain put) (known : world.Knows realm)
      (alike : ((world.takeListId realm).makeContainer name
        ⟨realm, surface, .list items
          (.ofLength (world.nextListId realm) items.length), 0, {}, {}, {}⟩).Alike other) :
      Turn world rest taken
        (.listMade world.containers.size
          (KeySequence.ofLength (world.nextListId realm) items.length).inUse items) other put
  /-- A cell is made. -/
  | cellMade {taken put name realm surface value other} (spent : Plain taken)
      (plain : Plain put) (known : world.Knows realm)
      (alike : (world.makeCell name realm surface value).Alike other) :
      Turn world rest taken .quiet other put
  /-- A realm is made. -/
  | realmOpened {taken put name label firstId other} (spent : Plain taken) (plain : Plain put)
      (alike : (world.openRealm name label firstId).Alike other) :
      Turn world rest taken .quiet other put
  /-- A number is drawn from one of the supplies of a realm. -/
  | drawn {taken put realm change other} (spent : Plain taken) (plain : Plain put)
      (known : world.Knows realm)
      (either : (change = fun realm : Realm =>
          { realm with subscriptionIds := realm.subscriptionIds.advance }) ∨
        change = fun realm : Realm => { realm with containerIds := realm.containerIds.advance })
      (alike : (world.modifyRealm realm change).Alike other) :
      Turn world rest taken .quiet other put
  /-- A subscription is made. -/
  | subscribed {taken put name container channel callback other} (spent : Plain taken)
      (plain : Plain put) (found : world.names.find? name = some container)
      (alike : (world.subscribe container channel callback).Alike other) :
      Turn world rest taken
        (.subscribed container channel (world.nextSubscriptionId (world.realmOf container))
          world.subscriptions.size) other put
  /-- A subscription is ended. -/
  | unsubscribed {taken put handle other} (spent : Plain taken) (plain : Plain put)
      (success : (world.unsubscribe handle).1 = true)
      (alike : (world.unsubscribe handle).2.Alike other) :
      Turn world rest taken (.unsubscribed handle) other put
  /-- A failure passes through a frame, or ends there. -/
  | abandoned {frame other} (noScope : ∀ realm key, frame ≠ .scope realm key)
      (noReader : ∀ container, frame ≠ .borrowed container) (alike : world.Alike other) :
      Turn world rest [frame] (.abandoned frame) other []

/-- How a frame comes to be put on the stack by a turn that does a deed: it only says how a
script goes on, or it goes on with what a frame that was taken had left to do, or it is due by
the deed. -/
inductive Frame.Arises (world : World) (taken : List Frame) : Deed → Frame → Prop where
  /-- It only says how a script goes on. -/
  | plain {deed frame} (plain : frame.isPlain = true) : Arises world taken deed frame
  /-- It answers a known value. -/
  | yield {deed value} : Arises world taken deed (.yield value)
  /-- It replaces the elements of a list by what the setter answers. -/
  | replace {deed container} (isList : (world.container container).contents.isList = true) :
      Arises world taken deed (.replace container)
  /-- It belongs to a key that is opened. -/
  | scope {origin realm key} : Arises world taken (.opened origin realm key) (.scope realm key)
  /-- It belongs to a body that reads the contents. -/
  | borrowed {name container} (found : world.names.find? name = some container)
      (direct : (world.container container).surface = .direct) :
      Arises world taken (.borrowed container) (.borrowed container)
  /-- It belongs to the setter of a list, which reads the contents. -/
  | setBegun {name container inside} (found : world.names.find? name = some container)
      (direct : (world.container container).surface = .direct) :
      Arises world taken (.setBegun container inside) (.borrowed container)
  /-- It tells the add subscriptions that an element has been announced. -/
  | announced {container key item position}
      (there : Frame.announce container key item position ∈ taken) :
      Arises world taken (.opened .due (world.realmOf container) key)
        (.notify container (.added item position))
  /-- It calls all subscriptions that a notice is for. -/
  | notified {container notice} (there : Frame.notify container notice ∈ taken) :
      Arises world taken
        (.notified container notice
          ((world.container container).registry notice.channel).snapshot)
        (.dispatch container notice
          ((world.container container).registry notice.channel).snapshot)
  /-- It goes on with a dispatch after a subscription that is switched off. -/
  | passed {container notice subscription waiting}
      (there : Frame.dispatch container notice (subscription :: waiting) ∈ taken) :
      Arises world taken .quiet (.dispatch container notice waiting)
  /-- It goes on with a dispatch after a subscriber that is called. -/
  | told {container notice subscription waiting}
      (there : Frame.dispatch container notice (subscription :: waiting) ∈ taken) :
      Arises world taken (.told container notice subscription)
        (.dispatch container notice waiting)
  /-- It goes on with keys that have left their list after one without teardowns. -/
  | dischargedEmpty {realm key keys} (there : Frame.discharge realm (key :: keys) ∈ taken) :
      Arises world taken .quiet (.discharge realm keys)
  /-- It goes on with keys that have left their list after one whose teardowns are taken. -/
  | discharged {realm key keys batch} (there : Frame.discharge realm (key :: keys) ∈ taken) :
      Arises world taken (.running .due realm key batch) (.discharge realm keys)
  /-- It calls the teardowns of a key that an action runs. -/
  | ranAsked {realm key batch} :
      Arises world taken (.running .asked realm key batch) (.teardown realm key batch)
  /-- It calls the teardowns of an added element that has left again. -/
  | ranSettled {container key batch} (there : Frame.settle container key ∈ taken)
      (gone : (world.container container).keys.positionOf? key = none) :
      Arises world taken (.running .due (world.realmOf container) key batch)
        (.teardown (world.realmOf container) key batch)
  /-- It calls the teardowns of a key that left its list. -/
  | ranDischarged {realm key keys batch}
      (there : Frame.discharge realm (key :: keys) ∈ taken) :
      Arises world taken (.running .due realm key batch) (.teardown realm key batch)
  /-- It goes on with the teardowns of a key. -/
  | tornDown {realm key teardown waiting}
      (there : Frame.teardown realm key (teardown :: waiting) ∈ taken) :
      Arises world taken (.tornDown realm key teardown) (.teardown realm key waiting)
  /-- It tells the change subscriptions that an element has been put in. -/
  | insertedNotify {container position item key}
      (free : world.isBorrowed container = false) :
      Arises world taken (.inserted container position key item) (.notify container .changed)
  /-- It announces an element that has been put in. -/
  | insertedAnnounce {container position item}
      (isList : (world.container container).contents.isList = true)
      (free : world.isBorrowed container = false) :
      Arises world taken
        (.inserted container position (world.container container).keys.freshKey item)
        (.announce container (world.container container).keys.freshKey item position)
  /-- It settles an element that has been put in. -/
  | insertedSettle {container position item}
      (isList : (world.container container).contents.isList = true) :
      Arises world taken
        (.inserted container position (world.container container).keys.freshKey item)
        (.settle container (world.container container).keys.freshKey)
  /-- It runs the teardowns of an element that has been taken out. -/
  | removedDischarge {container position item}
      (there : (world.container container).items[position]? = some item) :
      Arises world taken
        (.removed container position
          ((world.container container).keys.keyAt? position).toList item)
        (.discharge (world.realmOf container)
          ((world.container container).keys.keyAt? position).toList)
  /-- It tells subscriptions that an element has been taken out. -/
  | removedNotify {container position released item notice}
      (free : world.isBorrowed container = false) :
      Arises world taken (.removed container position released item) (.notify container notice)
  /-- It tells the change subscriptions that a value has been stored. -/
  | storedNotify {container value} (free : world.isBorrowed container = false) :
      Arises world taken (.stored container value) (.notify container .changed)
  /-- It runs the teardowns of elements that have been replaced. -/
  | replacedDischarge {container allotted items} (there : Frame.replace container ∈ taken) :
      Arises world taken
        (.replaced container (world.container container).keys.inUse allotted items)
        (.discharge (world.realmOf container) (world.container container).keys.inUse)
  /-- It tells the change subscriptions that elements have been replaced. -/
  | replacedNotify {container released allotted items}
      (free : world.isBorrowed container = false) :
      Arises world taken (.replaced container released allotted items)
        (.notify container .changed)

/-- Every frame that a turn puts on the stack arises in one of these ways. -/
theorem Turn.arises {world other : World} {rest taken put : List Frame} {deed : Deed}
    (turn : Turn world rest taken deed other put) :
    ∀ frame ∈ put, frame.Arises world taken deed := by
  have here {taken : Frame} : taken ∈ [taken] := List.mem_singleton_self _
  have none : ∀ frame ∈ [], Frame.Arises world taken deed frame := List.forall_mem_nil _
  have first {frame : Frame} {frames : List Frame} (arises : frame.Arises world taken deed)
      (others : ∀ other ∈ frames, other.Arises world taken deed) :
      ∀ other ∈ frame :: frames, other.Arises world taken deed :=
    List.forall_mem_cons.mpr ⟨arises, others⟩
  have above {frames tail : List Frame} (upper : ∀ frame ∈ frames, frame.Arises world taken deed)
      (lower : ∀ frame ∈ tail, frame.Arises world taken deed) :
      ∀ frame ∈ frames ++ tail, frame.Arises world taken deed :=
    List.forall_mem_append.mpr ⟨upper, lower⟩
  have plainly {frames : List Frame} (plain : Plain frames) :
      ∀ frame ∈ frames, frame.Arises world taken deed :=
    fun frame there => .plain (plain frame there)
  have callee (body : List Action) (surface : Surface) (locals : Variables) :=
    plainly (plain_called body surface locals)
  have setter (body : List Action) (result : Expression) (surface : Surface)
      (locals : Variables) := plainly (plain_invoked body result surface locals)
  cases turn with
  | dropped | settled | settledEmpty | closed | released | rekeyed | abandoned => exact none
  | quiet _ plain | bound _ plain | refused _ plain | listMade _ plain | cellMade _ plain
  | realmOpened _ plain | drawn _ plain | subscribed _ plain | unsubscribed _ plain =>
    exact plainly plain
  | passed => exact first (.passed here) none
  | notified => exact first (.notified here) none
  | dischargedEmpty => exact first (.dischargedEmpty here) none
  | stored free => exact first (.storedNotify free) none
  | told => exact above (callee _ _ _) (first (.told here) none)
  | tornDown => exact above (callee _ _ _) (first (.tornDown here) none)
  | announced => exact first (.announced here) (first .scope none)
  | ranSettled gone => exact first (.ranSettled here gone) (first .yield none)
  | ranDischarged =>
    exact first (.ranDischarged here) (first .yield (first (.discharged here) none))
  | replaced free =>
    exact first (.replacedDischarge here) (first (.replacedNotify free) none)
  | opened _ plain =>
    exact above (first (.plain rfl) (first (.plain rfl) (first .scope none))) (plainly plain)
  | ranAsked _ plain => exact above (first .ranAsked (first .yield none)) (plainly plain)
  | borrowed _ plain found inner direct =>
    exact above (above (setter _ _ _ _) (first (.borrowed found direct) (plainly inner)))
      (plainly plain)
  | setBegun _ plain found direct isList =>
    refine above (above (setter _ _ _ _) ?_) (plainly plain)
    exact first (.setBegun found direct) (first (.replace isList) none)
  | setShielded _ plain _ isList =>
    exact above (setter _ _ _ _) (first (.replace isList) (plainly plain))
  | inserted _ plain isList free =>
    refine above ?_ (plainly plain)
    exact first (.insertedNotify free) (first (.insertedAnnounce isList free)
      (first (.insertedSettle isList) (first .yield none)))
  | removed _ plain free there =>
    refine above ?_ (plainly plain)
    exact first (.removedDischarge there) (first (.removedNotify free)
      (first (.removedNotify free) (first .yield none)))

/-- A machine does a deed by one turn above `rest`. -/
def Machine.Turns (before : World) (rest taken : List Frame) (deed : Deed) (after : Machine) :
    Prop :=
  ∃ put, after.stack = put ++ rest ∧ Turn before rest taken deed after.world put

end Observables
