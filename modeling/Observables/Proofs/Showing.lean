import Observables.Proofs.Roll
import Observables.Proofs.Numbering
import Mathlib.Data.List.InsertIdx

/-!
# Worlds that show a roll

In the middle of an operation a list has its new elements and keys already,
while teardowns may still wait for a key that has left, or have been bound to
one whose announcement goes on. So a world shows a roll together with the
teardowns that wait for each key and with the open key, if there is one. What
each change of the world does to all this is stated here.
-/

namespace Observables

open Script

/-- What a name of a realm means for the lists of a realm: their realm or the current one,
which are one and the same while a key is open, or another realm, or nothing. -/
def World.place (world : World) (realm : RealmRef) (name : String) : Option Bool :=
  if name = "@current" then some true
  else ((⟨world, {}, [], .resume (.value .null)⟩ : Machine).realmNamed? name).map (· == realm)

/-- The keys of a roll as the sequence of a list. -/
def Roll.sequence (roll : Roll) : KeySequence := ⟨roll.id, roll.nextSeq, roll.keys⟩

/-- A list of the world stands as a roll says, with the teardowns that wait for its keys
and with its open key. Nothing else is open. -/
structure Shows (world : World) (container : ContainerRef) (realm : RealmRef) (roll : Roll)
    (waiting : Key → List Listener) (active : Option Key) : Prop where
  /-- The list has its name. -/
  named : world.names.find? roll.name = some container
  /-- It has no other name. -/
  apart : ∀ name, world.names.find? name = some container → name = roll.name
  /-- Other names hold what they should. -/
  others : ∀ name, name ≠ roll.name → world.held name = roll.others name
  /-- The names of realms mean what they should. -/
  places : world.place realm = roll.places
  /-- The list has the elements and the keys of the roll. -/
  contents : (world.container container).contents = .list roll.items roll.sequence
  /-- The keys are in order. -/
  proper : roll.sequence.Proper
  /-- The list belongs to the realm. -/
  belongs : world.realmOf container = realm
  /-- Its failures pass through. -/
  direct : (world.container container).surface = .direct
  /-- Nobody reads it. -/
  free : (world.container container).borrows = 0
  /-- Its subscriptions are those of the roll's listeners, in the same order. -/
  listening : ∀ channel,
    ((world.container container).registry channel).snapshot.map world.callback? =
      (roll.listeners channel).map fun listener => some listener.callback
  /-- Numbers of subscriptions are below the next one. -/
  ascending : ∀ channel, ∀ entry ∈ ((world.container container).registry channel).entries,
    entry.id < roll.nextSubscription
  /-- The realm exists. -/
  known : realm < world.realms.size
  /-- The next subscription gets the number that the roll says. -/
  numbered : world.nextSubscriptionId realm = roll.nextSubscription
  /-- These teardowns wait for the keys of the list. -/
  waits : ∀ key, key.container = roll.id →
    (world.realm realm).teardowns.pending key = (waiting key).map Listener.callback
  /-- The realm of the open key has been entered. -/
  entered : world.entered = active.toList.map fun _ => realm
  /-- The open key is open in the realm. -/
  opened : (world.realm realm).active = active.toList
  /-- No key is open in other realms. -/
  closed : ∀ other, other ≠ realm → (world.realm other).active = []

/-- Teardowns that wait after more of them have been bound to the open key. -/
def joined (active : Option Key) (listeners : List Listener) (waiting : Key → List Listener)
    (key : Key) : List Listener :=
  waiting key ++ if active = some key then listeners else []

/-- Nothing joins those that wait if nothing is bound. -/
theorem joined_nil (active : Option Key) (waiting : Key → List Listener) :
    joined active [] waiting = waiting := by
  funext key
  simp [joined]

/-- Nothing joins those that wait if no key is open. -/
theorem joined_none (listeners : List Listener) (waiting : Key → List Listener) :
    joined none listeners waiting = waiting := by
  funext key
  simp [joined]

/-- What joins later comes after what joins first. -/
theorem joined_joined (active : Option Key) (first second : List Listener)
    (waiting : Key → List Listener) :
    joined active second (joined active first waiting) =
      joined active (first ++ second) waiting := by
  funext key
  unfold joined
  split
  · rw [List.append_assoc]
  · simp

/-- The event is not part of the trace. -/
def Event.isOutward : Event → Bool
  | .trace _ => false
  | _ => true

/-- The events without the trace, where there can be one. -/
def Event.untraced (tracing : Bool) (events : List Event) : List Event :=
  if tracing then events.filter Event.isOutward else events

/-- One journal follows another after some events, the trace apart. -/
structure Journal.Notes (journal : Journal) (events : List Event) (other : Journal) : Prop where
  /-- The trace is wanted or not, as before. -/
  tracing : other.tracing = journal.tracing
  /-- The events have been noted. -/
  events : Event.untraced journal.tracing other.events =
    Event.untraced journal.tracing journal.events ++ events

namespace Journal

/-- Where no event is noted, nothing is. -/
theorem Notes.refl (journal : Journal) : journal.Notes [] journal :=
  ⟨rfl, (List.append_nil _).symm⟩

/-- What is noted later comes after what is noted first. -/
theorem Notes.trans {first middle last : Journal} {before after : List Event}
    (one : first.Notes before middle) (two : middle.Notes after last) :
    first.Notes (before ++ after) last := by
  refine ⟨two.tracing.trans one.tracing, ?_⟩
  have later := two.events
  rw [one.tracing] at later
  rw [later, one.events, List.append_assoc]

/-- An event is noted last. -/
theorem notes_note (journal : Journal) {event : Event} (outward : event.isOutward = true) :
    journal.Notes [event] (journal.note event) := by
  refine ⟨rfl, ?_⟩
  have last : (journal.note event).events = journal.events ++ [event] := List.reverse_cons
  rw [last]
  unfold Event.untraced
  split
  · rw [List.filter_append, List.filter_cons_of_pos outward]
    rfl
  · rfl

/-- What is traced is not noted. -/
theorem notes_trace (journal : Journal) (event : TraceEvent) :
    journal.Notes [] (journal.trace event) := by
  unfold trace
  split
  · next wanted =>
    have last : (journal.note (.trace event)).events = journal.events ++ [.trace event] :=
      List.reverse_cons
    refine ⟨rfl, ?_⟩
    rw [last, wanted]
    exact List.filter_append journal.events [.trace event]
  · exact .refl journal

/-- Several events that are traced are not noted either. -/
theorem notes_traceAll (journal : Journal) (events : List TraceEvent) :
    journal.Notes [] (journal.traceAll events) := by
  induction events generalizing journal with
  | nil => exact .refl journal
  | cons event events ih => exact (journal.notes_trace event).trans (ih (journal.trace event))

end Journal

/-- One world follows another after some events; there are no new subscriptions. -/
structure World.Notes (world : World) (events : List Event) (other : World) : Prop where
  /-- The events have been noted. -/
  journal : world.journal.Notes events other.journal
  /-- The subscriptions are the same. -/
  subscriptions : other.subscriptions = world.subscriptions

namespace World

/-- Where no event is noted, nothing is. -/
theorem Notes.of_journal {world other : World} (journal : other.journal = world.journal)
    (subscriptions : other.subscriptions = world.subscriptions) : world.Notes [] other :=
  ⟨journal ▸ .refl _, subscriptions⟩

/-- What nothing happened to has noted nothing. -/
theorem Notes.refl (world : World) : world.Notes [] world := .of_journal rfl rfl

/-- What is noted later comes after what is noted first. -/
theorem Notes.trans {first middle last : World} {before after : List Event}
    (one : first.Notes before middle) (two : middle.Notes after last) :
    first.Notes (before ++ after) last :=
  ⟨one.journal.trans two.journal, two.subscriptions.trans one.subscriptions⟩

/-- An event is noted last. -/
theorem notes_emit (world : World) {event : Event} (outward : event.isOutward = true) :
    world.Notes [event] (world.emit event) :=
  ⟨world.journal.notes_note outward, rfl⟩

/-- What is traced is not noted. -/
theorem notes_trace (world : World) (event : TraceEvent) :
    world.Notes [] (world.trace event) :=
  ⟨world.journal.notes_trace event, rfl⟩

/-- Several events that are traced are not noted either. -/
theorem notes_traceAll (world : World) (events : List TraceEvent) :
    world.Notes [] (world.traceAll events) :=
  ⟨world.journal.notes_traceAll events, rfl⟩

/-- Names of realms mean the same while containers keep their realms and surfaces. -/
theorem place_congr (world other : World) (names : other.names = world.names)
    (realmNames : other.realmNames = world.realmNames)
    (surface : ∀ container, (other.container container).surface =
      (world.container container).surface)
    (realmOf : ∀ container, other.realmOf container = world.realmOf container)
    (realm : RealmRef) : other.place realm = world.place realm := by
  have sameRealmOf : other.realmOf = world.realmOf := funext realmOf
  funext name
  unfold place
  split
  · rfl
  · next apart =>
    simp only [Machine.realmNamed?, Machine.directContainer?, if_neg apart, names, realmNames,
      surface, sameRealmOf]

/-- Names of realms mean the same after a change of a container that keeps its realm and its
surface. -/
theorem place_modifyContainer {world : World} {container : ContainerRef}
    {change : Container → Container}
    (surface : (change (world.container container)).surface = (world.container container).surface)
    (belongs : (change (world.container container)).realm = (world.container container).realm)
    (realm : RealmRef) : (world.modifyContainer container change).place realm =
      world.place realm := by
  refine place_congr world _ ?_ ?_ (fun other => ?_) (fun other => ?_) realm
  · rfl
  · rfl
  · exact container_modify_keeps (fun held => held.surface = (world.container other).surface)
      surface.trans rfl
  · exact container_modify_keeps (fun held => held.realm = (world.container other).realm)
      belongs.trans rfl

/-- What a name holds does not change with containers of other names. -/
theorem held_modifyContainer {world : World} {container : ContainerRef}
    {change : Container → Container} {name : String}
    (apart : world.names.find? name ≠ some container) :
    (world.modifyContainer container change).held name = world.held name := by
  unfold held
  have names : (world.modifyContainer container change).names = world.names := rfl
  rw [names]
  cases found : world.names.find? name with
  | none => rfl
  | some other =>
    have different : other ≠ container := fun same => apart (same ▸ found)
    simp only
    rcases Nat.lt_or_ge container world.containers.size with inside | beyond
    · rw [container_modify inside, if_neg different]
    · rw [container_modify_of_le beyond]

/-- Names of realms mean the same after a change of who is subscribed to a container. -/
theorem place_setBoard (world : World) (container : ContainerRef) (channel : Channel)
    (board : Switchboard Callback) (realm : RealmRef) :
    (world.setBoard container channel board).place realm = world.place realm := by
  refine place_congr world _ ?_ ?_ (fun other => ?_) (fun other => ?_) realm
  · rfl
  · rfl
  · refine container_modify_keeps
      (fun held => held.surface = (world.container other).surface) (fun same => ?_) rfl
    cases channel <;> exact same
  · refine container_modify_keeps
      (fun held => held.realm = (world.container other).realm) (fun same => ?_) rfl
    cases channel <;> exact same

end World

namespace Shows

variable {world : World} {container : ContainerRef} {realm : RealmRef} {roll : Roll}
  {waiting : Key → List Listener} {active : Option Key}

/-- The list is a container of the world. -/
theorem inside (shows : Shows world container realm roll waiting active) :
    container < world.containers.size := by
  refine World.lt_size_of_isList ?_
  rw [shows.contents]
  rfl

/-- The elements of the list. -/
theorem items (shows : Shows world container realm roll waiting active) :
    (world.container container).items = roll.items := by
  rw [Container.items, shows.contents]
  rfl

/-- The keys of the list. -/
theorem keys (shows : Shows world container realm roll waiting active) :
    (world.container container).keys = roll.sequence := by
  rw [Container.keys, shows.contents]
  rfl

/-- Nobody reads the list. -/
theorem isBorrowed (shows : Shows world container realm roll waiting active) :
    world.isBorrowed container = false := by
  rw [World.isBorrowed, Container.isBorrowed, shows.free]
  rfl

/-- Names hold what the roll says. -/
theorem held (shows : Shows world container realm roll waiting active) :
    world.held = roll.held := by
  funext name
  unfold Roll.held
  split
  · next same =>
    have value : world.held roll.name = (world.container container).contents.value := by
      rw [World.held, shows.named]
      rfl
    rw [same, value, shows.contents]
    rfl
  · next apart => exact shows.others name apart

/-- The innermost open key of the current realm is the open key of the list. -/
theorem activeKey (shows : Shows world container realm roll waiting active) :
    world.activeKey? = active := by
  rw [World.activeKey?, World.current, Realm.activeKey?, shows.entered]
  cases active with
  | none =>
    have none : (world.realm 0).active = [] := by
      by_cases same : 0 = realm
      · rw [same, shows.opened]
        rfl
      · exact shows.closed 0 same
    simp [none]
  | some key => simp [shows.opened]

/-- An event changes nothing of the list. -/
theorem emit (shows : Shows world container realm roll waiting active) (event : Event) :
    Shows (world.emit event) container realm roll waiting active :=
  { shows with }

/-- Nothing of the list changes when something is traced. -/
theorem trace (shows : Shows world container realm roll waiting active) (event : TraceEvent) :
    Shows (world.trace event) container realm roll waiting active :=
  { shows with }

/-- Nothing of the list changes when several events are traced. -/
theorem traceAll (shows : Shows world container realm roll waiting active)
    (events : List TraceEvent) :
    Shows (world.traceAll events) container realm roll waiting active :=
  { shows with }

/-- After a change of the realm of the list other teardowns wait, another key is open and
numbers may have been drawn. -/
theorem modifyRealm (shows : Shows world container realm roll waiting active)
    {change : Realm → Realm} {number : Nat} {entered : List RealmRef}
    {later : Key → List Listener} {opened : Option Key}
    (numbers : (change (world.realm realm)).subscriptionIds.peek = number)
    (above : roll.nextSubscription ≤ number)
    (waits : ∀ key, key.container = roll.id →
      (change (world.realm realm)).teardowns.pending key = (later key).map Listener.callback)
    (keys : (change (world.realm realm)).active = opened.toList)
    (chain : entered = opened.toList.map fun _ => realm) :
    Shows { world.modifyRealm realm change with entered := entered } container realm
      { roll with nextSubscription := number } later opened := by
  have here : ({ world.modifyRealm realm change with entered := entered } : World).realm realm =
      change (world.realm realm) :=
    (World.realm_modify shows.known realm change).trans (if_pos rfl)
  have elsewhere (other : RealmRef) (apart : other ≠ realm) :
      ({ world.modifyRealm realm change with entered := entered } : World).realm other =
        world.realm other :=
    (World.realm_modify shows.known other change).trans (if_neg apart)
  refine { shows with
    others := shows.others, ascending := ?_, places := ?_, known := ?_, numbered := ?_,
    waits := ?_, entered := chain, opened := ?_, closed := ?_ }
  · rw [← shows.places]
    apply World.place_congr
    · rfl
    · rfl
    · exact fun _ => rfl
    · exact fun _ => rfl
  · exact fun channel entry inside =>
      Nat.lt_of_lt_of_le (shows.ascending channel entry inside) above
  · exact (World.size_modifyRealm world realm change).symm ▸ shows.known
  · rw [World.nextSubscriptionId, here, numbers]
  · intro key own
    rw [here, waits key own]
  · rw [here, keys]
  · intro other apart
    rw [elsewhere other apart]
    exact shows.closed other apart

/-- After a change of the realm that draws no numbers the roll is the same. -/
theorem modifyRealm_of_eq (shows : Shows world container realm roll waiting active)
    {change : Realm → Realm} {entered : List RealmRef} {later : Key → List Listener}
    {opened : Option Key}
    (numbers : (change (world.realm realm)).subscriptionIds = (world.realm realm).subscriptionIds)
    (waits : ∀ key, key.container = roll.id →
      (change (world.realm realm)).teardowns.pending key = (later key).map Listener.callback)
    (keys : (change (world.realm realm)).active = opened.toList)
    (chain : entered = opened.toList.map fun _ => realm) :
    Shows { world.modifyRealm realm change with entered := entered } container realm roll later
      opened :=
  shows.modifyRealm ((congrArg IdSupply.peek numbers).trans shows.numbered) (Nat.le_refl _) waits
    keys chain

/-- A number is drawn for the next subscription. -/
theorem takeSubscriptionId (shows : Shows world container realm roll waiting active) :
    Shows (world.takeSubscriptionId realm) container realm
      { roll with nextSubscription := roll.nextSubscription + 1 } waiting active :=
  shows.modifyRealm (congrArg (· + 1) shows.numbered) (Nat.le_succ _) shows.waits shows.opened
    shows.entered

/-- The key that is open in the realm in which a teardown is registered. -/
theorem binding (shows : Shows world container realm roll waiting active) (locals : Variables)
    (rest : List Frame) (focus : Focus) (place : Option Expression) :
    roll.outlook.binding locals active place =
      ((⟨world, locals, rest, focus⟩ : Machine).realm? place).map fun named =>
        (world.realm named).activeKey? := by
  cases place with
  | none => exact congrArg some shows.activeKey.symm
  | some name =>
    have named : (⟨world, locals, rest, focus⟩ : Machine).evaluateName name =
        (name.evaluate roll.outlook.held locals).joined := by
      rw [Machine.evaluateName, Machine.evaluate, shows.held, Roll.outlook]
    have places : roll.outlook.places = world.place realm := shows.places.symm
    rw [Outlook.binding, Machine.realm?, named, places, World.place]
    split
    · next current =>
      rw [current]
      exact congrArg some shows.activeKey.symm
    · next apart =>
      have same : (⟨world, {}, [], .resume (.value .null)⟩ : Machine).realmNamed?
          (name.evaluate roll.outlook.held locals).joined =
        (⟨world, locals, rest, focus⟩ : Machine).realmNamed?
          (name.evaluate roll.outlook.held locals).joined := rfl
      rw [same, Option.map_map]
      congr 1
      funext other
      by_cases own : other = realm
      · subst own
        simp [Realm.activeKey?, shows.opened]
      · simp [Realm.activeKey?, shows.closed other own, own]

/-- Only in the realm of the list a key is open. -/
theorem eq_of_activeKey (shows : Shows world container realm roll waiting active)
    {named : RealmRef} {key : Key} (opens : (world.realm named).activeKey? = some key) :
    named = realm ∧ active = some key := by
  have own : named = realm := by
    by_contra apart
    rw [Realm.activeKey?, shows.closed named apart] at opens
    cases opens
  rw [own, Realm.activeKey?, shows.opened] at opens
  refine ⟨own, ?_⟩
  cases active with
  | none => cases opens
  | some open? => exact opens

/-- A teardown that is bound to the open key waits last; where no key is open, none is bound. -/
theorem register (shows : Shows world container realm roll waiting active)
    (listener : Listener) (named : RealmRef) :
    (world.register named listener.callback).1 = (world.realm named).activeKey?.isSome ∧
      world.Notes [] (world.register named listener.callback).2 ∧
      Shows (world.register named listener.callback).2 container realm roll
        (joined (world.realm named).activeKey? [listener] waiting) active := by
  unfold World.register
  cases opens : (world.realm named).activeKey? with
  | none =>
    rw [joined_none]
    exact ⟨rfl, world.notes_trace _, shows.trace _⟩
  | some key =>
    obtain ⟨rfl, rfl⟩ := shows.eq_of_activeKey opens
    have bound : Shows (world.modifyRealm named (Realm.bind · key listener.callback)) container
        named roll (joined (some key) [listener] waiting) (some key) := by
      refine shows.modifyRealm_of_eq rfl (fun other own => ?_) shows.opened shows.entered
      rw [Realm.bind, TeardownTable.pending_register, joined]
      by_cases same : other = key
      · subst same
        rw [if_pos rfl, if_pos rfl, shows.waits other own, List.map_append]
        rfl
      · rw [if_neg same, if_neg fun both => same (Option.some.inj both).symm, List.append_nil]
        exact shows.waits other own
    have quiet : world.Notes [] (world.modifyRealm named (Realm.bind · key listener.callback)) :=
      .of_journal rfl rfl
    exact ⟨rfl, quiet.trans (World.notes_trace _ _), bound.trace _⟩

/-- When the teardowns of a key are taken, none waits for it. -/
theorem unbind (shows : Shows world container realm roll waiting active) (key : Key) :
    Shows (world.modifyRealm realm (Realm.unbind · key)) container realm roll
      (fun other => if other = key then [] else waiting other) active := by
  refine shows.modifyRealm_of_eq rfl (fun other own => ?_) shows.opened shows.entered
  rw [Realm.unbind, TeardownTable.pending_erase]
  split
  · rfl
  · exact shows.waits other own

/-- A key is opened. -/
theorem enter (shows : Shows world container realm roll waiting none) (key : Key) :
    Shows (world.enter realm key) container realm roll waiting (some key) := by
  refine shows.modifyRealm_of_eq rfl shows.waits ?_ ?_
  · rw [Realm.openKey, shows.opened]
    rfl
  · rw [shows.entered]
    rfl

/-- The open key is closed. -/
theorem leave {key : Key} (shows : Shows world container realm roll waiting (some key)) :
    Shows (world.leave realm) container realm roll waiting none := by
  refine shows.modifyRealm_of_eq rfl shows.waits ?_ ?_
  · rw [Realm.closeKey, shows.opened]
    rfl
  · rw [shows.entered]
    rfl

/-- After a change of its contents the list stands as another roll says. -/
theorem modifyContents (shows : Shows world container realm roll waiting active)
    {change : Contents → Contents} {nextSeq : Nat} {rows : List Row}
    (changed : change (.list roll.items roll.sequence) =
      .list (rows.map (·.item)) ⟨roll.id, nextSeq, rows.map (·.key)⟩)
    (proper : (KeySequence.mk roll.id nextSeq (rows.map (·.key))).Proper) :
    Shows (world.modifyContents container change) container realm
      { roll with nextSeq := nextSeq, rows := rows } waiting active := by
  have here : (world.modifyContents container change).container container =
      { world.container container with contents := change (world.container container).contents } :=
    (World.container_modify shows.inside container _).trans (if_pos rfl)
  refine { shows with
    others := ?_, places := ?_, contents := ?_, proper := proper, belongs := ?_, direct := ?_,
    free := ?_, listening := ?_, ascending := ?_ }
  · intro name apart
    rw [← shows.others name apart]
    exact World.held_modifyContainer fun found => apart (shows.apart name found)
  · rw [← shows.places]
    exact World.place_modifyContainer rfl rfl realm
  · rw [here, shows.contents]
    exact changed
  · rw [World.realmOf, here]
    exact shows.belongs
  · rw [here]
    exact shows.direct
  · rw [here]
    exact shows.free
  · intro channel
    rw [here]
    exact shows.listening channel
  · intro channel
    rw [here]
    exact shows.ascending channel

/-- A roll with the same elements and keys is shown as well. -/
theorem of_rows (shows : Shows world container realm roll waiting active) {rows : List Row}
    (items : rows.map (·.item) = roll.items) (keys : rows.map (·.key) = roll.keys) :
    Shows world container realm { roll with rows := rows } waiting active := by
  have sequence : Roll.sequence { roll with rows := rows } = roll.sequence := by
    simp only [Roll.sequence, Roll.keys, keys]
  refine { shows with others := shows.others, contents := ?_, proper := ?_ }
  · rw [sequence, shows.contents]
    exact congrArg (Contents.list · _) items.symm
  · rw [sequence]
    exact shows.proper

/-- After an insertion the list has the new element with a fresh key. -/
theorem insert (shows : Shows world container realm roll waiting active) {place : Nat}
    (within : place ≤ roll.rows.length) (item : Value) (pending : List Listener) :
    Shows (world.insertElement container place item) container realm
      { roll with
        nextSeq := roll.nextSeq + 1
        rows := roll.rows.insertIdx place ⟨item, ⟨roll.id, roll.nextSeq⟩, pending⟩ }
      waiting active := by
  have keysWithin : min place roll.keys.length = place := by
    rw [Roll.keys, List.length_map]
    exact Nat.min_eq_left within
  have allocated : roll.sequence.allocate place = ⟨roll.id, roll.nextSeq + 1,
      (roll.rows.insertIdx place ⟨item, ⟨roll.id, roll.nextSeq⟩, pending⟩).map (·.key)⟩ := by
    simp only [KeySequence.allocate, KeySequence.clamp, KeySequence.size, KeySequence.freshKey,
      Roll.sequence, keysWithin, List.map_insertIdx]
    rfl
  have listed : (roll.rows.insertIdx place ⟨item, ⟨roll.id, roll.nextSeq⟩, pending⟩).map (·.item) =
      roll.items.insertIdx place item := List.map_insertIdx _ _ _ _
  refine traceAll (shows.modifyContents ?_ ?_) _
  · rw [Contents.insert, allocated, listed]
  · rw [← allocated]
    exact shows.proper.allocate place

/-- After a removal the list has lost the element and its key. -/
theorem remove (shows : Shows world container realm roll waiting active) (position : Nat) :
    Shows (world.removeElement container position) container realm
      { roll with rows := roll.rows.eraseIdx position } waiting active := by
  have released : roll.sequence.release position = ⟨roll.id, roll.nextSeq,
      (roll.rows.eraseIdx position).map (·.key)⟩ := by
    simp only [KeySequence.release, Roll.sequence, Roll.keys, List.eraseIdx_map]
  refine traceAll (shows.modifyContents ?_ ?_) _
  · rw [Contents.remove, released, Roll.items, List.eraseIdx_map]
  · rw [← released]
    exact shows.proper.release position

end Shows

/-- Fresh rows have the new elements. -/
theorem Roll.items_fresh (id seq : Nat) (items : List Value) :
    (fresh id seq items).map (·.item) = items := by
  induction items generalizing seq with
  | nil => rfl
  | cons item items ih => rw [fresh, List.map_cons, ih]

/-- Fresh rows have fresh keys, in order. -/
theorem Roll.keys_fresh (id seq : Nat) (items : List Value) :
    (fresh id seq items).map (·.key) =
      (List.range items.length).map fun offset => ⟨id, seq + offset⟩ := by
  induction items generalizing seq with
  | nil => rfl
  | cons item items ih =>
    rw [fresh, List.map_cons, ih, List.length_cons, List.range_succ_eq_map, List.map_cons,
      List.map_map]
    congr 1
    apply List.map_congr_left
    intro offset _
    simp only [Function.comp, Key.mk.injEq, true_and]
    omega

/-- A sequence without keys is filled by the keys of fresh rows. -/
theorem Roll.fill_eq (id seq : Nat) (items : List Value) :
    (KeySequence.mk id seq []).fill items.length =
      ⟨id, seq + items.length, (fresh id seq items).map (·.key)⟩ := by
  have inUse := (KeySequence.mk id seq []).inUse_fill items.length
  have nextSeq := (KeySequence.mk id seq []).nextSeq_fill items.length
  have container := (KeySequence.mk id seq []).container_fill items.length
  rw [keys_fresh]
  generalize (KeySequence.mk id seq []).fill items.length = keys at inUse nextSeq container
  rcases keys with ⟨list, next, others⟩
  simp only [List.nil_append] at inUse nextSeq container
  rw [inUse, nextSeq, container]

namespace Shows

variable {world : World} {container : ContainerRef} {realm : RealmRef} {roll : Roll}
  {waiting : Key → List Listener} {active : Option Key}

/-- After a replacement the list has the new elements with fresh keys. -/
theorem replace (shows : Shows world container realm roll waiting active) (items : List Value) :
    Shows ((world.replaceKeys container items.length).replaceItems container items) container realm
      { roll with
        nextSeq := roll.nextSeq + items.length
        rows := Roll.fresh roll.id roll.nextSeq items } waiting active := by
  have filled : roll.sequence.releaseAll.fill items.length =
      ⟨roll.id, roll.nextSeq + items.length,
        (Roll.fresh roll.id roll.nextSeq items).map (·.key)⟩ :=
    Roll.fill_eq roll.id roll.nextSeq items
  have changed : (world.replaceKeys container items.length).replaceItems container items =
      (world.modifyContents container (Contents.replaceItems items ∘
        Contents.replaceKeys items.length)).traceAll
          (((world.container container).keys.releaseAll.allocations items.length).map
            .keyMoved) := by
    simp only [World.replaceKeys, World.replaceItems, World.modifyContents,
      World.modifyContainer, World.traceAll, Table.modify_modify]
    rfl
  rw [changed]
  refine traceAll (shows.modifyContents ?_ ?_) _
  · rw [Function.comp, Contents.replaceKeys, Contents.replaceItems, filled, Roll.items_fresh]
  · rw [← filled]
    exact KeySequence.Proper.fill (KeySequence.Proper.releaseAll _) _

/-- A subscription of the list is there, so it is not touched by making another one. -/
theorem callback_add (shows : Shows world container realm roll waiting active) (channel : Channel)
    (made : Subscription Callback) :
    ((world.container container).registry channel).snapshot.map
        { world with subscriptions := world.subscriptions.add made }.callback? =
      ((world.container container).registry channel).snapshot.map world.callback? := by
  apply List.map_congr_left
  intro subscription inside
  have there : world.callback? subscription ∈
      (roll.listeners channel).map fun listener => some listener.callback := by
    rw [← shows.listening channel]
    exact List.mem_map_of_mem inside
  obtain ⟨listener, _, found⟩ := List.mem_map.mp there
  have apart : subscription ≠ world.subscriptions.size := by
    intro same
    have beyond : world.subscriptions.get? subscription = none :=
      Array.getElem?_eq_none (Nat.le_of_eq same.symm)
    rw [World.callback?, beyond] at found
    cases found
  rw [World.callback?, Table.get?_add, if_neg apart]
  rfl

/-- The callbacks of a channel after a subscription has been put last in one of the channels. -/
theorem listening_concat (shows : Shows world container realm roll waiting active)
    (channel named : Channel) (number : Nat) (listener : Listener) :
    (if named = channel then
        (⟨((world.container container).registry channel).entries ++
          [⟨number, world.subscriptions.size⟩]⟩ : Registry)
      else (world.container container).registry named).snapshot.map
        { world with
          subscriptions := world.subscriptions.add ⟨number, listener.callback, true⟩ }.callback? =
      (if named = channel then roll.listeners channel ++ [listener]
        else roll.listeners named).map fun listener => some listener.callback := by
  have old := (shows.callback_add named ⟨number, listener.callback, true⟩).trans
    (shows.listening named)
  by_cases same : named = channel
  · subst same
    have new : ({ world with
        subscriptions := world.subscriptions.add ⟨number, listener.callback, true⟩ } :
          World).callback? world.subscriptions.size = some listener.callback := by
      rw [World.callback?, Table.get?_add, if_pos rfl]
      rfl
    rw [if_pos rfl, if_pos rfl, List.map_append, ← old, Registry.snapshot, List.map_append,
      List.map_append, List.map_singleton, List.map_singleton, List.map_singleton, new]
    rfl
  · rw [if_neg same, if_neg same]
    exact old

/-- A listener whose number comes after those of its channel is called last. -/
theorem listen (shows : Shows world container realm roll waiting active) (channel : Channel)
    (listener : Listener) {number : Nat}
    (last : ∀ entry ∈ ((world.container container).registry channel).entries, entry.id < number)
    (below : number < roll.nextSubscription) :
    Shows (world.setBoard container channel
        ((world.board container channel).insert number listener.callback)) container realm
      { roll with
        listeners := fun other => if other = channel
          then roll.listeners channel ++ [listener] else roll.listeners other } waiting active := by
  let registry := (world.container container).registry channel
  have placed : registry.insert number world.subscriptions.size =
      ⟨registry.entries ++ [⟨number, world.subscriptions.size⟩]⟩ := by
    rw [Registry.insert, Registry.place_of_lt last]
  have here : (world.setBoard container channel
      ((world.board container channel).insert number listener.callback)).container container =
      (world.container container).setRegistry channel
        (registry.insert number world.subscriptions.size) :=
    (World.container_modify shows.inside container _).trans (if_pos rfl)
  refine { shows with
    others := ?_, places := ?_, contents := ?_, belongs := ?_, direct := ?_, free := ?_,
    listening := ?_, ascending := ?_ }
  · intro name apart
    rw [← shows.others name apart]
    have kept : (world.modifyContainer container fun held => held.setRegistry channel
        (registry.insert number world.subscriptions.size)).held name = world.held name :=
      World.held_modifyContainer fun found => apart (shows.apart name found)
    exact kept
  · exact (world.place_setBoard container channel _ realm).trans shows.places
  · rw [here]
    cases channel <;> exact shows.contents
  · rw [World.realmOf, here]
    cases channel <;> exact shows.belongs
  · rw [here]
    cases channel <;> exact shows.direct
  · rw [here]
    cases channel <;> exact shows.free
  · intro named
    rw [here, Container.registry_setRegistry, placed]
    exact shows.listening_concat channel named number listener
  · intro named entry inside
    rw [here, Container.registry_setRegistry, placed] at inside
    split at inside
    · rcases List.mem_append.mp inside with inside | inside
      · exact Nat.lt_trans (last entry inside) below
      · rw [List.mem_singleton.mp inside]
        exact below
    · exact shows.ascending named entry inside

/-- A new listener comes after the others of its channel. -/
theorem subscribe (shows : Shows world container realm roll waiting active) (channel : Channel)
    (listener : Listener) :
    Shows (world.subscribe container channel listener.callback) container realm
      { roll with
        nextSubscription := roll.nextSubscription + 1
        listeners := fun other => if other = channel
          then roll.listeners channel ++ [listener] else roll.listeners other } waiting active := by
  have number : world.nextSubscriptionId realm = roll.nextSubscription := shows.numbered
  rw [World.subscribe, shows.belongs, number]
  exact shows.takeSubscriptionId.listen channel listener (shows.ascending channel)
    (Nat.lt_succ_self _)

end Shows

end Observables
