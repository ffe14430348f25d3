import Observables.Proofs.Editing
import Observables.Proofs.Settlement

/-!
# Lists refine rolls

A session that makes a list and then performs edits on it reports, action by
action, what a roll answers and makes visible, and the list has the elements,
the keys and the pending teardowns of the roll. The session may have done other
things before, as long as no key is open and no teardown waits for the list
that is made next. If there is a trace, it is left out of the reports.
-/

namespace Observables

open Script

namespace Session

/-- The session after several actions. -/
def after (session : Session) (steps : Nat) (actions : List Action) : Session :=
  actions.foldl (fun session action => (session.perform steps action).1) session

/-- A session in which a list can be made, in the realm that an expression names, for
which no teardown waits yet. -/
structure Ready (session : Session) (place : Option Expression) (realm : RealmRef) : Prop where
  /-- References lead somewhere. -/
  sound : session.world.Sound
  /-- The expression names the realm. -/
  place : (⟨session.world, session.locals, [], .resume (.value .null)⟩ : Machine).realm? place =
    some realm
  /-- No realm has been entered. -/
  entered : session.world.entered = []
  /-- No key is open. -/
  closed : ∀ other, (session.world.realm other).active = []
  /-- No teardown waits for the keys of the next list. -/
  vacant : ∀ key, key.container = session.world.nextListId realm →
    (session.world.realm realm).teardowns.pending key = []

/-- The roll of a list that has just been made. -/
def roll (session : Session) (realm : RealmRef) (name : String) (items : List Value) : Roll where
  name := name
  others := session.world.held
  places := (session.world.makeList name realm .direct items).place realm
  locals := session.locals
  id := session.world.nextListId realm
  nextSeq := items.length
  nextSubscription := session.world.nextSubscriptionId realm
  rows := Roll.fresh (session.world.nextListId realm) 0 items
  listeners := fun _ => []

end Session

/-- The action that makes a list. -/
def listMade (name : String) (items : List Value) (place : Option Expression) : Action :=
  ⟨"list", none, none,
    .makeList (.literal (.text name)) (.literal (.list items)) place .direct⟩

/-- What a report says of an action: what it came to and what became visible. If there is a
trace, it is left out. -/
def Report.told (tracing : Bool) (report : Report) : Option Reply × List Event :=
  (report.outcome, Event.untraced tracing report.events)

section

variable {session : Session} {container : ContainerRef} {realm : RealmRef} {roll : Roll}

/-- Enough steps carry out one edit. -/
theorem Shows.perform (shows : Shows session.world container realm roll roll.pending none)
    (locals : session.locals = roll.locals) (edit : Edit) :
    ∃ (bound : Nat) (left : Session) (report : Report),
      (∀ steps, bound ≤ steps →
        session.perform steps (edit.action roll.name) = (left, report)) ∧
      report.told session.world.journal.tracing =
        (some (.value (roll.perform edit).reply), (roll.perform edit).events) ∧
      left.world.journal.tracing = session.world.journal.tracing ∧
      Shows left.world container realm (roll.perform edit).roll (roll.perform edit).roll.pending
        none ∧
      left.locals = (roll.perform edit).roll.locals := by
  let world : World := { session.world with journal := session.world.journal.clear }
  have cleared : Shows world container realm roll roll.pending none := { shows with }
  obtain ⟨other, ⟨bound, run⟩, noted, shown⟩ :=
    cleared.operate edit (.resume (.value .null))
  rw [← cleared.start_eq edit roll.locals] at run
  let final : Machine :=
    ⟨other, roll.locals, [], .resume (.value (roll.perform edit).reply)⟩
  have ends (steps : Nat) (enough : bound ≤ steps) :
      (Machine.start world roll.locals (edit.action roll.name)).run steps = final := by
    obtain ⟨more, rfl⟩ := Nat.exists_eq_add_of_le enough
    rw [Machine.run_add, run, Machine.run_of_isFinished rfl]
  let left : Session := ⟨other, roll.locals⟩
  refine ⟨bound, left, ⟨final.outcome?, other.journal.events,
    left.subjectView (edit.action roll.name)⟩, fun steps enough => ?_, ?_, noted.tracing, shown,
    (roll.perform_kept edit).2.2.symm⟩
  · rw [Session.perform, locals, ends steps enough]
    rfl
  · have events := noted.events
    have none : Event.untraced world.journal.tracing world.journal.events = [] := by
      cases tracing : world.journal.tracing <;> rfl
    rw [none, List.nil_append] at events
    exact congrArg (Prod.mk _) events

/-- Enough steps carry out all edits. -/
theorem Shows.performAll (shows : Shows session.world container realm roll roll.pending none)
    (locals : session.locals = roll.locals) (edits : List Edit) :
    ∃ bound, ∀ steps, bound ≤ steps →
      let actions := edits.map (Edit.action roll.name)
      (session.performAll steps actions).map (Report.told session.world.journal.tracing) =
        (roll.answers edits).map (fun answer => (some (.value answer.1), answer.2)) ∧
      Shows (session.after steps actions).world container realm (roll.after edits)
        (roll.after edits).pending none := by
  induction edits generalizing session roll with
  | nil => exact ⟨0, fun steps _ => ⟨rfl, shows⟩⟩
  | cons edit edits ih =>
    obtain ⟨first, left, report, performs, told, tracing, shown, kept⟩ :=
      shows.perform locals edit
    obtain ⟨others, performsAll⟩ := ih shown kept
    rw [(roll.perform_kept edit).1, tracing] at performsAll
    refine ⟨max first others, fun steps enough => ?_⟩
    have now := performs steps (Nat.le_trans (Nat.le_max_left _ _) enough)
    obtain ⟨later, final⟩ := performsAll steps (Nat.le_trans (Nat.le_max_right _ _) enough)
    refine ⟨?_, ?_⟩
    · simp only [List.map_cons, Session.performAll, now, Roll.answers, told]
      exact congrArg _ later
    · simp only [List.map_cons, Session.after, List.foldl_cons, now, Roll.after]
      exact final

end

namespace Session

variable {session : Session} {place : Option Expression} {realm : RealmRef}

/-- The container that is made for a list. -/
def listOf (session : Session) (realm : RealmRef) (name : String) (items : List Value) :
    Container :=
  ⟨realm, .direct, .list items (session.roll realm name items).sequence, 0, {}, {}, {}⟩

/-- It has fresh keys. -/
theorem fill_empty (session : Session) (realm : RealmRef) (name : String) (items : List Value) :
    (KeySequence.empty (session.world.nextListId realm)).fill items.length =
      (session.roll realm name items).sequence := by
  have filled := Roll.fill_eq (session.world.nextListId realm) 0 items
  rw [Nat.zero_add] at filled
  exact filled

/-- It is made after its realm has given it a number. -/
theorem makeList_eq (session : Session) (realm : RealmRef) (name : String) (items : List Value) :
    ∃ events, session.world.makeList name realm .direct items =
      ((session.world.takeListId realm).traceAll events).makeContainer name
        (session.listOf realm name items) := by
  let keys : KeySequence := KeySequence.empty (session.world.nextListId realm)
  refine ⟨(keys.allocations items.length).map .keyMoved ++
    [.listCreated (session.world.nextListId realm) items.length], ?_⟩
  simp only [World.makeList, session.fill_empty realm name items]
  rfl

/-- Making a list changes nothing of realms but the supply of numbers for lists. -/
theorem realm_makeList (known : realm < session.world.realms.size) (name : String)
    (items : List Value) (other : RealmRef) :
    (session.world.makeList name realm .direct items).realm other =
      if other = realm then { session.world.realm realm with
        containerIds := (session.world.realm realm).containerIds.advance }
      else session.world.realm other := by
  obtain ⟨events, made⟩ := session.makeList_eq realm name items
  rw [made]
  exact World.realm_modify known other _

/-- The new container is the list. -/
theorem container_makeList (session : Session) (realm : RealmRef) (name : String)
    (items : List Value) :
    (session.world.makeList name realm .direct items).container session.world.containers.size =
      session.listOf realm name items := by
  obtain ⟨events, made⟩ := session.makeList_eq realm name items
  rw [made]
  exact World.container_makeContainer_self _ name _

/-- The list gets its name, and other names stay as they are. -/
theorem names_makeList (session : Session) (realm : RealmRef) (name : String)
    (items : List Value) (other : String) :
    (session.world.makeList name realm .direct items).names.find? other =
      if other = name then some session.world.containers.size
      else session.world.names.find? other := by
  obtain ⟨events, made⟩ := session.makeList_eq realm name items
  rw [made]
  exact Directory.find?_insert _ name other _

/-- Other names hold what they held before. -/
theorem held_makeList (sound : session.world.Sound) (realm : RealmRef) (items : List Value)
    {name other : String} (apart : other ≠ name) :
    (session.world.makeList name realm .direct items).held other = session.world.held other := by
  obtain ⟨events, made⟩ := session.makeList_eq realm name items
  rw [World.held, session.names_makeList, if_neg apart, World.held]
  cases found : session.world.names.find? other with
  | none => rfl
  | some container =>
    have old := World.container_makeContainer (sound.names other container found) name
    rw [made]
    exact congrArg (·.value) (old _)

/-- The world after a list has been made shows its roll. -/
theorem Ready.shows (ready : session.Ready place realm) (name : String) (items : List Value) :
    Shows (session.world.makeList name realm .direct items) session.world.containers.size realm
      (session.roll realm name items) (session.roll realm name items).pending none := by
  have known : realm < session.world.realms.size :=
    ready.sound.lt_size_of_knows (Machine.knows_realm ready.place)
  have realms := realm_makeList known name items
  have here := session.container_makeList realm name items
  have names := session.names_makeList realm name items
  have proper := (KeySequence.Proper.empty (session.world.nextListId realm)).fill items.length
  rw [session.fill_empty realm name items] at proper
  refine
    { named := ?_, apart := ?_, places := rfl, contents := ?_, proper := proper,
      others := fun other apart => held_makeList ready.sound realm items apart,
      belongs := ?_, direct := ?_, free := ?_, listening := ?_, ascending := ?_, known := ?_,
      numbered := ?_, waits := ?_, entered := ?_, opened := ?_, closed := ?_ }
  · rw [names]
    exact if_pos rfl
  · intro other found
    rw [names] at found
    split at found
    · next same => exact same
    · exact absurd (ready.sound.names other _ found) (Nat.lt_irrefl _)
  · rw [here, Roll.items, Session.roll, Roll.items_fresh]
    rfl
  · rw [World.realmOf, here]
    rfl
  · rw [here]
    rfl
  · rw [here]
    rfl
  · intro channel
    rw [here]
    cases channel <;> rfl
  · intro channel entry inside
    rw [here] at inside
    cases channel <;> cases inside
  · obtain ⟨events, made⟩ := session.makeList_eq realm name items
    rw [made]
    exact (World.size_modifyRealm session.world realm _).symm ▸ known
  · rw [World.nextSubscriptionId, realms, if_pos rfl]
    rfl
  · intro key own
    rw [realms, if_pos rfl, Roll.pending_fresh rfl]
    exact ready.vacant key own
  · obtain ⟨events, made⟩ := session.makeList_eq realm name items
    rw [made]
    exact ready.entered
  · rw [realms, if_pos rfl]
    exact ready.closed realm
  · intro other apart
    rw [realms, if_neg apart]
    exact ready.closed other

/-- Making a list takes one step. -/
theorem Ready.perform (ready : session.Ready place realm) (name : String) (items : List Value) :
    ∃ (left : Session) (report : Report),
      (∀ steps, session.perform steps (listMade name items place) = (left, report)) ∧
      report.told session.world.journal.tracing =
        (some (.value (.nat (session.roll realm name items).id)), []) ∧
      left.world.journal.tracing = session.world.journal.tracing ∧
      Shows left.world session.world.containers.size realm (session.roll realm name items)
        (session.roll realm name items).pending none ∧
      left.locals = session.locals := by
  let world : World := { session.world with journal := session.world.journal.clear }
  have cleared : (Session.mk world session.locals).Ready place realm :=
    { ready with sound := { ready.sound with } }
  have shown := cleared.shows name items
  have begins : Machine.start world session.locals (listMade name items place) =
      ⟨world.makeList name realm .direct items, session.locals, [],
        .resume (.value (.nat (world.nextListId realm)))⟩ := by
    have command : Machine.start world session.locals (listMade name items place) =
        (⟨world, session.locals, [], .resume (.value .null)⟩ : Machine).inRealm place fun realm =>
          (⟨world, session.locals, [], .resume (.value .null)⟩ : Machine).makeList name
            (.list items) realm .direct := rfl
    rw [command, Machine.inRealm, cleared.place]
    rfl
  have noted : world.journal.Notes [] (world.makeList name realm .direct items).journal :=
    world.journal.notes_traceAll _
  have quiet : Event.untraced world.journal.tracing
      (world.makeList name realm .direct items).journal.events = [] := by
    rw [noted.events]
    cases tracing : world.journal.tracing <;> rfl
  let left : Session := ⟨world.makeList name realm .direct items, session.locals⟩
  let report : Report := ⟨some (.value (.nat (world.nextListId realm))),
    left.world.journal.events, left.subjectView (listMade name items place)⟩
  refine ⟨left, report, fun steps => ?_, ?_, noted.tracing, shown, rfl⟩
  · rw [Session.perform, begins, Machine.run_of_isFinished rfl]
    rfl
  · exact congrArg (Prod.mk _) quiet

end Session

/-- In a new session a list can be made. -/
theorem Session.Ready.start : (Session.start false).Ready none 0 where
  sound := World.Sound.start false
  place := rfl
  entered := rfl
  closed := World.field_start Realm.active rfl false
  vacant key _ := by
    have blank := World.field_start Realm.teardowns rfl false 0
    rw [blank]
    rfl

/-- Whenever an action of a calm and ordinary script is over, a list can be made. -/
theorem Moment.IsReached.ready {moment : Moment} (reached : moment.IsReached)
    (ordinary : Ordinary moment.history) (calm : Calm moment.history)
    (finished : moment.machine.isFinished = true) : moment.session.Ready none 0 := by
  have empty : moment.machine.stack = [] := Machine.stack_eq_nil finished
  have chain := reached.scopes
  rw [empty] at chain
  refine ⟨reached.held.sound, ?_, chain.entered, chain.active, fun key own => ?_⟩
  · show some moment.world.current = some 0
    rw [World.current, chain.entered]
    rfl
  · by_contra pends
    obtain ⟨container, owns, used⟩ := reached.present ordinary calm finished pends
    have drawn := reached.numbered.drawn container owns.isList
    rw [owns.realm, ← owns.allotted.1, own] at drawn
    exact Nat.lt_irrefl _ drawn

/-- A session that makes a list and performs edits on it answers and makes visible, action
by action, what the roll of the list does, if every action may take enough steps. In the
end, and so after each of the edits, the list has the elements and the keys of the roll,
and the teardowns that wait for its keys are those of the roll. -/
theorem list_refines_roll {session : Session} {place : Option Expression} {realm : RealmRef}
    (ready : session.Ready place realm) (name : String) (items : List Value)
    (edits : List Edit) :
    ∃ bound, ∀ steps, bound ≤ steps →
      let first := session.roll realm name items
      let actions := listMade name items place :: edits.map (Edit.action name)
      let world := (session.after steps actions).world
      let list := world.container session.world.containers.size
      let last := first.after edits
      (session.performAll steps actions).map (Report.told session.world.journal.tracing) =
        (some (.value (.nat first.id)), []) ::
          (first.answers edits).map (fun answer => (some (.value answer.1), answer.2)) ∧
      world.names.find? name = some session.world.containers.size ∧
      list.items = last.items ∧ list.keys.inUse = last.keys ∧
      ∀ key, key.container = first.id →
        (world.realm realm).teardowns.pending key =
          (last.pending key).map Listener.callback := by
  obtain ⟨left, report, performs, told, tracing, shown, kept⟩ := ready.perform name items
  obtain ⟨bound, performsAll⟩ := shown.performAll kept edits
  rw [tracing] at performsAll
  refine ⟨bound, fun steps enough => ?_⟩
  intro first actions world list last
  obtain ⟨reports, final⟩ := performsAll steps enough
  have same : session.after steps actions =
      left.after steps (edits.map (Edit.action name)) := by
    simp only [actions, Session.after, List.foldl_cons, performs]
  have reached : Shows world session.world.containers.size realm last last.pending none := by
    simp only [world, same]
    exact final
  obtain ⟨sameName, sameId⟩ := first.after_kept edits
  refine ⟨?_, ?_, reached.items, ?_, fun key own => ?_⟩
  · simp only [actions, Session.performAll, performs, List.map_cons, told]
    exact congrArg _ reports
  · have named := reached.named
    rw [sameName] at named
    exact named
  · exact congrArg KeySequence.inUse reached.keys
  · exact reached.waits key (own.trans sameId.symm)

/-- Edits of a list of two elements: listeners that log the elements and that bind a
teardown to a new one, an insertion between the two, and a removal of what was inserted. -/
def insertionUndone : List Edit :=
  [.subscribe "c" .change [.log (.variable "v")],
    .subscribe "a" .added
      [.register none (.literal (.text "t")) [.log (.held (.literal (.text "L")))]],
    .insertAt 1 (.int 3), .removeAt 1]

/-- What is reported when an element is inserted and removed again in a new session. -/
theorem list_refines_roll_insertion :
    (Session.start false).Ready none 0 ∧ ∃ bound, ∀ steps, bound ≤ steps →
      ((Session.start false).performAll steps (listMade "L" [.int 1, .int 2] none ::
        insertionUndone.map (Edit.action "L"))).map (Report.told false) =
      [(some (.value (.nat 0)), []), (some (.value (.nat 0)), []), (some (.value (.nat 1)), []),
        (some (.value .null),
          [.change "c" (.list [.int 1, .int 3, .int 2]) none,
            .logged (.list [.int 1, .int 3, .int 2]), .add "a" (.int 3) 1 (some ⟨0, 2⟩),
            .answered "register" (.value (.bool true))]),
        (some (.value (.list [.int 3])),
          [.teardown "t" none, .logged (.list [.int 1, .int 2]),
            .change "c" (.list [.int 1, .int 2]) none, .logged (.list [.int 1, .int 2])])] := by
  obtain ⟨bound, refines⟩ :=
    list_refines_roll Session.Ready.start "L" [.int 1, .int 2] insertionUndone
  exact ⟨.start, bound, fun steps enough => (refines steps enough).1⟩

end Observables
