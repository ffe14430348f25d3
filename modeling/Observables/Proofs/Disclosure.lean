import Observables.Proofs.Retention
import Observables.Proofs.Inversion

/-!
# What the trace tells about keys

Of all events of the trace, those about allocated and released keys and about
replaced lists are what a reader needs to follow the keys of a list. Only a few
deeds trace such events, each of them in one step: a list that is made, an
insertion, a removal and a replacement. All other steps trace none.
-/

namespace Observables

open Script

/-- The event is about the keys of a list. -/
def TraceEvent.isKeyed : TraceEvent → Bool
  | .keyMoved _ | .listReplaced .. => true
  | _ => false

/-- The event of the trace that an event is, if it is about the keys of a list. -/
def Event.keyed? : Event → Option TraceEvent
  | .trace event => if event.isKeyed then some event else none
  | _ => none

/-- What events tell about keys, in order. -/
def Event.keyed (events : List Event) : List TraceEvent := events.filterMap keyed?

/-- Events that allocate keys one after the other, each at the end. -/
def TraceEvent.laidOut (keys : List Key) : List TraceEvent :=
  keys.mapIdx fun position key => .keyMoved (.allocated key position)

/-- What a deed that is done in the world traces about keys. -/
def World.disclosures (world : World) : Deed → List TraceEvent
  | .listMade _ keys _ => TraceEvent.laidOut keys
  | .inserted container position _ _ =>
    [.keyMoved ((world.container container).keys.allocation position)]
  | .removed _ position released _ => released.map fun key => .keyMoved (.released key position)
  | .replaced container released allotted _ =>
    TraceEvent.laidOut allotted ++
      [.listReplaced (world.container container).keys.container released.length]
  | .rekeyed _ _ allotted => TraceEvent.laidOut allotted
  | _ => []

/-- One more key at the end is allocated last. -/
theorem TraceEvent.laidOut_concat (keys : List Key) (key : Key) :
    laidOut (keys ++ [key]) = laidOut keys ++ [.keyMoved (.allocated key keys.length)] :=
  List.mapIdx_concat

/-- Filling traces the allocation of each key where it comes to stand. -/
theorem KeySequence.laidOut_fill (keys : KeySequence) (count : Nat) :
    TraceEvent.laidOut (keys.fill count).inUse =
      TraceEvent.laidOut keys.inUse ++ (keys.allocations count).map .keyMoved := by
  induction count generalizing keys with
  | zero => exact (List.append_nil _).symm
  | succ count ih =>
    have last : keys.allocation keys.size = .allocated keys.freshKey keys.inUse.length := by
      simp only [allocation, clamp, size, Nat.min_self]
    rw [fill, ih, inUse_allocate_size, TraceEvent.laidOut_concat, allocations, last,
      List.map_cons, List.append_assoc, List.singleton_append]

/-- An event that is noted comes last. -/
theorem Journal.keyed_note (journal : Journal) (event : Event) :
    Event.keyed (journal.note event).events =
      Event.keyed journal.events ++ event.keyed?.toList := by
  have last : (journal.note event).events = journal.events ++ [event] := List.reverse_cons
  rw [last, Event.keyed, List.filterMap_append]
  cases told : event.keyed? with
  | none => simp [told, Event.keyed]
  | some => simp [told, Event.keyed]

/-- One world follows another after events about keys, which are noted if the trace is wanted. -/
structure World.Tells (world : World) (told : List TraceEvent) (other : World) : Prop where
  /-- The trace is wanted or not, as before. -/
  tracing : other.journal.tracing = world.journal.tracing
  /-- The events have been noted, and no others about keys. -/
  events : world.journal.tracing = true →
    Event.keyed other.journal.events = Event.keyed world.journal.events ++ told

namespace World

variable (world : World)

/-- A step that notes nothing tells nothing. -/
theorem Tells.of_journal {world other : World} (same : other.journal = world.journal) :
    world.Tells [] other :=
  ⟨congrArg Journal.tracing same, fun _ => by rw [same, List.append_nil]⟩

/-- What nothing happened to has told nothing. -/
theorem Tells.refl : world.Tells [] world := .of_journal rfl

/-- What is told later comes after what is told first. -/
theorem Tells.trans {first middle last : World} {before after : List TraceEvent}
    (one : first.Tells before middle) (two : middle.Tells after last) :
    first.Tells (before ++ after) last := by
  refine ⟨two.tracing.trans one.tracing, fun wanted => ?_⟩
  rw [two.events (one.tracing.trans wanted), one.events wanted, List.append_assoc]

/-- An event that is no part of the trace tells nothing about keys. -/
theorem tells_emit {event : Event} (other : event.keyed? = none) :
    world.Tells [] (world.emit event) := by
  refine ⟨rfl, fun _ => ?_⟩
  have noted := world.journal.keyed_note event
  rwa [other] at noted

/-- An event of the trace is told if it is about keys. -/
theorem tells_trace (event : TraceEvent) :
    world.Tells ([event].filter TraceEvent.isKeyed) (world.trace event) := by
  refine ⟨world.journal.tracing_trace event, fun wanted => ?_⟩
  have traced : (world.trace event).journal = world.journal.note (.trace event) := by
    simp only [trace, Journal.trace, wanted, if_true]
  rw [traced, Journal.keyed_note]
  cases keyed : event.isKeyed with
  | true => simp [Event.keyed?, keyed]
  | false => simp [Event.keyed?, keyed]

/-- Of several events of the trace those about keys are told. -/
theorem tells_traceAll (events : List TraceEvent) :
    world.Tells (events.filter TraceEvent.isKeyed) (world.traceAll events) := by
  induction events generalizing world with
  | nil => exact .refl world
  | cons event events ih =>
    have told := (world.tells_trace event).trans (ih (world.trace event))
    rwa [← List.filter_append, List.singleton_append] at told

/-- What is told comes last also after what was noted in earlier steps of a script. -/
theorem Tells.keyed_append {world other : World} {told : List TraceEvent}
    (tells : world.Tells told other) (wanted : world.journal.tracing = true)
    (earlier : List Event) :
    Event.keyed (earlier ++ other.journal.events) =
      Event.keyed (earlier ++ world.journal.events) ++ told := by
  have noted := tells.events wanted
  unfold Event.keyed at noted ⊢
  rw [List.filterMap_append, noted, List.filterMap_append, List.append_assoc]

/-- What is told does not hang on anything but the journals. -/
theorem Tells.congr {first last world other : World} {told : List TraceEvent}
    (tells : first.Tells told last) (before : world.journal = first.journal)
    (after : other.journal = last.journal) : world.Tells told other := by
  refine ⟨?_, ?_⟩
  · rw [before, after, tells.tracing]
  · rw [before, after]
    exact tells.events

/-- All movements of keys are about keys. -/
theorem filter_isKeyed_map (movements : List KeyMovement) :
    (movements.map TraceEvent.keyMoved).filter TraceEvent.isKeyed = movements.map .keyMoved :=
  List.filter_eq_self.mpr fun event inside => by
    obtain ⟨movement, _, rfl⟩ := List.mem_map.mp inside
    rfl

/-- Making a list tells how its keys are allocated. -/
theorem tells_makeList (name : String) (realm : RealmRef) (surface : Surface)
    (items : List Value) :
    world.Tells
      (TraceEvent.laidOut (KeySequence.ofLength (world.nextListId realm) items.length).inUse)
      (world.makeList name realm surface items) := by
  let keys := KeySequence.empty (world.nextListId realm)
  let events : List TraceEvent := (keys.allocations items.length).map .keyMoved ++
    [.listCreated keys.container items.length]
  have told := world.tells_traceAll events
  have unkeyed : [TraceEvent.listCreated keys.container items.length].filter
      TraceEvent.isKeyed = [] := rfl
  rw [List.filter_append, filter_isKeyed_map, unkeyed, List.append_nil] at told
  rw [KeySequence.ofLength, KeySequence.laidOut_fill]
  exact told.congr rfl rfl

/-- An insertion tells where its key is put. -/
theorem tells_insertElement (container : ContainerRef) (position : Nat) (item : Value) :
    world.Tells [.keyMoved ((world.container container).keys.allocation position)]
      (world.insertElement container position item) := by
  let keys := (world.container container).keys
  have told := world.tells_traceAll [.keyMoved (keys.allocation position),
    .elementAdded keys.container keys.freshKey position]
  exact told.congr rfl rfl

/-- A removal tells where its key was, if there is one. -/
theorem tells_removeElement (container : ContainerRef) (position : Nat) :
    world.Tells
      (((world.container container).keys.keyAt? position).toList.map
        fun key => .keyMoved (.released key position))
      (world.removeElement container position) := by
  let keys := (world.container container).keys
  have told := world.tells_traceAll ((keys.keyAt? position).toList.flatMap fun key =>
    [.keyMoved (.released key position), .elementRemoved keys.container key position])
  have keyed : ((keys.keyAt? position).toList.flatMap fun key =>
      [.keyMoved (.released key position),
        .elementRemoved keys.container key position]).filter TraceEvent.isKeyed =
      (keys.keyAt? position).toList.map fun key => .keyMoved (.released key position) := by
    cases keys.keyAt? position with
    | none => rfl
    | some key => rfl
  rw [keyed] at told
  exact told.congr rfl rfl

/-- A replacement of keys tells how the new ones are allocated. -/
theorem tells_replaceKeys (container : ContainerRef) (count : Nat) :
    world.Tells
      (TraceEvent.laidOut ((world.container container).keys.releaseAll.fill count).inUse)
      (world.replaceKeys container count) := by
  let blank := (world.container container).keys.releaseAll
  have told := world.tells_traceAll ((blank.allocations count).map .keyMoved)
  rw [filter_isKeyed_map] at told
  rw [KeySequence.laidOut_fill]
  exact told.congr rfl rfl

/-- A teardown that is registered is told about, but not as a key. -/
theorem tells_register (realm : RealmRef) (teardown : Callback) :
    world.Tells [] (world.register realm teardown).2 := by
  unfold register
  dsimp only
  split
  · exact world.tells_trace (.teardownIgnored _)
  · exact (world.tells_trace (.teardownRegistered _ _)).congr rfl rfl

end World

/-- The deed of the command can disclose something about keys. -/
def Script.Command.discloses : Command (List Action) → Bool
  | .makeList .. | .operate _ => true
  | _ => false

/-- The deed of going on with the frame can disclose something about keys. -/
def Frame.discloses : Frame → Bool
  | .body _ | .replace _ | .verdict .. => true
  | _ => false

namespace Machine

variable (machine : Machine)

/-- A callback is called with an event that is no part of the trace. -/
theorem tells_call (callback : Callback) {event : Option Key → Event}
    (arguments : List (String × Value)) (other : ∀ active, (event active).keyed? = none) :
    machine.world.Tells [] (machine.call callback event arguments).world :=
  (machine.world.tells_emit (other _)).congr rfl rfl

/-- Teardowns that are taken are told about, but not as keys. -/
theorem tells_runTeardowns (realm : RealmRef) (key : Key) :
    machine.world.Tells [] (machine.runTeardowns realm key).world := by
  unfold runTeardowns World.takeTeardowns
  cases (machine.world.realm realm).teardowns.find? key with
  | none => exact .refl _
  | some waiting => exact (machine.world.tells_trace (.teardownsRunning _ key _)).congr rfl rfl

theorem tells_askHandle (name : String) (query : HandleQuery) :
    machine.world.Tells [] (machine.askHandle name query).world := by
  refine .of_journal ?_
  unfold askHandle
  split
  · rfl
  · rfl
  · dsimp only [withWorld, answer]
    split
    · rfl
    · rfl
  · split
    · rfl
    · rfl
  · split
    · rfl
    · rfl

variable (container : ContainerRef)

theorem tells_tell (notice : Notice) (callback : Callback) :
    machine.world.Tells [] (machine.tell container notice callback).world := by
  cases notice with
  | changed | added | removed => exact machine.tells_call callback _ fun _ => rfl

theorem tells_dispatch (notice : Notice) (waiting : List SubscriptionRef) :
    machine.world.Tells [] (machine.dispatch container notice waiting).world := by
  cases waiting with
  | nil => exact .refl _
  | cons subscription waiting =>
    unfold dispatch
    dsimp only
    split
    · exact .refl _
    · exact tells_tell (machine.push _) container notice _

theorem tells_teardown (realm : RealmRef) (key : Key) (waiting : List Callback) :
    machine.world.Tells [] (machine.teardown realm key waiting).world := by
  cases waiting with
  | nil => exact .refl _
  | cons callback waiting => exact tells_call (machine.push _) callback _ fun _ => rfl

theorem tells_discharge (realm : RealmRef) (keys : List Key) :
    machine.world.Tells [] (machine.discharge realm keys).world := by
  cases keys with
  | nil => exact .refl _
  | cons key keys => exact tells_runTeardowns (machine.push _) realm key

theorem tells_settle (key : Key) :
    machine.world.Tells [] (machine.settle container key).world := by
  unfold settle
  split
  · exact .refl _
  · exact machine.tells_runTeardowns _ key

theorem tells_search (position : Nat) (rest : List Value) (body : List Action)
    (test : Expression) :
    machine.world.Tells [] (machine.search container position rest body test).world := by
  cases rest with
  | nil => exact .refl _
  | cons item rest => exact .of_journal rfl

theorem tells_set (body : List Action) (result : Expression) :
    machine.world.Tells [] (machine.set container body result).world := by
  unfold set
  dsimp only
  split
  · exact .of_journal rfl
  · exact .of_journal rfl

theorem tells_subscribe (tag : Expression) (channel : Channel) (body : List Action) :
    machine.world.Tells [] (machine.subscribe container tag channel body).world := by
  refine .of_journal ?_
  unfold subscribe World.keepHandle
  dsimp only [withWorld, answer]
  split
  · rfl
  · rfl

/-- A list that is inserted into tells where the new key is put. -/
theorem tells_insertAt (position : Nat) (item : Value) :
    machine.world.Tells
      (machine.world.disclosures (machine.world.insertion container position item))
      (machine.insertAt container position item).world := by
  unfold insertAt World.insertion
  split
  · exact .refl _
  · exact machine.world.tells_insertElement container _ item

/-- A list that is removed from tells where the key was. -/
theorem tells_removeAt (position : Nat) :
    machine.world.Tells (machine.world.disclosures (machine.world.removal container position))
      (machine.removeAt container position).world := by
  unfold removeAt World.removal
  split
  · exact .refl _
  · dsimp only
    cases (machine.world.container container).items[position]? with
    | none => exact .refl _
    | some item => exact machine.world.tells_removeElement container position

theorem tells_verdict (position : Nat) (rest : List Value) (body : List Action)
    (test : Expression) (answer : Value) :
    machine.world.Tells
      (machine.world.disclosures
        (if answer.truthy then machine.world.removal container position else .quiet))
      (machine.verdict container position rest body test answer).world := by
  unfold verdict
  split
  · exact machine.tells_removeAt container position
  · exact machine.tells_search container _ rest body test

theorem tells_store (value : Value) :
    machine.world.Tells
      (machine.world.disclosures
        (if machine.world.isBorrowed container then .quiet else .stored container value))
      (machine.store container value).world := by
  unfold store
  split
  · exact .refl _
  · exact .of_journal rfl

/-- A list that is replaced tells how the new keys are allocated, and how many went. -/
theorem tells_replace (value : Value) :
    machine.world.Tells (machine.world.disclosures (machine.world.replacing container value))
      (machine.replace container value).world := by
  unfold replace World.replacing
  dsimp only
  cases replacement (machine.world.container container).surface value with
  | error error => exact .refl _
  | ok items =>
    have rekeyed := machine.world.tells_replaceKeys container items.length
    dsimp only
    split
    · exact rekeyed
    · let keys := (machine.world.container container).keys
      have replaced := World.tells_trace
        ((machine.world.replaceKeys container items.length).replaceItems container items)
        (.listReplaced keys.container keys.size)
      exact rekeyed.trans (replaced.congr rfl rfl)

/-- The first step of an operation traces about keys what its deed discloses. -/
theorem tells_operate (rest : List Frame) (operation : Operation (List Action)) :
    machine.world.Tells
      (machine.world.disclosures
        ({ machine with stack := rest }.operationDeed container operation))
      (machine.operate container operation).world := by
  cases operation with
  | borrow body result => exact .of_journal rfl
  | set body result =>
    have silent : machine.world.disclosures
        ({ machine with stack := rest }.settingDeed container) = [] := by
      unfold settingDeed
      dsimp only
      split
      · rfl
      · rfl
      · rfl
    rw [operationDeed, silent]
    exact machine.tells_set container body result
  | subscribe tag channel body => exact machine.tells_subscribe container tag _ body
  | keyAt position =>
    dsimp only [operate, atPosition]
    split
    · exact .refl _
    · exact .refl _
  | positionOf key =>
    dsimp only [operate]
    split
    · exact .refl _
    · exact .refl _
  | push item => exact machine.tells_insertAt container _ _
  | insertAt position item =>
    dsimp only [operate, atPosition, operationDeed]
    rw [evaluate_stack]
    cases (machine.evaluate position).position? with
    | none => exact .refl _
    | some position => exact machine.tells_insertAt container position _
  | pop =>
    dsimp only [operate, pop, operationDeed]
    cases (machine.world.container container).items.length with
    | zero => exact .refl _
    | succ length => exact machine.tells_removeAt container length
  | removeAt position =>
    dsimp only [operate, atPosition, operationDeed]
    rw [evaluate_stack]
    cases (machine.evaluate position).position? with
    | none => exact .refl _
    | some position => exact machine.tells_removeAt container position
  | findAndRemove body test => exact machine.tells_search container 0 _ body test
  | get | observe | subscriberCount | describe | id | length | isEmpty | keys | holdsValue
  | holdsElements | unknown => exact .refl _

/-- Questions to a realm trace nothing about keys, also those that draw a number. -/
theorem tells_askRealm (realm : RealmRef) (query : RealmQuery) :
    machine.world.Tells [] (machine.askRealm realm query).world := by
  cases query with
  | nextSubscription | nextContainer => exact .of_journal rfl
  | label | tracked | describe | activeKey => exact .refl _

/-- A command that neither makes a list nor operates on one discloses nothing. -/
theorem disclosures_commandDeed (subject : String) {command : Command (List Action)}
    (silent : command.discloses = false) :
    machine.world.disclosures (machine.commandDeed subject command) = [] := by
  have does := machine.command_does subject command
  generalize machine.commandDeed subject command = deed at does ⊢
  cases does with
  | made | operated => cases silent
  | _ => rfl

/-- Nor does its first step trace anything about keys. -/
theorem tells_silent (subject : String) {command : Command (List Action)}
    (silent : command.discloses = false) :
    machine.world.Tells [] (machine.command subject command).world := by
  unfold Machine.command
  cases command with
  | makeList | operate => cases silent
  | log value => exact machine.world.tells_emit rfl
  | evaluate | throw | branch | attempt => exact .refl _
  | limit id times body =>
    dsimp only
    exact limit_elim (fun _ => .of_journal rfl) fun _ => .of_journal rfl
  | openRealm name label firstId =>
    exact (machine.world.tells_trace (.realmCreated label firstId)).congr rfl rfl
  | sameRealm left right =>
    dsimp only
    exact inRealm_elim (.refl _) fun _ _ => inRealm_elim (.refl _) fun _ _ => .refl _
  | realm name query =>
    dsimp only
    exact inRealm_elim (.refl _) fun realm _ => machine.tells_askRealm realm query
  | pending name key =>
    dsimp only
    exact inRealm_elim (.refl _) fun _ _ => withKeyOf_elim (.refl _) fun _ _ => .refl _
  | runTeardowns name key =>
    dsimp only
    exact inRealm_elim (.refl _) fun realm _ => withKeyOf_elim (.refl _) fun key _ =>
      machine.tells_runTeardowns realm key
  | withKey name key body =>
    dsimp only
    exact inRealm_elim (.refl _) fun _ _ => withKeyOf_elim (.refl _) fun _ _ => .of_journal rfl
  | register name tag surface body =>
    dsimp only
    exact inRealm_elim (.refl _) fun _ _ => machine.world.tells_register _ _
  | handle name query => exact machine.tells_askHandle _ query
  | makeCell name value realm surface =>
    dsimp only
    exact inRealm_elim (.refl _) fun _ _ => .of_journal rfl
  | drop name => exact .of_journal rfl
  | «alias» name =>
    dsimp only
    split
    · exact .refl _
    · exact .of_journal rfl

/-- A list that is made tells how its keys are allocated. -/
theorem tells_makeListCommand (rest : List Frame) (subject : String) (name value : Expression)
    (realm : Option Expression) (surface : Surface) :
    machine.world.Tells
      (machine.world.disclosures ({ machine with stack := rest }.commandDeed subject
        (.makeList name value realm surface)))
      (machine.command subject (.makeList name value realm surface)).world := by
  dsimp only [Machine.command, commandDeed, inRealm]
  rw [realm?_stack, evaluate_stack]
  cases machine.realm? realm with
  | none => exact .refl _
  | some realm =>
    dsimp only [Machine.makeList]
    cases (machine.evaluate value).toContents with
    | error error =>
      cases surface with
      | direct => exact .refl _
      | shielded => exact machine.world.tells_trace (.contentsRejected error)
    | ok items =>
      cases surface with
      | direct => exact machine.world.tells_makeList _ realm _ items
      | shielded => exact machine.world.tells_makeList _ realm _ items

/-- An operation tells the same on the container of a name. -/
theorem tells_operateOn (rest : List Frame) (subject : String)
    (operation : Operation (List Action)) :
    machine.world.Tells
      (machine.world.disclosures
        ({ machine with stack := rest }.commandDeed subject (.operate operation)))
      (machine.operateOn subject operation).world := by
  dsimp only [operateOn, commandDeed]
  cases machine.world.names.find? subject with
  | none => exact .refl _
  | some container =>
    dsimp only
    split
    · have told := (machine.push [.operating container]).tells_operate container rest operation
      rw [operationDeed_push] at told
      exact told
    · exact .refl _

/-- The first step of a command traces about keys what its deed discloses. -/
theorem tells_command (rest : List Frame) (subject : String)
    (command : Command (List Action)) :
    machine.world.Tells
      (machine.world.disclosures ({ machine with stack := rest }.commandDeed subject command))
      (machine.command subject command).world := by
  cases kind : command.discloses with
  | false =>
    have silent := { machine with stack := rest }.disclosures_commandDeed subject kind
    exact silent ▸ machine.tells_silent subject kind
  | true =>
    cases command with
    | makeList name value realm surface =>
      exact machine.tells_makeListCommand rest subject name value realm surface
    | operate operation => exact machine.tells_operateOn rest subject operation
    | _ => cases kind

/-- So does the first step of an action. -/
theorem tells_perform (machine : Machine) (action : Action) :
    machine.world.Tells (machine.world.disclosures (machine.actionDeed action))
      (machine.perform action).world :=
  machine.tells_command machine.stack _ _

/-- Going on with a frame of another kind discloses nothing. -/
theorem disclosures_resumeDeed {frame : Frame} (reply : Reply) (silent : frame.discloses = false) :
    machine.world.disclosures (machine.resumeDeed frame reply) = [] := by
  have does := machine.frame_does frame reply
  generalize machine.resumeDeed frame reply = deed at does ⊢
  cases does with
  | acted | replaced | rekeyed | removed => cases silent
  | _ => rfl

/-- So does going on with a frame. -/
theorem tells_resume (machine : Machine) (frame : Frame) (reply : Reply) :
    machine.world.Tells (machine.world.disclosures (machine.resumeDeed frame reply))
      (machine.resume frame reply).world := by
  cases frame with
  | body actions =>
    cases actions with
    | nil => exact .refl _
    | cons action actions =>
      have told := (machine.push [.finish action, .body actions]).tells_command machine.stack
        (machine.subjectName action) action.command
      rw [commandDeed_push] at told
      exact told
  | finish action =>
    dsimp only [resume, finish, proceed, answer, withWorld]
    split
    · exact .refl _
    · exact machine.world.tells_emit rfl
  | store container => exact machine.tells_store container _
  | replace container => exact machine.tells_replace container _
  | notify container notice => exact machine.world.tells_trace (.dispatching _ _)
  | dispatch container notice waiting =>
    rw [machine.disclosures_resumeDeed reply rfl]
    exact machine.tells_dispatch container notice waiting
  | settle container key =>
    rw [machine.disclosures_resumeDeed reply rfl]
    exact machine.tells_settle container key
  | discharge realm keys =>
    rw [machine.disclosures_resumeDeed reply rfl]
    exact machine.tells_discharge realm keys
  | teardown realm key waiting =>
    cases waiting with
    | nil => exact .refl _
    | cons teardown waiting => exact machine.tells_teardown realm key (teardown :: waiting)
  | search container position items body test =>
    exact machine.tells_search container position items body test
  | verdict container position items body test =>
    exact machine.tells_verdict container position items body test _
  | announce | scope | borrowed => exact .of_journal rfl
  | answer | yield | restore | attempt | shield | boundary | operating => exact .refl _

/-- A failure traces nothing about keys on its way. -/
theorem tells_unwind (machine : Machine) (frame : Frame) (failure : Failure) :
    machine.world.Tells (machine.world.disclosures (unwindDeed frame))
      (machine.unwind frame failure).world := by
  cases frame with
  | shield =>
    dsimp only [unwind]
    split
    · exact .refl _
    · exact .refl _
  | scope | borrowed => exact .of_journal rfl
  | _ => exact .refl _

/-- Every step traces about keys what its deed discloses. -/
theorem tells_step (machine : Machine) :
    machine.world.Tells (machine.world.disclosures machine.deed) machine.step.world := by
  rcases machine with ⟨world, locals, stack, focus⟩
  cases stack with
  | nil => exact .refl _
  | cons frame rest =>
    cases focus with
    | resume reply => exact tells_resume ⟨world, locals, rest, .resume reply⟩ frame reply
    | unwind failure => exact tells_unwind ⟨world, locals, rest, .unwind failure⟩ frame failure

end Machine

end Observables
