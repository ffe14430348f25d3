import Observables.Proofs.Turn

/-!
# Every step is a turn

The operations of a machine, one after the other, from the ones that others
call to whole steps. Each leaves its frames above those that were there, and
does the deed that is read off the machine before it.
-/

namespace Observables

open Script

namespace Machine

variable {machine : Machine} {tail rest taken : List Frame}

/-- Frames are pushed above those that are there. -/
theorem stack_push (above : machine.stack = tail ++ rest) (world : World)
    (frames : List Frame) :
    ((machine.withWorld world).push frames).stack = (frames ++ tail) ++ rest := by
  rw [List.append_assoc, ← above]
  rfl

/-- Frames that are pushed leave the world as it is. -/
theorem world_push (machine : Machine) (frames : List Frame) :
    (machine.push frames).world = machine.world :=
  rfl

/-- The value of an expression hangs on the world and the variables only. -/
theorem evaluate_stack (machine : Machine) (frames : List Frame) (expression : Expression) :
    { machine with stack := frames }.evaluate expression = machine.evaluate expression :=
  rfl

/-- So does the value of an expression as a name. -/
theorem evaluateName_stack (machine : Machine) (frames : List Frame) (expression : Expression) :
    { machine with stack := frames }.evaluateName expression = machine.evaluateName expression :=
  rfl

/-- So does the realm of a name. -/
theorem realm?_stack (machine : Machine) (frames : List Frame) (name : Option Expression) :
    { machine with stack := frames }.realm? name = machine.realm? name :=
  rfl

/-- A step that leaves the stack alone and changes nothing that matters. -/
theorem turns_quiet {after : Machine} (above : after.stack = tail ++ rest) (plain : Plain tail)
    (spent : Plain taken) (alike : machine.world.Alike after.world) :
    after.Turns machine.world rest taken .quiet :=
  ⟨tail, above, .quiet spent plain alike⟩

/-- A step that only takes frames off and changes nothing that matters. -/
theorem turns_popped {after : Machine} (above : after.stack = rest) (spent : Spent taken)
    (alike : machine.world.Alike after.world) :
    after.Turns machine.world rest taken .quiet :=
  ⟨[], above, .dropped spent alike⟩

/-- A key for which nothing waits has no teardowns to run. -/
theorem runTeardowns_none (machine : Machine) {realm : RealmRef} {key : Key}
    (empty : (machine.world.realm realm).teardowns.find? key = none) :
    machine.runTeardowns realm key = machine.answer (.nat 0) := by
  simp only [runTeardowns, World.takeTeardowns, empty]

/-- The teardowns of a key leave the table together and are called one after the other. -/
theorem runTeardowns_some (machine : Machine) {realm : RealmRef} {key : Key}
    {batch : List Callback}
    (found : (machine.world.realm realm).teardowns.find? key = some batch) :
    machine.runTeardowns realm key =
      (machine.withWorld ((machine.world.modifyRealm realm (Realm.unbind · key)).trace
        (.teardownsRunning (machine.world.realm realm).label key batch.length))).push
          [.teardown realm key batch, .yield (.nat batch.length)] := by
  simp only [runTeardowns, World.takeTeardowns, found]

/-- Running the teardowns of a key for an action. -/
theorem runTeardowns_turns (above : machine.stack = tail ++ rest) (plain : Plain tail)
    (spent : Plain taken) (realm : RealmRef) (key : Key) :
    (machine.runTeardowns realm key).Turns machine.world rest taken
      (machine.world.batch .asked realm key) := by
  unfold World.batch
  cases found : (machine.world.realm realm).teardowns.find? key with
  | none =>
    rw [machine.runTeardowns_none found]
    exact turns_quiet above plain spent (.refl _)
  | some batch =>
    rw [machine.runTeardowns_some found]
    exact ⟨_, stack_push above _ _, .ranAsked spent plain found (.of_eq rfl rfl rfl rfl rfl rfl)⟩

/-- Putting an element into a list. -/
theorem insertAt_turns (above : machine.stack = tail ++ rest) (plain : Plain tail)
    (spent : Plain taken) {container : ContainerRef}
    (isList : (machine.world.container container).contents.isList = true) (position : Nat)
    (item : Value) :
    (machine.insertAt container position item).Turns machine.world rest taken
      (machine.world.insertion container position item) := by
  unfold insertAt World.insertion
  cases held : machine.world.isBorrowed container with
  | true =>
    simp only [if_true]
    exact turns_quiet above plain spent (.refl _)
  | false =>
    simp only [Bool.false_eq_true, if_false]
    exact ⟨_, stack_push above _ _, .inserted spent plain isList held (Nat.min_le_right _ _)
      (.of_eq rfl rfl rfl rfl rfl rfl)⟩

/-- Removing the element at a position. -/
theorem removeAt_turns (above : machine.stack = tail ++ rest) (plain : Plain tail)
    (spent : Plain taken) (container : ContainerRef) (position : Nat) :
    (machine.removeAt container position).Turns machine.world rest taken
      (machine.world.removal container position) := by
  unfold removeAt World.removal
  cases held : machine.world.isBorrowed container with
  | true =>
    simp only [if_true]
    exact turns_quiet above plain spent (.refl _)
  | false =>
    simp only [Bool.false_eq_true, if_false]
    cases there : (machine.world.container container).items[position]? with
    | none => exact turns_quiet above plain spent (.refl _)
    | some item =>
      dsimp only
      exact ⟨_, stack_push above _ _, .removed spent plain held there
        (.of_eq rfl rfl rfl rfl rfl rfl)⟩

/-- Asking the predicate about the next element. -/
theorem search_turns (above : machine.stack = tail ++ rest) (plain : Plain tail)
    (spent : Plain taken) (container : ContainerRef) (position : Nat) (items : List Value)
    (body : List Action) (test : Expression) :
    (machine.search container position items body test).Turns machine.world rest taken
      .quiet := by
  cases items with
  | nil => exact turns_quiet above plain spent (.refl _)
  | cons item items =>
    let verdict : Frame := .verdict container position items body test
    have asked : Plain ([verdict] ++ tail) := Plain.cons rfl plain
    have inner : Plain (invoked body test (machine.world.container container).surface
      machine.locals ++ ([verdict] ++ tail)) := Plain.append (plain_invoked _ _ _ _) asked
    refine turns_quiet ?_ inner spent (.refl _)
    simp only [search, invoke, push, invoked, above, List.append_assoc, List.cons_append]
    rfl

/-- Deciding about an element after the predicate has answered. -/
theorem verdict_turns (above : machine.stack = tail ++ rest) (plain : Plain tail)
    (spent : Plain taken) (container : ContainerRef) (position : Nat) (items : List Value)
    (body : List Action) (test : Expression) (answer : Value) :
    (machine.verdict container position items body test answer).Turns machine.world rest taken
      (if answer.truthy then machine.world.removal container position else .quiet) := by
  unfold verdict
  split
  · exact removeAt_turns above plain spent container position
  · exact search_turns above plain spent container _ items body test

/-- Removing the last element. -/
theorem pop_turns (above : machine.stack = tail ++ rest) (plain : Plain tail)
    (spent : Plain taken) (container : ContainerRef) :
    (machine.pop container).Turns machine.world rest taken
      (match (machine.world.container container).items.length with
        | 0 => .quiet
        | length + 1 => machine.world.removal container length) := by
  unfold pop
  cases (machine.world.container container).items.length with
  | zero => exact turns_quiet above plain spent (.refl _)
  | succ length => exact removeAt_turns above plain spent container length

/-- A container is being read exactly if a reader of it is on the stack. -/
theorem isReading_iff (machine : Machine) (container : ContainerRef) :
    machine.isReading container = true ↔ Frame.borrowed container ∈ machine.stack := by
  unfold isReading
  rw [List.any_eq_true]
  constructor
  · rintro ⟨frame, inside, isReader⟩
    cases frame <;> simp_all
  · intro inside
    exact ⟨_, inside, by simp⟩

/-- Starting a setter. -/
theorem set_turns (above : machine.stack = tail ++ rest) (plain : Plain tail)
    (spent : Plain taken) {name : String} {container : ContainerRef}
    (found : machine.world.names.find? name = some container) (body : List Action)
    (result : Expression) :
    (machine.set container body result).Turns machine.world rest taken
      ({ machine with stack := rest }.settingDeed container) := by
  have reading : { machine with stack := rest }.isReading container = true ↔
      Frame.borrowed container ∈ rest := isReading_iff _ container
  cases direct : (machine.world.container container).surface with
  | direct =>
    cases held : (machine.world.container container).contents with
    | cell value =>
      have target : Plain [.store container] := by simp [Plain, Frame.isPlain]
      simp only [set, settingDeed, direct, held]
      refine ⟨invoked body result .direct machine.locals ++
        Frame.borrowed container :: [Frame.store container] ++ tail, ?_,
        .borrowed spent plain found target direct (.of_eq rfl rfl rfl rfl rfl rfl)⟩
      simp [invoke, push, withWorld, proceed, answer, invoked, above, setterTarget]
    | list items keys =>
      have isList : (machine.world.container container).contents.isList = true := by
        rw [held]
        rfl
      simp only [set, settingDeed, direct, held]
      refine ⟨invoked body result .direct machine.locals ++
        [Frame.borrowed container, Frame.replace container] ++ tail, ?_,
        .setBegun spent plain found direct isList reading (.of_eq rfl rfl rfl rfl rfl rfl)⟩
      simp [invoke, push, withWorld, proceed, answer, invoked, above, setterTarget]
  | shielded =>
    cases held : (machine.world.container container).contents with
    | cell value =>
      have target : Plain (.store container :: tail) := Plain.cons rfl plain
      have inner := Plain.append (plain_invoked body result .shielded machine.locals) target
      simp only [set, settingDeed, direct, held]
      refine turns_quiet ?_ inner spent (.refl _)
      simp [invoke, push, proceed, answer, invoked, above, setterTarget]
    | list items keys =>
      have isList : (machine.world.container container).contents.isList = true := by
        rw [held]
        rfl
      simp only [set, settingDeed, direct, held]
      refine ⟨invoked body result .shielded machine.locals ++ Frame.replace container :: tail, ?_,
        .setShielded spent plain direct isList (.refl _)⟩
      simp [invoke, push, proceed, answer, invoked, above, setterTarget]

/-- Running a body while the contents are borrowed. -/
theorem withBorrow_turns (above : machine.stack = tail ++ rest) (plain : Plain tail)
    (spent : Plain taken) {name : String} {container : ContainerRef}
    (found : machine.world.names.find? name = some container)
    (direct : (machine.world.container container).surface = .direct) (body : List Action)
    (result : Expression) :
    (machine.withBorrow container body result).Turns machine.world rest taken
      (.borrowed container) := by
  refine ⟨invoked body result .direct machine.locals ++ Frame.borrowed container :: [] ++ tail, ?_,
    .borrowed spent plain found Plain.nil direct (.of_eq rfl rfl rfl rfl rfl rfl)⟩
  simp [withBorrow, invoke, push, withWorld, proceed, answer, invoked, above, direct]

/-- Subscribing. -/
theorem subscribe_turns (above : machine.stack = tail ++ rest) (plain : Plain tail)
    (spent : Plain taken) {name : String} {container : ContainerRef}
    (found : machine.world.names.find? name = some container) (tag : Expression)
    (channel : Channel) (body : List Action) :
    (machine.subscribe container tag channel body).Turns machine.world rest taken
      (.subscribed container channel
        (machine.world.nextSubscriptionId (machine.world.container container).realm)
        machine.world.subscriptions.size) := by
  let callback : Callback :=
    ⟨machine.evaluateName tag, (machine.world.container container).surface, body, machine.locals⟩
  have kept : (machine.world.subscribe container channel callback).Alike
      (machine.subscribe container tag channel body).world := by
    unfold subscribe World.keepHandle
    dsimp only [withWorld, answer]
    split
    · exact .refl _
    · exact .of_eq rfl rfl rfl rfl rfl rfl
  exact ⟨tail, above, .subscribed spent plain found kept⟩

/-- The first step of an operation that the container knows. -/
theorem operate_turns (above : machine.stack = tail ++ rest) (plain : Plain tail)
    (spent : Plain taken) {name : String} {container : ContainerRef}
    (found : machine.world.names.find? name = some container)
    {operation : Operation (List Action)}
    (known : operation.isKnown (machine.world.container container).surface
      (machine.world.container container).contents.isList = true) :
    (machine.operate container operation).Turns machine.world rest taken
      ({ machine with stack := rest }.operationDeed container operation) := by
  have quiet (value : Value) : (machine.answer value).Turns machine.world rest taken .quiet :=
    turns_quiet above plain spent (.refl _)
  cases operation with
  | get | observe | subscriberCount | describe | id | length | isEmpty | keys | holdsValue
  | holdsElements | unknown => exact quiet _
  | borrow body result =>
    have direct : (machine.world.container container).surface = .direct := by
      simpa [Script.Operation.isKnown] using known
    exact withBorrow_turns above plain spent found direct body result
  | set body result => exact set_turns above plain spent found body result
  | subscribe tag channel body => exact subscribe_turns above plain spent found tag _ body
  | keyAt position =>
    dsimp only [operate, atPosition]
    split
    · exact quiet _
    · exact quiet _
  | positionOf key =>
    dsimp only [operate]
    split
    · exact quiet _
    · exact quiet _
  | push item =>
    exact insertAt_turns above plain spent (by simpa [Script.Operation.isKnown] using known) _ _
  | insertAt position item =>
    dsimp only [operate, atPosition, operationDeed]
    rw [evaluate_stack]
    cases (machine.evaluate position).position? with
    | none => exact quiet _
    | some position =>
      exact insertAt_turns above plain spent (by simpa [Script.Operation.isKnown] using known) _ _
  | pop => exact pop_turns above plain spent container
  | removeAt position =>
    dsimp only [operate, atPosition, operationDeed]
    rw [evaluate_stack]
    cases (machine.evaluate position).position? with
    | none => exact quiet _
    | some position => exact removeAt_turns above plain spent container position
  | findAndRemove body test => exact search_turns above plain spent container _ _ body test

/-- The deed of an operation hangs on the world, the variables and the frames below. -/
theorem operationDeed_push (frames : List Frame) (container : ContainerRef)
    (operation : Operation (List Action)) :
    { machine.push frames with stack := rest }.operationDeed container operation =
      { machine with stack := rest }.operationDeed container operation := by
  cases operation <;> rfl

/-- The first step of an operation on the container of a name. -/
theorem operateOn_turns (above : machine.stack = tail ++ rest) (plain : Plain tail)
    (spent : Plain taken) (name : String) (operation : Operation (List Action)) :
    (machine.operateOn name operation).Turns machine.world rest taken
      ({ machine with stack := rest }.commandDeed name (.operate operation)) := by
  have quiet (value : Value) : (machine.answer value).Turns machine.world rest taken .quiet :=
    turns_quiet above plain spent (.refl _)
  dsimp only [operateOn, commandDeed]
  cases found : machine.world.names.find? name with
  | none => exact quiet _
  | some container =>
    dsimp only
    split
    · next known =>
      have pushed : (machine.push [.operating container]).stack =
          (.operating container :: tail) ++ rest := stack_push above machine.world [_]
      have operated := operate_turns pushed (Plain.cons rfl plain) spent found known
      rw [operationDeed_push] at operated
      exact operated
    · exact quiet _

/-- The realm that an action names is one that it can mean. -/
theorem knows_realmNamed {name : String} {realm : RealmRef}
    (found : machine.realmNamed? name = some realm) : machine.world.Knows realm := by
  unfold realmNamed? at found
  split at found
  · cases found
    exact .current
  · split at found
    · obtain ⟨container, direct, rfl⟩ := Option.map_eq_some_iff.mp found
      have named := (Option.filter_eq_some_iff.mp direct).1
      exact .holder named
    · exact .named found

/-- The realm that an action means is one that it can mean. -/
theorem knows_realm {name : Option Expression} {realm : RealmRef}
    (found : machine.realm? name = some realm) : machine.world.Knows realm := by
  cases name with
  | none =>
    cases found
    exact .current
  | some name => exact knows_realmNamed found

/-- Questions to a realm. -/
theorem askRealm_turns (above : machine.stack = tail ++ rest) (plain : Plain tail)
    (spent : Plain taken) {realm : RealmRef} (known : machine.world.Knows realm)
    (query : RealmQuery) :
    (machine.askRealm realm query).Turns machine.world rest taken .quiet := by
  cases query with
  | label | tracked | describe | activeKey =>
    exact turns_quiet above plain spent (.refl _)
  | nextSubscription => exact ⟨tail, above, .drawn spent plain known (.inl rfl) (.refl _)⟩
  | nextContainer => exact ⟨tail, above, .drawn spent plain known (.inr rfl) (.refl _)⟩

/-- Making a list. -/
theorem makeList_turns (above : machine.stack = tail ++ rest) (plain : Plain tail)
    (spent : Plain taken) (name : String) (value : Value) {realm : RealmRef}
    (known : machine.world.Knows realm) (surface : Surface) :
    (machine.makeList name value realm surface).Turns machine.world rest taken
      (match value.toContents with
        | .error _ => .quiet
        | .ok items => .listMade machine.world.containers.size
          (KeySequence.ofLength (machine.world.nextListId realm) items.length).inUse items) := by
  unfold makeList
  cases contents : value.toContents with
  | error error =>
    cases surface with
    | direct => exact turns_quiet above plain spent (.refl _)
    | shielded =>
      exact turns_quiet above plain spent (.of_eq rfl rfl rfl rfl rfl rfl)
  | ok items =>
    cases surface with
    | direct =>
      exact ⟨tail, above, .listMade spent plain known (.of_eq rfl rfl rfl rfl rfl rfl)⟩
    | shielded =>
      exact ⟨tail, above, .listMade spent plain known (.of_eq rfl rfl rfl rfl rfl rfl)⟩

/-- Unsubscribing a number that is not registered changes nothing. -/
theorem unsubscribe_of_false {world : World} {handle : Handle}
    (fails : (world.unsubscribe handle).1 = false) : (world.unsubscribe handle).2 = world := by
  have unchanged : (world.board handle.container handle.channel).unsubscribe handle.id =
      (false, world.board handle.container handle.channel) := by
    have missing := Switchboard.unsubscribe_fst (world.board handle.container handle.channel)
      handle.id
    change ((world.board handle.container handle.channel).unsubscribe handle.id).1 = false at fails
    rw [fails] at missing
    unfold Switchboard.unsubscribe
    cases found : (world.board handle.container handle.channel).registry.find? handle.id with
    | none => rfl
    | some subscription => simp [found] at missing
  have kept : world.containers.modify handle.container (fun container =>
      container.setRegistry handle.channel
        ((world.container handle.container).registry handle.channel)) = world.containers := by
    apply Table.modify_eq_self
    intro container found
    have held : world.container handle.container = container := by
      simp only [World.container, Table.entry, found, Option.getD_some]
    rw [held]
    cases handle.channel <;> rfl
  unfold World.unsubscribe
  rw [unchanged]
  exact congrArg (fun containers => { world with containers := containers }) kept

/-- Questions and orders to a handle. -/
theorem askHandle_turns (above : machine.stack = tail ++ rest) (plain : Plain tail)
    (spent : Plain taken)
    (alive : ∀ container, { machine with stack := rest }.isAlive container =
      machine.isAlive container) (subject : String) (name : Expression) (query : HandleQuery) :
    (machine.askHandle (machine.evaluateName name) query).Turns machine.world rest taken
      ({ machine with stack := rest }.commandDeed subject (.handle name query)) := by
  have quiet (value : Value) : (machine.answer value).Turns machine.world rest taken .quiet :=
    turns_quiet above plain spent (.refl _)
  cases query with
  | forget => exact turns_quiet above plain spent (.of_eq rfl rfl rfl rfl rfl rfl)
  | id | describe =>
    dsimp only [askHandle, commandDeed]
    cases machine.world.handles.find? (machine.evaluateName name) with
    | none => exact quiet _
    | some handle =>
      dsimp only
      split
      · exact quiet _
      · exact quiet _
  | unsubscribe =>
    dsimp only [askHandle, commandDeed]
    rw [evaluateName_stack]
    cases machine.world.handles.find? (machine.evaluateName name) with
    | none => exact quiet _
    | some handle =>
      dsimp only
      rw [alive]
      cases lives : machine.isAlive handle.container with
      | false => exact quiet _
      | true =>
        cases success : (machine.world.unsubscribe handle).1 with
        | false =>
          refine turns_quiet above plain spent ?_
          rw [if_pos rfl, unsubscribe_of_false success]
          exact .refl _
        | true => exact ⟨tail, above, .unsubscribed spent plain success (.refl _)⟩

/-- Registering a teardown. -/
theorem register_turns (above : machine.stack = tail ++ rest) (plain : Plain tail)
    (spent : Plain taken) {realm : RealmRef} (known : machine.world.Knows realm)
    (teardown : Callback) :
    ((machine.withWorld (machine.world.register realm teardown).2).answer
      (.bool (machine.world.register realm teardown).1)).Turns machine.world rest taken
      (.registered realm (machine.world.realm realm).activeKey? teardown) := by
  unfold World.register
  cases active : (machine.world.realm realm).activeKey? with
  | none => exact ⟨tail, above, .refused spent plain active (.of_eq rfl rfl rfl rfl rfl rfl)⟩
  | some key =>
    exact ⟨tail, above, .bound spent plain known active (.of_eq rfl rfl rfl rfl rfl rfl)⟩

/-- What a command does at a key of a realm, if there are such a realm and such a key. -/
theorem atKey_turns (above : machine.stack = tail ++ rest) (plain : Plain tail)
    (spent : Plain taken) {name : Option Expression} {key : Expression}
    {next : RealmRef → Key → Machine} {deed : RealmRef → Key → Deed}
    (turns : ∀ realm key, machine.world.Knows realm →
      (next realm key).Turns machine.world rest taken (deed realm key)) :
    (machine.inRealm name fun realm => machine.withKeyOf key (next realm)).Turns machine.world
      rest taken
      (match machine.realm? name, (machine.evaluate key).key? with
        | some realm, some key => deed realm key
        | _, _ => .quiet) := by
  unfold inRealm withKeyOf
  cases found : machine.realm? name with
  | none => exact turns_quiet above plain spent (.refl _)
  | some realm =>
    cases (machine.evaluate key).key? with
    | none => exact turns_quiet above plain spent (.refl _)
    | some key => exact turns realm key (knows_realm found)

/-- Opening a key for a body. -/
theorem enter_turns (above : machine.stack = tail ++ rest) (plain : Plain tail)
    (spent : Plain taken) {realm : RealmRef} (known : machine.world.Knows realm) (key : Key)
    (body : List Action) :
    ((machine.withWorld (machine.world.enter realm key)).push
      [.body body, .boundary, .scope realm key]).Turns machine.world rest taken
      (.opened .asked realm key) :=
  ⟨_, stack_push above _ _, .opened spent plain known (.refl _)⟩

/-- Registering a teardown in the realm that is named, or without one in the current realm. -/
theorem registerCommand_turns (above : machine.stack = tail ++ rest) (plain : Plain tail)
    (spent : Plain taken) (subject : String) (name : Option Expression) (tag : Expression)
    (surface : Surface) (body : List Action) :
    (machine.command subject (.register name tag surface body)).Turns machine.world rest taken
      ({ machine with stack := rest }.commandDeed subject (.register name tag surface body)) := by
  dsimp only [Machine.command, commandDeed, inRealm]
  rw [realm?_stack]
  cases found : machine.realm? name with
  | none => exact turns_quiet above plain spent (.refl _)
  | some named =>
    cases surface with
    | direct => exact register_turns above plain spent (knows_realm found) _
    | shielded => exact register_turns above plain spent .current _

/-- Making a list in the realm that is named, from the value that is named. -/
theorem makeListCommand_turns (above : machine.stack = tail ++ rest) (plain : Plain tail)
    (spent : Plain taken) (subject : String) (name value : Expression)
    (realm : Option Expression) (surface : Surface) :
    (machine.command subject (.makeList name value realm surface)).Turns machine.world rest taken
      ({ machine with stack := rest }.commandDeed subject
        (.makeList name value realm surface)) := by
  dsimp only [Machine.command, commandDeed, inRealm]
  rw [realm?_stack, evaluate_stack]
  cases found : machine.realm? realm with
  | none => exact turns_quiet above plain spent (.refl _)
  | some realm =>
    have made := makeList_turns above plain spent (machine.evaluateName name)
      (machine.evaluate value) (knows_realm found) surface
    cases contents : (machine.evaluate value).toContents with
    | error => simpa only [contents] using made
    | ok items => simpa only [contents] using made

/-- Dropping a name. -/
theorem eraseName_alike (world : World) (name : String) :
    world.Alike { world with names := world.names.erase name } := by
  refine ⟨rfl, rfl, rfl, rfl, rfl, fun other container found => ⟨other, ?_⟩⟩
  change (world.names.erase name).find? other = some container at found
  rw [Directory.find?_erase] at found
  split at found
  · contradiction
  · exact found

/-- Giving a container another name. -/
theorem insertName_alike {world : World} {name : String} {container : ContainerRef}
    (named : world.names.find? name = some container) (added : String) :
    world.Alike { world with names := world.names.insert added container } := by
  refine ⟨rfl, rfl, rfl, rfl, rfl, fun other known found => ?_⟩
  change (world.names.insert added container).find? other = some known at found
  rw [Directory.find?_insert] at found
  split at found
  · cases found
    exact ⟨name, named⟩
  · exact ⟨other, found⟩

/-- The first step of a command. -/
theorem command_turns (above : machine.stack = tail ++ rest) (plain : Plain tail)
    (spent : Plain taken)
    (alive : ∀ container, { machine with stack := rest }.isAlive container =
      machine.isAlive container) (subject : String) (command : Command (List Action)) :
    (machine.command subject command).Turns machine.world rest taken
      ({ machine with stack := rest }.commandDeed subject command) := by
  have quiet (value : Value) : (machine.answer value).Turns machine.world rest taken .quiet :=
    turns_quiet above plain spent (.refl _)
  have pushed (frames : List Frame) (inner : Plain frames) :
      (machine.push frames).Turns machine.world rest taken .quiet :=
    turns_quiet (stack_push above machine.world frames) (inner.append plain) spent
      (.refl _)
  cases command with
  | log => exact turns_quiet above plain spent (.of_eq rfl rfl rfl rfl rfl rfl)
  | evaluate | throw => exact turns_quiet above plain spent (.refl _)
  | branch condition yes no => exact pushed [_] (Plain.cons rfl Plain.nil)
  | attempt body => exact pushed [_, _] (Plain.cons rfl (Plain.cons rfl Plain.nil))
  | limit id times body =>
    dsimp only [Machine.command]
    refine limit_elim (fun _ => ?_) fun _ => ?_
    · exact turns_quiet (stack_push above _ [.body body]) (Plain.cons rfl plain) spent
        (.of_eq rfl rfl rfl rfl rfl rfl)
    · exact turns_quiet above plain spent (.of_eq rfl rfl rfl rfl rfl rfl)
  | openRealm name label firstId => exact ⟨tail, above, .realmOpened spent plain (.refl _)⟩
  | sameRealm left right =>
    dsimp only [Machine.command]
    exact inRealm_elim (quiet _) fun _ _ => inRealm_elim (quiet _) fun _ _ => quiet _
  | realm name query =>
    dsimp only [Machine.command]
    exact inRealm_elim (quiet _) fun _ found =>
      askRealm_turns above plain spent (knows_realm found) query
  | pending name key =>
    dsimp only [Machine.command]
    exact inRealm_elim (quiet _) fun _ _ => withKeyOf_elim (quiet _) fun _ _ => quiet _
  | runTeardowns name key =>
    exact atKey_turns above plain spent fun realm key _ =>
      runTeardowns_turns above plain spent realm key
  | withKey name key body =>
    exact atKey_turns above plain spent fun realm key known =>
      enter_turns above plain spent known key body
  | register name tag surface body =>
    exact registerCommand_turns above plain spent subject name tag surface body
  | handle name query => exact askHandle_turns above plain spent alive subject name query
  | makeCell name value realm surface =>
    dsimp only [Machine.command]
    exact inRealm_elim (quiet _) fun _ found =>
      ⟨tail, above, .cellMade spent plain (knows_realm found) (.refl _)⟩
  | makeList name value realm surface =>
    exact makeListCommand_turns above plain spent subject name value realm surface
  | drop name => exact turns_quiet above plain spent (eraseName_alike _ _)
  | «alias» name =>
    dsimp only [Machine.command]
    split
    · exact quiet _
    · next named => exact turns_quiet above plain spent (insertName_alike named _)
  | operate operation => exact operateOn_turns above plain spent subject operation

/-- The first step of an action of a script. -/
theorem perform_turns (machine : Machine) (empty : machine.stack = []) (action : Action) :
    (machine.perform action).Turns machine.world [] [] (machine.actionDeed action) := by
  rcases machine with ⟨world, locals, stack, focus⟩
  cases empty
  have above : (⟨world, locals, [], focus⟩ : Machine).stack = [] ++ [] := rfl
  exact command_turns above Plain.nil Plain.nil (fun _ => rfl) _ _

/-- The deed of a command hangs on the world, the variables and the frames below. -/
theorem commandDeed_push (frames : List Frame) (subject : String)
    (command : Command (List Action)) :
    { machine.push frames with stack := machine.stack }.commandDeed subject command =
      machine.commandDeed subject command := by
  cases command with
  | handle name query => cases query <;> rfl
  | operate operation =>
    have same (container : ContainerRef) :
        { machine.push frames with stack := machine.stack }.operationDeed container operation =
          machine.operationDeed container operation := operationDeed_push frames container operation
    simp only [commandDeed, same]
    rfl
  | _ => rfl

/-- The first step of an action in a body. -/
theorem body_turns (machine : Machine) (action : Action) (actions : List Action) :
    ((machine.push [.finish action, .body actions]).perform action).Turns machine.world
      machine.stack [.body (action :: actions)] (machine.actionDeed action) := by
  have plain : Plain [.finish action, .body actions] :=
    Plain.cons rfl (Plain.cons rfl Plain.nil)
  have spent : Plain [.body (action :: actions)] := Plain.cons rfl Plain.nil
  have alive (container : ContainerRef) :
      machine.isAlive container =
        (machine.push [.finish action, .body actions]).isAlive container := rfl
  have above : (machine.push [.finish action, .body actions]).stack =
      [.finish action, .body actions] ++ machine.stack := rfl
  have performed := command_turns above plain spent alive (machine.subjectName action)
    action.command
  rw [commandDeed_push] at performed
  exact performed

/-- Replacing the elements of a list by the answer of a setter. -/
theorem replace_turns (machine : Machine) (container : ContainerRef) (value : Value) :
    (machine.replace container value).Turns machine.world machine.stack [.replace container]
      (machine.world.replacing container value) := by
  have spent : Spent [.replace container] := by simp [Spent, Frame.isSpent]
  unfold replace World.replacing
  dsimp only
  cases replacement (machine.world.container container).surface value with
  | error error => exact turns_popped rfl spent (.refl _)
  | ok items =>
    dsimp only
    cases held : machine.world.isBorrowed container with
    | true => exact ⟨[], rfl, .rekeyed held (.of_eq rfl rfl rfl rfl rfl rfl)⟩
    | false => exact ⟨_, rfl, .replaced held (.of_eq rfl rfl rfl rfl rfl rfl)⟩

/-- Giving the next waiting subscription its turn. -/
theorem dispatch_turns (machine : Machine) (container : ContainerRef) (notice : Notice)
    (waiting : List SubscriptionRef) (reply : Reply) :
    (machine.dispatch container notice waiting).Turns machine.world machine.stack
      [.dispatch container notice waiting]
      (machine.resumeDeed (.dispatch container notice waiting) reply) := by
  cases waiting with
  | nil =>
    exact turns_popped rfl (by simp [Spent, Frame.isSpent]) (.refl _)
  | cons subscription waiting =>
    dsimp only [dispatch, resumeDeed]
    rw [world_push]
    cases on : machine.world.callback? subscription with
    | none => exact ⟨_, rfl, .passed on (.refl _)⟩
    | some callback =>
      cases notice with
      | changed | added | removed =>
        exact ⟨_, rfl, .told on (.of_eq rfl rfl rfl rfl rfl rfl)⟩

/-- Running the teardowns of an added element that has left again. -/
theorem settle_turns (machine : Machine) (container : ContainerRef) (key : Key) (reply : Reply) :
    (machine.settle container key).Turns machine.world machine.stack [.settle container key]
      (machine.resumeDeed (.settle container key) reply) := by
  dsimp only [settle, resumeDeed, World.batch]
  cases found : (machine.world.container container).keys.positionOf? key with
  | some position => exact ⟨[], rfl, .settled found (.refl _)⟩
  | none =>
    dsimp only
    cases batch : (machine.world.realm (machine.world.realmOf container)).teardowns.find? key with
    | none =>
      rw [machine.runTeardowns_none batch]
      exact ⟨[], rfl, .settledEmpty found batch (.refl _)⟩
    | some waiting =>
      rw [machine.runTeardowns_some batch]
      exact ⟨_, rfl, .ranSettled found batch (.of_eq rfl rfl rfl rfl rfl rfl)⟩

/-- Running the teardowns of the next key that has left its list. -/
theorem discharge_turns (machine : Machine) (realm : RealmRef) (keys : List Key)
    (reply : Reply) :
    (machine.discharge realm keys).Turns machine.world machine.stack [.discharge realm keys]
      (machine.resumeDeed (.discharge realm keys) reply) := by
  cases keys with
  | nil =>
    exact turns_popped rfl (by simp [Spent, Frame.isSpent]) (.refl _)
  | cons key keys =>
    dsimp only [discharge, resumeDeed, World.batch]
    cases batch : (machine.world.realm realm).teardowns.find? key with
    | none =>
      have none := (machine.push [.discharge realm keys]).runTeardowns_none batch
      exact ⟨_, by rw [none]; rfl, .dischargedEmpty batch (by rw [none]; exact .refl _)⟩
    | some waiting =>
      have some := (machine.push [.discharge realm keys]).runTeardowns_some batch
      rw [some]
      exact ⟨_, rfl, .ranDischarged batch (.of_eq rfl rfl rfl rfl rfl rfl)⟩

/-- Going on with a frame. -/
theorem resume_turns (machine : Machine) (frame : Frame) (reply : Reply) :
    (machine.resume frame reply).Turns machine.world machine.stack [frame]
      (machine.resumeDeed frame reply) := by
  have quiet {frame : Frame} {after : Machine} (above : after.stack = machine.stack)
      (spent : frame.isSpent = true) (alike : machine.world.Alike after.world) :
      after.Turns machine.world machine.stack [frame] .quiet :=
    turns_popped above (by simpa [Spent] using spent) alike
  have bare : machine.stack = [] ++ machine.stack := rfl
  cases frame with
  | body actions =>
    cases actions with
    | nil => exact quiet rfl rfl (.refl _)
    | cons action actions => exact body_turns machine action actions
  | finish action =>
    refine quiet rfl rfl ?_
    dsimp only [resume, finish, proceed, answer, withWorld]
    split
    · exact .refl _
    · exact .of_eq rfl rfl rfl rfl rfl rfl
  | answer | yield | restore | attempt | shield | boundary | operating =>
    exact quiet rfl rfl (.refl _)
  | scope realm key => exact ⟨[], rfl, .closed (.refl _)⟩
  | borrowed container => exact ⟨[], rfl, .released (.refl _)⟩
  | store container =>
    dsimp only [resume, store, resumeDeed]
    cases held : machine.world.isBorrowed container with
    | true => exact quiet rfl rfl (.refl _)
    | false => exact ⟨_, rfl, .stored held (.refl _)⟩
  | replace container => exact replace_turns machine container reply.content
  | notify container notice =>
    exact ⟨_, rfl, .notified (.of_eq rfl rfl rfl rfl rfl rfl)⟩
  | dispatch container notice waiting =>
    exact dispatch_turns machine container notice waiting reply
  | announce container key item position => exact ⟨_, rfl, .announced (.refl _)⟩
  | settle container key => exact settle_turns machine container key reply
  | discharge realm keys => exact discharge_turns machine realm keys reply
  | teardown realm key waiting =>
    cases waiting with
    | nil => exact quiet rfl rfl (.refl _)
    | cons teardown waiting =>
      exact ⟨_, rfl, .tornDown (.of_eq rfl rfl rfl rfl rfl rfl)⟩
  | search container position items body test =>
    exact search_turns bare Plain.nil (Plain.cons rfl Plain.nil) container position items body
      test
  | verdict container position items body test =>
    exact verdict_turns bare Plain.nil (Plain.cons rfl Plain.nil) container position items body
      test reply.content

/-- Leaving a frame because of a failure. -/
theorem unwind_turns (machine : Machine) (frame : Frame) (failure : Failure) :
    (machine.unwind frame failure).Turns machine.world machine.stack [frame]
      (unwindDeed frame) := by
  cases frame with
  | scope realm key => exact ⟨[], rfl, .closed (.refl _)⟩
  | borrowed container => exact ⟨[], rfl, .released (.refl _)⟩
  | shield =>
    dsimp only [unwind]
    split
    · exact ⟨[], rfl, .abandoned (by simp) (by simp) (.refl _)⟩
    · exact ⟨[], rfl, .abandoned (by simp) (by simp) (.refl _)⟩
  | _ => exact ⟨[], rfl, .abandoned (by simp) (by simp) (.refl _)⟩

/-- Every step is a turn. -/
theorem step_turns {machine : Machine} {frame : Frame} {rest : List Frame}
    (top : machine.stack = frame :: rest) :
    machine.step.Turns machine.world rest [frame] machine.deed := by
  rcases machine with ⟨world, locals, stack, focus⟩
  cases top
  cases focus with
  | resume reply => exact resume_turns ⟨world, locals, rest, .resume reply⟩ frame reply
  | unwind failure => exact unwind_turns ⟨world, locals, rest, .unwind failure⟩ frame failure

end Machine

end Observables
