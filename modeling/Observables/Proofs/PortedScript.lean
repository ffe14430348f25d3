import Observables.Proofs.PortedMachine

/-!
# Actions of two corresponding runs

An action may be performed in both runs if it uses the list in ways that both
surfaces offer and keeps its answer in a variable of the right form: it does
not ask a direct list for what a shielded one does not tell, nor for its
realm, nor a handle of the list for more than its end. Then the first step of
the action does the same in both.
-/

namespace Observables

open Script

namespace Script

/-- Both surfaces of a list know the operation, or neither does. -/
def Operation.isShared {Body : Type} (operation : Operation Body) : Bool :=
  operation.isKnown .direct true == operation.isKnown .shielded true

/-- The names of realms in a command. -/
def Command.realms {Body : Type} : Command Body → List Expression
  | .sameRealm left right => [left, right]
  | .realm name _ | .pending name _ | .runTeardowns name _ | .withKey name _ _
  | .register name _ _ _ | .makeCell _ _ name _ | .makeList _ _ name _ => name.toList
  | _ => []

variable {Body : Type} {reads : Expression → Expression → Prop} {runs : Body → Body → Prop}

/-- The same containers know operations that match. -/
theorem Operation.Matches.isKnown {operation other : Operation Body}
    (same : operation.Matches reads runs other) (surface : Surface) (isList : Bool) :
    other.isKnown surface isList = operation.isKnown surface isList := by
  cases same <;> rfl

end Script

namespace Port

variable (port : Port)

/-- The form of what an operation on a container answers. -/
def operationForm (machine : Machine) (container : ContainerRef) :
    Operation (List Action) → Form
  | .subscribe _ (some _) _ => if container = port.list then .token else .same
  | .pop | .findAndRemove _ _ => port.findings container
  | .removeAt position =>
    if (machine.evaluate position).position?.isSome then port.findings container else .same
  | _ => .same

/-- The form of what a handle answers. -/
def handleForm (machine : Machine) (name : String) : HandleQuery → Form
  | .unsubscribe =>
    match machine.world.handles.find? name with
    | none => .same
    | some held => if held.container = port.list then .token else .same
  | _ => .same

/-- The form of what a command answers. -/
def commandForm (machine : Machine) (subject : String) : Command (List Action) → Form
  | .operate operation =>
    match machine.world.names.find? subject with
    | none => .same
    | some container => port.operationForm machine container operation
  | .handle handle query => port.handleForm machine (machine.evaluateName handle) query
  | _ => .same

/-- The realm of the list is not asked for. -/
def spares (machine : Machine) (realm : Expression) : Bool :=
  let name := machine.evaluateName realm
  !name.startsWith "@of:" ||
    machine.world.names.find? (name.drop 4).toString != some port.list

/-- The handle is not one of the list, unless the list's subscription is to end or to be
forgotten. -/
def suitsHandle (machine : Machine) (name : String) (query : HandleQuery) : Bool :=
  query == .unsubscribe || query == .forget ||
    (machine.world.handles.find? name).all (·.container != port.list)

/-- The list is used only in ways that both surfaces offer. -/
def suits (machine : Machine) (subject : String) : Command (List Action) → Bool
  | .operate operation =>
    machine.world.names.find? subject != some port.list || operation.isShared
  | .handle handle query => port.suitsHandle machine (machine.evaluateName handle) query
  | command => command.realms.all (port.spares machine)

/-- Both runs may perform the action. -/
def admits (machine : Machine) (action : Action) : Bool :=
  let subject := machine.subjectName action
  port.suits machine subject action.command &&
    action.result.all fun name => port.form name == port.commandForm machine subject action.command

variable {port}

/-- A search in a container other than the list answers the same in both runs. -/
theorem findings_of_ne {container : ContainerRef} (apart : container ≠ port.list) :
    port.findings container = .same := if_neg apart

/-- Operations that the list does not know are answered alike, and so are all operations on
other containers. -/
theorem operationForm_eq_same (machine : Machine) {container : ContainerRef}
    {operation : Operation (List Action)}
    (unknown : container = port.list → operation.isKnown .direct true = false) :
    port.operationForm machine container operation = .same := by
  have apart (known : operation.isKnown .direct true = true) : container ≠ port.list := by
    intro here
    rw [unknown here] at known
    cases known
  cases operation with
  | subscribe tag channel body =>
    cases channel with
    | none => rfl
    | some channel => exact if_neg (apart rfl)
  | pop => exact findings_of_ne (apart rfl)
  | findAndRemove body test => exact findings_of_ne (apart rfl)
  | removeAt position =>
    unfold operationForm
    dsimp only
    rw [findings_of_ne (apart rfl), ite_self]
  | _ => rfl

namespace Stands

variable {outer form : Form} {awaited : Option Form} {left right : Machine}

/-- Both go on with the same answer, however they came by it. -/
theorem answer_of_eq (stands : port.Stands outer (some .same) left right) {value other : Value}
    (same : other = value) : port.Machines outer (left.answer value) (right.answer other) :=
  same ▸ stands.answer_corresponds _

/-- Both go on with the same position, or neither is given one. -/
theorem atPosition_corresponds (stands : port.Stands outer awaited left right)
    {position place : Expression} (reads : port.Reads position place) {next other : Nat → Machine}
    (refused : (left.evaluate position).position? = none →
      port.Stands outer (some .same) left right)
    (goes : ∀ found, (left.evaluate position).position? = some found →
      left.atPosition position next = next found → port.Machines outer (next found) (other found)) :
    port.Machines outer (left.atPosition position next) (right.atPosition place other) := by
  unfold Machine.atPosition at *
  rw [stands.evaluate_eq reads]
  cases found : (left.evaluate position).position? with
  | none => exact (refused found).answer_corresponds _
  | some position =>
    rw [found] at goes
    exact goes position rfl rfl

/-- Both subscribe a body. The shielded run keeps the numbers of the list's subscriptions to
itself. -/
theorem subscribe_corresponds {container : ContainerRef}
    (stands : port.Stands outer (some (if container = port.list then .token else .same))
      left right)
    {tag name : Expression} (alike : port.Reads tag name) (channel : Channel)
    {body other : List Action} (bodies : port.Bodies body other) :
    port.Machines outer (left.subscribe container tag channel body)
      (right.subscribe container name channel other) := by
  have worlds := stands.worlds
  have named := stands.evaluateName_eq alike
  unfold Machine.subscribe
  dsimp only
  rw [named, worlds.realmOf, worlds.nextSubscriptionId]
  by_cases here : container = port.list
  · have surface : (left.world.container container).surface = .direct := here ▸ worlds.direct
    have second : (right.world.container container).surface = .shielded := here ▸ worlds.shielded
    have callbacks : port.Callbacks ⟨left.evaluateName tag, .direct, body, left.locals⟩
        ⟨left.evaluateName tag, .shielded, other, right.locals⟩ :=
      ⟨rfl, .inr ⟨rfl, rfl⟩, bodies, stands.locals⟩
    have kept := (worlds.subscribe container channel callbacks).keepHandle
      (left.evaluateName tag)
      ⟨left.world.nextSubscriptionId (left.world.realmOf container), container, channel, .direct⟩
      fun _ => rfl
    rw [Port.handle, if_pos here] at kept
    rw [if_pos here] at stands
    rw [surface, second]
    exact (stands.withWorld kept).answers (.subscribed _)
  · have callbacks : port.Callbacks
        ⟨left.evaluateName tag, (left.world.container container).surface, body, left.locals⟩
        ⟨left.evaluateName tag, (left.world.container container).surface, other, right.locals⟩ :=
      ⟨rfl, .inl rfl, bodies, stands.locals⟩
    have kept := (worlds.subscribe container channel callbacks).keepHandle
      (left.evaluateName tag)
      ⟨left.world.nextSubscriptionId (left.world.realmOf container), container, channel,
        (left.world.container container).surface⟩
      fun there => absurd there here
    rw [Port.handle, if_neg here] at kept
    rw [if_neg here] at stands
    rw [worlds.container_of_ne here]
    exact (stands.withWorld kept).answer_corresponds _

/-- Both carry out an operation that reads no expressions. -/
theorem bare_corresponds {container : ContainerRef} {operation : Operation (List Action)}
    (stands : port.Stands outer (some (port.operationForm left container operation)) left right)
    (bare : operation.isBare = true)
    (known : container = port.list → operation.isKnown .shielded true = true)
    (calm : ¬ (left.operate container operation).HasCollided) :
    port.Machines outer (left.operate container operation)
      (right.operate container operation) := by
  have worlds := stands.worlds
  have items := worlds.items container
  have keys := worlds.keys container
  have changes : (right.world.container container).changes =
      (left.world.container container).changes := worlds.registry container .change
  cases operation with
  | get | observe => exact stands.answer_of_eq (worlds.value container)
  | subscriberCount => exact stands.answer_of_eq (by rw [changes])
  | describe =>
    have apart : container ≠ port.list := fun here => by cases known here
    exact stands.answer_of_eq (by rw [worlds.container_of_ne apart])
  | id | keys => exact stands.answer_of_eq (by rw [keys])
  | length | isEmpty => exact stands.answer_of_eq (by rw [items])
  | pop => exact pop_corresponds stands calm
  | holdsValue | holdsElements | unknown => exact stands.answer_corresponds _
  | _ => cases bare

/-- Both carry out an operation that the container knows. -/
theorem operate_corresponds {container : ContainerRef} {operation other : Operation (List Action)}
    (stands : port.Stands outer (some (port.operationForm left container operation)) left right)
    (same : operation.Matches port.Reads port.Bodies other)
    (known : container = port.list → operation.isKnown .shielded true = true)
    (calm : ¬ (left.operate container operation).HasCollided) :
    port.Machines outer (left.operate container operation) (right.operate container other) := by
  have worlds := stands.worlds
  have items := worlds.items container
  have keys := worlds.keys container
  have isList : (right.world.container container).contents.isList =
      (left.world.container container).contents.isList := congrArg _ (worlds.contents _)
  cases same with
  | bare bare => exact bare_corresponds stands bare known calm
  | borrow bodies alike =>
    have apart : container ≠ port.list := fun here => by cases known here
    exact withBorrow_corresponds stands apart bodies alike
  | set bodies alike => exact set_corresponds stands container bodies alike
  | @subscribe _ _ channel _ _ alike bodies =>
    unfold Machine.operate
    dsimp only
    rw [isList]
    cases channel with
    | none =>
      have apart : container ≠ port.list := fun here => by cases known here
      refine subscribe_corresponds ?_ alike _ bodies
      rw [if_neg apart]
      exact stands
    | some channel => exact subscribe_corresponds stands alike _ bodies
  | keyAt alike =>
    exact stands.atPosition_corresponds alike (fun _ => stands)
      fun found _ _ => stands.answer_of_eq (by rw [keys])
  | positionOf alike =>
    unfold Machine.operate
    dsimp only
    rw [stands.evaluate_eq alike, keys]
    split
    · exact stands.answer_corresponds _
    · exact stands.answer_corresponds _
  | push alike =>
    unfold Machine.operate Machine.append at *
    dsimp only at calm ⊢
    rw [stands.evaluate_eq alike, items]
    exact stands.insertAt_corresponds container _ _ calm
  | insertAt there alike =>
    unfold Machine.operate at *
    dsimp only at calm ⊢
    rw [stands.evaluate_eq alike]
    refine stands.atPosition_corresponds there (fun _ => stands) fun found _ same => ?_
    rw [same] at calm
    exact stands.insertAt_corresponds container found _ calm
  | @removeAt position _ alike =>
    unfold Machine.operate operationForm at *
    dsimp only at stands calm ⊢
    refine stands.atPosition_corresponds alike (fun none => ?_) fun found given same => ?_
    · rw [none] at stands
      exact stands
    · rw [given] at stands
      rw [same] at calm
      exact removeAt_corresponds stands found calm
  | findAndRemove bodies alike =>
    unfold Machine.operate
    dsimp only
    rw [items]
    exact search_corresponds stands 0 _ bodies alike

/-- Both operate on the container of a name, or neither can. -/
theorem operateOn_corresponds {subject : String} {operation other : Operation (List Action)}
    (stands : port.Stands outer (some (port.commandForm left subject (.operate operation)))
      left right)
    (same : operation.Matches port.Reads port.Bodies other)
    (suits : port.suits left subject (.operate operation) = true)
    (calm : ¬ (left.operateOn subject operation).HasCollided) :
    port.Machines outer (left.operateOn subject operation)
      (right.operateOn subject other) := by
  have worlds := stands.worlds
  unfold Machine.operateOn Port.suits commandForm at *
  rw [worlds.names]
  dsimp only at *
  cases named : left.world.names.find? subject with
  | none =>
    rw [named] at stands
    exact stands.answer_corresponds _
  | some container =>
    rw [named] at stands calm suits
    dsimp only at *
    have list (here : container = port.list) :
        operation.isKnown (left.world.container container).surface
          (left.world.container container).contents.isList = operation.isKnown .direct true ∧
        operation.isKnown .direct true = operation.isKnown .shielded true := by
      subst here
      rw [worlds.direct, worlds.isList]
      exact ⟨rfl, by simpa [Operation.isShared] using suits⟩
    have knows : other.isKnown (right.world.container container).surface
        (right.world.container container).contents.isList =
        operation.isKnown (left.world.container container).surface
          (left.world.container container).contents.isList := by
      rw [same.isKnown]
      by_cases here : container = port.list
      · rw [(list here).1, (list here).2, here, worlds.contents, worlds.shielded, worlds.isList]
      · rw [worlds.container_of_ne here]
    rw [knows]
    split
    · next known =>
      rw [if_pos known] at calm
      refine operate_corresponds (stands.pushed (.operating stands.aligned)) same
        (fun here => ?_) calm
      rw [← (list here).2, ← (list here).1, known]
    · next unknown =>
      have form : port.operationForm left container operation = .same :=
        operationForm_eq_same left fun here => by
          rw [← (list here).1]
          exact Bool.eq_false_iff.mpr unknown
      rw [form] at stands
      exact stands.answer_corresponds _

/-- The same realm is meant, unless it is that of the list. -/
theorem realmNamed?_eq (stands : port.Stands outer awaited left right) {name other : Expression}
    (reads : port.Reads name other) (spares : port.spares left name = true) :
    right.realmNamed? (right.evaluateName other) = left.realmNamed? (left.evaluateName name) := by
  have worlds := stands.worlds
  unfold Machine.realmNamed? Port.spares Machine.directContainer? at *
  rw [stands.evaluateName_eq reads, worlds.current, worlds.realmNames, worlds.names]
  generalize left.evaluateName name = called at *
  split
  · rfl
  · split
    · next starts =>
      cases named : left.world.names.find? (called.drop 4).toString with
      | none => rfl
      | some container =>
        have apart : container ≠ port.list := by
          dsimp only at spares
          rw [starts, named] at spares
          simpa using spares
        have realm : right.world.realmOf = left.world.realmOf := funext worlds.realmOf
        rw [realm, Option.filter_some, Option.filter_some, worlds.container_of_ne apart]
    · rfl

/-- Both go on with the same realm, or neither finds it. -/
theorem inRealm_corresponds (stands : port.Stands outer (some .same) left right)
    {name other : Option Expression} (reads : Option.Rel port.Reads name other)
    (spares : name.toList.all (port.spares left) = true) {next second : RealmRef → Machine}
    (goes : ∀ realm, port.Machines outer (next realm) (second realm)) :
    port.Machines outer (left.inRealm name next) (right.inRealm other second) := by
  have same : right.realm? other = left.realm? name := by
    cases reads with
    | none => exact congrArg some stands.worlds.current
    | some reads => exact stands.realmNamed?_eq reads (by simpa using spares)
  unfold Machine.inRealm
  rw [same]
  split
  · exact stands.answer_corresponds _
  · exact goes _

/-- Both go on with the same key, or neither is given one. -/
theorem withKeyOf_corresponds (stands : port.Stands outer (some .same) left right)
    {key other : Expression} (reads : port.Reads key other) {next second : Key → Machine}
    (goes : ∀ key, port.Machines outer (next key) (second key)) :
    port.Machines outer (left.withKeyOf key next) (right.withKeyOf other second) := by
  unfold Machine.withKeyOf
  rw [stands.evaluate_eq reads]
  split
  · exact stands.answer_corresponds _
  · exact goes _

/-- Both go on with the same key of the same realm, or one of the two is missing in both. -/
theorem atKey_corresponds (stands : port.Stands outer (some .same) left right)
    {name other : Option Expression} (there : Option.Rel port.Reads name other)
    (spares : name.toList.all (port.spares left) = true) {key read : Expression}
    (alike : port.Reads key read) {next second : RealmRef → Key → Machine}
    (goes : ∀ realm key, port.Machines outer (next realm key) (second realm key)) :
    port.Machines outer
      (left.inRealm name fun realm => left.withKeyOf key fun key => next realm key)
      (right.inRealm other fun realm => right.withKeyOf read fun key => second realm key) :=
  stands.inRealm_corresponds there spares fun realm =>
    stands.withKeyOf_corresponds alike fun key => goes realm key

/-- Both tell whether two names mean the same realm. -/
theorem sameRealm_corresponds (stands : port.Stands outer (some .same) left right)
    {first second one two : Expression} (alike : port.Reads first one)
    (also : port.Reads second two)
    (spares : ([first, second]).all (port.spares left) = true) :
    port.Machines outer
      (left.inRealm (some first) fun realm => left.inRealm (some second) fun other =>
        left.answer (.bool (realm == other)))
      (right.inRealm (some one) fun realm => right.inRealm (some two) fun other =>
        right.answer (.bool (realm == other))) := by
  have spared := List.all_eq_true.mp spares
  refine stands.inRealm_corresponds (.some alike) ?_ fun realm =>
    stands.inRealm_corresponds (.some also) ?_ fun other => stands.answer_corresponds _
  · simpa using spared _ List.mem_cons_self
  · simpa using spared _ (List.mem_cons_of_mem _ List.mem_cons_self)

/-- A realm answers the same in both runs. -/
theorem askRealm_corresponds (stands : port.Stands outer (some .same) left right) (realm : RealmRef)
    (query : RealmQuery) :
    port.Machines outer (left.askRealm realm query) (right.askRealm realm query) := by
  have worlds := stands.worlds
  have realms := worlds.realm realm
  cases query with
  | label => exact stands.answer_of_eq (by rw [realms.label])
  | nextSubscription =>
    exact (stands.withWorld (worlds.takeSubscriptionId realm)).answer_of_eq
      (by rw [worlds.nextSubscriptionId])
  | nextContainer =>
    exact (stands.withWorld (worlds.takeListId realm)).answer_of_eq (by rw [worlds.nextListId])
  | tracked => exact stands.answer_of_eq (by rw [realms.tracked])
  | describe => exact stands.answer_of_eq (by rw [realms.describe])
  | activeKey =>
    exact stands.answer_of_eq (by rw [Realm.activeKey?, realms.active]; rfl)

/-- Both run a limited body, or neither does. -/
theorem limit_corresponds (stands : port.Stands outer (some .same) left right) (id : String)
    (times : Nat) {body other : List Action} (bodies : port.Bodies body other) :
    port.Machines outer (left.limit id times body) (right.limit id times other) := by
  have counted := stands.withWorld (stands.worlds.withArrivals
    (left.world.arrivals.insert id ((left.world.arrivals.find? id).getD 0 + 1)))
  unfold Machine.limit
  rw [stands.worlds.arrivals]
  dsimp only
  split
  · exact counted.push_corresponds (.body bodies stands.aligned)
  · exact counted.proceed_corresponds

/-- Both end a subscription, or find none. Shielded handles do not tell which. -/
theorem unsubscribe_corresponds {held : Handle}
    (stands : port.Stands outer (some (if held.container = port.list then .token else .same))
      left right)
    (direct : held.container = port.list → held.surface = .direct) :
    port.Machines outer
      (let (found, world) :=
        if left.isAlive held.container then left.world.unsubscribe held
        else (false, left.world)
      (left.withWorld world).answer (match held.surface with
        | .direct => .bool found
        | .shielded => .undefined))
      (let (found, world) :=
        if right.isAlive (port.handle held).container then
          right.world.unsubscribe (port.handle held)
        else (false, right.world)
      (right.withWorld world).answer (match (port.handle held).surface with
        | .direct => .bool found
        | .shielded => .undefined)) := by
  have container : (port.handle held).container = held.container := by
    unfold Port.handle
    split <;> rfl
  rw [container, stands.isAlive_eq]
  have ends : (if left.isAlive held.container then right.world.unsubscribe (port.handle held)
        else (false, right.world)).1 =
      (if left.isAlive held.container then left.world.unsubscribe held
        else (false, left.world)).1 ∧
      port.Worlds
        (if left.isAlive held.container then left.world.unsubscribe held
          else (false, left.world)).2
        (if left.isAlive held.container then right.world.unsubscribe (port.handle held)
          else (false, right.world)).2 := by
    split
    · exact stands.worlds.unsubscribe held
    · exact ⟨rfl, stands.worlds⟩
  dsimp only
  rw [ends.1]
  have changed := stands.withWorld ends.2
  by_cases here : held.container = port.list
  · have shielded : (port.handle held).surface = .shielded := by rw [Port.handle, if_pos here]
    rw [if_pos here] at changed
    rw [direct here, shielded]
    exact changed.answers (.ended _)
  · have same : port.handle held = held := if_neg here
    rw [if_neg here] at changed
    rw [same] at changed ⊢
    exact changed.answer_corresponds _

/-- Handles answer correspondingly in both runs. -/
theorem askHandle_corresponds {name : String} {query : HandleQuery}
    (stands : port.Stands outer (some (port.handleForm left name query)) left right)
    (suits : port.suitsHandle left name query = true) :
    port.Machines outer (left.askHandle name query) (right.askHandle name query) := by
  have worlds := stands.worlds
  have found := worlds.handle name
  unfold Machine.askHandle suitsHandle handleForm at *
  rw [found]
  cases known : left.world.handles.find? name with
  | none =>
    rw [known] at stands
    cases query with
    | forget => exact (stands.withWorld (worlds.forgetHandle _)).answer_corresponds _
    | unsubscribe | id | describe => exact stands.answer_corresponds _
  | some held =>
    rw [known] at stands suits
    have same (apart : (held.container != port.list) = true) : port.handle held = held :=
      if_neg (bne_iff_ne.mp apart)
    cases query with
    | forget => exact (stands.withWorld (worlds.forgetHandle _)).answer_corresponds _
    | id | describe =>
      rw [Option.map_some, same suits]
      dsimp only
      split
      · exact stands.answer_corresponds _
      · exact stands.answer_corresponds _
    | unsubscribe => exact unsubscribe_corresponds stands (worlds.directHandle _ _ known)

/-- Both make a list, or refuse to. -/
theorem makeList_corresponds (stands : port.Stands outer (some .same) left right) (name : String)
    (value : Value) (realm : RealmRef) (surface : Surface) :
    port.Machines outer (left.makeList name value realm surface)
      (right.makeList name value realm surface) := by
  have worlds := stands.worlds
  unfold Machine.makeList
  cases value.toContents with
  | error error =>
    cases surface with
    | direct => exact stands.answer_corresponds _
    | shielded => exact (stands.withWorld (worlds.trace _)).fail_corresponds _
  | ok items =>
    have made := stands.withWorld (worlds.makeList name realm surface items)
    cases surface with
    | direct => exact made.answer_of_eq (by rw [worlds.nextListId])
    | shielded => exact made.proceed_corresponds

/-- Both bind a teardown to the same key, or neither does. -/
theorem register_corresponds (stands : port.Stands outer (some .same) left right)
    {realm second : RealmRef} (there : second = realm) {callback other : Callback}
    (same : port.Callbacks callback other) :
    port.Machines outer
      ((left.withWorld (left.world.register realm callback).2).answer
        (.bool (left.world.register realm callback).1))
      ((right.withWorld (right.world.register second other).2).answer
        (.bool (right.world.register second other).1)) := by
  subst there
  obtain ⟨bound, worlds⟩ := stands.worlds.register second same
  exact (stands.withWorld worlds).answer_of_eq (by rw [bound])

/-- Both run the same branch. -/
theorem branch_corresponds (stands : port.Stands outer (some .same) left right)
    {condition other : Expression} (alike : port.Reads condition other)
    {yes no first second : List Action} (one : port.Bodies yes first)
    (two : port.Bodies no second) :
    port.Machines outer
      (left.push [.body (if (left.evaluate condition).truthy then yes else no)])
      (right.push [.body (if (right.evaluate other).truthy then first else second)]) := by
  rw [stands.evaluate_eq alike]
  split
  · exact stands.push_corresponds (.body one stands.aligned)
  · exact stands.push_corresponds (.body two stands.aligned)

/-- Both give a container another name, or neither finds it. -/
theorem alias_corresponds (stands : port.Stands outer (some .same) left right)
    {name other : Expression} (alike : port.Reads name other) (subject : String) :
    port.Machines outer (left.command subject (.alias name))
      (right.command subject (.alias other)) := by
  dsimp only [Machine.command]
  rw [stands.evaluateName_eq alike, stands.worlds.names]
  split
  · exact stands.answer_corresponds _
  · exact (stands.withWorld (stands.worlds.withNames _)).proceed_corresponds

/-- The first step of a command is the same in both runs. -/
theorem command_corresponds {subject : String} {command other : Command (List Action)}
    (stands : port.Stands outer (some (port.commandForm left subject command)) left right)
    (same : command.Matches port.Reads port.Bodies other)
    (suits : port.suits left subject command = true)
    (calm : ¬ (left.command subject command).HasCollided) :
    port.Machines outer (left.command subject command) (right.command subject other) := by
  have worlds := stands.worlds
  unfold Machine.command at *
  cases same with
  | log alike =>
    dsimp only
    rw [stands.evaluate_eq alike]
    exact (stands.withWorld (worlds.emit _)).proceed_corresponds
  | evaluate alike => exact stands.answer_of_eq (stands.evaluate_eq alike)
  | throw alike =>
    dsimp only
    rw [stands.evaluate_eq alike]
    exact stands.fail_corresponds _
  | branch alike first second => exact stands.branch_corresponds alike first second
  | limit alike bodies =>
    dsimp only
    rw [stands.evaluateName_eq alike]
    exact stands.limit_corresponds _ _ bodies
  | attempt bodies => exact stands.push_corresponds (.body bodies (.attempt stands.aligned))
  | openRealm alike =>
    dsimp only
    rw [stands.evaluateName_eq alike]
    exact (stands.withWorld (worlds.openRealm _ _ _)).proceed_corresponds
  | sameRealm one two => exact stands.sameRealm_corresponds one two suits
  | realm alike =>
    exact stands.inRealm_corresponds alike suits fun realm => stands.askRealm_corresponds realm _
  | pending there alike =>
    exact stands.atKey_corresponds there suits alike fun realm key =>
      stands.answer_of_eq (by rw [(worlds.realm realm).pending])
  | runTeardowns there alike =>
    exact stands.atKey_corresponds there suits alike stands.runTeardowns_corresponds
  | withKey there alike bodies =>
    exact stands.atKey_corresponds there suits alike fun realm key =>
      (stands.withWorld (worlds.enter realm key)).push_corresponds
        (.body bodies (.boundary rfl (.scope stands.aligned)))
  | @register _ _ _ _ surface _ _ there alike bodies =>
    refine stands.inRealm_corresponds there suits fun realm => ?_
    dsimp only
    rw [stands.evaluateName_eq alike, worlds.current]
    exact stands.register_corresponds rfl ⟨rfl, .inl rfl, bodies, stands.locals⟩
  | registerCurrent alike bodies =>
    exact stands.register_corresponds worlds.current
      ⟨stands.evaluateName_eq alike, .inr ⟨rfl, rfl⟩, bodies, stands.locals⟩
  | handle alike =>
    dsimp only
    rw [stands.evaluateName_eq alike]
    exact askHandle_corresponds stands suits
  | makeCell named alike there =>
    refine stands.inRealm_corresponds there suits fun realm => ?_
    rw [stands.evaluateName_eq named, stands.evaluate_eq alike]
    exact (stands.withWorld (worlds.makeContainer _ _)).proceed_corresponds
  | makeList named alike there =>
    refine stands.inRealm_corresponds there suits fun realm => ?_
    rw [stands.evaluateName_eq named, stands.evaluate_eq alike]
    exact stands.makeList_corresponds _ _ realm _
  | drop alike =>
    dsimp only
    rw [stands.evaluateName_eq alike, worlds.names]
    exact (stands.withWorld (worlds.withNames _)).answer_corresponds _
  | «alias» alike => exact stands.alias_corresponds alike subject
  | operate same => exact operateOn_corresponds stands same suits calm

/-- The first step of an action is the same in both runs. -/
theorem perform_corresponds {action other : Action}
    (stands : port.Stands outer
      (some (port.commandForm left (left.subjectName action) action.command)) left right)
    (same : port.Acts action other) (admits : port.admits left action = true)
    (calm : ¬ (left.perform action).HasCollided) :
    port.Machines outer (left.perform action) (right.perform other) := by
  cases same with
  | @intro verb result subject name command other named does =>
    have called : right.subjectName ⟨verb, result, name, other⟩ =
        left.subjectName ⟨verb, result, subject, command⟩ := by
      cases named with
      | none => exact stands.evaluateName_eq (.literal .null)
      | some reads => exact stands.evaluateName_eq reads
    have suits := (Bool.and_eq_true_iff.mp admits).1
    unfold Machine.perform at *
    rw [called]
    exact stands.command_corresponds does suits calm

end Stands

end Port

end Observables
