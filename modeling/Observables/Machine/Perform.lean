import Observables.Machine.Operate

/-!
# Performing actions

The first step of every action. What takes more than one step leaves frames
on the stack.
-/

namespace Observables.Machine

open Script

/-- The container of a name that shares its realm with scripts. -/
def directContainer? (machine : Machine) (name : String) : Option ContainerRef :=
  (machine.world.names.find? name).filter fun container =>
    (machine.world.container container).surface == .direct

/-- The realm of a name. Two names have a meaning of their own: the current
realm, and the realm of a container. -/
def realmNamed? (machine : Machine) (name : String) : Option RealmRef :=
  if name = "@current" then some machine.world.current
  else if name.startsWith "@of:" then
    (machine.directContainer? (name.drop 4).toString).map machine.world.realmOf
  else machine.world.realmNames.find? name

/-- The realm that an action names, or the current one. -/
def realm? (machine : Machine) : Option Expression → Option RealmRef
  | none => some machine.world.current
  | some name => machine.realmNamed? (machine.evaluateName name)

/-- Go on with the realm that an action names, if there is one. -/
def inRealm (machine : Machine) (name : Option Expression) (next : RealmRef → Machine) :
    Machine :=
  match machine.realm? name with
  | none => machine.missing
  | some realm => next realm

/-- What holds where there is no such realm, and for every realm that can be named, holds of
going on. -/
@[elab_as_elim]
theorem inRealm_elim {motive : Machine → Prop} {machine : Machine} {name : Option Expression}
    {next : RealmRef → Machine} (missing : motive machine.missing)
    (found : ∀ realm, machine.realm? name = some realm → motive (next realm)) :
    motive (machine.inRealm name next) := by
  unfold inRealm
  cases named : machine.realm? name with
  | none => exact missing
  | some realm => exact found realm named

/-- Go on with a key, if the value of the expression is the text of one. -/
def withKeyOf (machine : Machine) (key : Expression) (next : Key → Machine) : Machine :=
  match (machine.evaluate key).key? with
  | none => machine.unsuitable
  | some key => next key

/-- What holds where the value is no key, and for every key, holds of going on. -/
@[elab_as_elim]
theorem withKeyOf_elim {motive : Machine → Prop} {machine : Machine} {key : Expression}
    {next : Key → Machine} (unsuitable : motive machine.unsuitable)
    (found : ∀ read, (machine.evaluate key).key? = some read → motive (next read)) :
    motive (machine.withKeyOf key next) := by
  unfold withKeyOf
  cases value : (machine.evaluate key).key? with
  | none => exact unsuitable
  | some read => exact found read value

/-- Answer a question to a realm. -/
def askRealm (machine : Machine) (realm : RealmRef) : RealmQuery → Machine
  | .label => machine.answer (.optional .text (machine.world.realm realm).label)
  | .nextSubscription =>
    (machine.withWorld (machine.world.takeSubscriptionId realm)).answer
      (.nat (machine.world.nextSubscriptionId realm))
  | .nextContainer =>
    (machine.withWorld (machine.world.takeListId realm)).answer
      (.nat (machine.world.nextListId realm))
  | .tracked => machine.answer (.nat (machine.world.realm realm).teardowns.tracked)
  | .describe => machine.answer (.text (machine.world.realm realm).describe)
  | .activeKey => machine.answer (.optional .key (machine.world.realm realm).activeKey?)

/-- Run a body the first few times only. Every arrival counts, also one that
does not run the body. -/
def limit (machine : Machine) (id : String) (times : Nat) (body : List Action) : Machine :=
  let arrivals := (machine.world.arrivals.find? id).getD 0
  let machine := machine.withWorld
    { machine.world with arrivals := machine.world.arrivals.insert id (arrivals + 1) }
  if arrivals < times then machine.push [.body body] else machine.proceed

/-- What holds where the body is run and where it is not, whatever has been counted, holds of
running it a limited number of times. -/
@[elab_as_elim]
theorem limit_elim {motive : Machine → Prop} {machine : Machine} {id : String} {times : Nat}
    {body : List Action}
    (runs : ∀ arrivals, motive
      ((machine.withWorld { machine.world with arrivals }).push [.body body]))
    (skips : ∀ arrivals, motive (machine.withWorld { machine.world with arrivals }).proceed) :
    motive (machine.limit id times body) := by
  unfold limit
  dsimp only
  split
  · exact runs _
  · exact skips _

/-- Answer a question to a handle, or follow an order to it. -/
def askHandle (machine : Machine) (name : String) (query : HandleQuery) : Machine :=
  match machine.world.handles.find? name, query with
  | handle?, .forget =>
    (machine.withWorld
      { machine.world with handles := machine.world.handles.erase name }).answer
        (.bool handle?.isSome)
  | none, _ => machine.missing
  | some handle, .unsubscribe =>
    let (found, world) :=
      if machine.isAlive handle.container then machine.world.unsubscribe handle
      else (false, machine.world)
    (machine.withWorld world).answer (match handle.surface with
      | .direct => .bool found
      | .shielded => .undefined)
  | some handle, .id =>
    match handle.surface with
    | .direct => machine.answer (.nat handle.id)
    | .shielded => machine.unsuitable
  | some handle, .describe =>
    match handle.surface with
    | .direct => machine.answer (.text handle.describe)
    | .shielded => machine.unsuitable

/-- Make a list from a value. A shielded list refuses other values by
throwing, a direct one by a word. -/
def makeList (machine : Machine) (name : String) (value : Value) (realm : RealmRef)
    (surface : Surface) : Machine :=
  match surface, value.toContents with
  | .direct, .error _ => machine.unsuitable
  | .direct, .ok items =>
    let id := machine.world.nextListId realm
    (machine.withWorld (machine.world.makeList name realm surface items)).answer (.nat id)
  | .shielded, .error error =>
    (machine.withWorld (machine.world.trace (.contentsRejected error))).throw (.text error.text)
  | .shielded, .ok items =>
    (machine.withWorld (machine.world.makeList name realm surface items)).proceed

/-- Perform the command of an action whose container, if it has one, is named. -/
def command (machine : Machine) (subject : String) : Command (List Action) → Machine
  | .log value =>
    (machine.withWorld (machine.world.emit (.logged (machine.evaluate value)))).proceed
  | .evaluate value => machine.answer (machine.evaluate value)
  | .throw value => machine.throw (machine.evaluate value)
  | .branch condition yes no =>
    machine.push [.body (if (machine.evaluate condition).truthy then yes else no)]
  | .limit id times body => machine.limit (machine.evaluateName id) times body
  | .attempt body => machine.push [.body body, .attempt]
  | .openRealm name label firstId =>
    (machine.withWorld
      (machine.world.openRealm (machine.evaluateName name) label firstId)).proceed
  | .sameRealm left right =>
    machine.inRealm (some left) fun left => machine.inRealm (some right) fun right =>
      machine.answer (.bool (left == right))
  | .realm realm query => machine.inRealm realm fun realm => machine.askRealm realm query
  | .pending realm key =>
    machine.inRealm realm fun realm => machine.withKeyOf key fun key =>
      machine.answer (.nat ((machine.world.realm realm).teardowns.pending key).length)
  | .runTeardowns realm key =>
    machine.inRealm realm fun realm => machine.withKeyOf key fun key =>
      machine.runTeardowns realm key
  | .withKey realm key body =>
    machine.inRealm realm fun realm => machine.withKeyOf key fun key =>
      (machine.withWorld (machine.world.enter realm key)).push
        [.body body, .boundary, .scope realm key]
  | .register realm tag surface body =>
    machine.inRealm realm fun named =>
      let realm := match surface with
        | .direct => named
        | .shielded => machine.world.current
      let teardown : Callback := ⟨machine.evaluateName tag, surface, body, machine.locals⟩
      let (bound, world) := machine.world.register realm teardown
      (machine.withWorld world).answer (.bool bound)
  | .handle handle query => machine.askHandle (machine.evaluateName handle) query
  | .makeCell name value realm surface =>
    machine.inRealm realm fun realm =>
      (machine.withWorld (machine.world.makeCell (machine.evaluateName name) realm surface
        (machine.evaluate value))).proceed
  | .makeList name value realm surface =>
    machine.inRealm realm fun realm =>
      machine.makeList (machine.evaluateName name) (machine.evaluate value) realm surface
  | .drop name =>
    let name := machine.evaluateName name
    (machine.withWorld
      { machine.world with names := machine.world.names.erase name }).answer
        (.bool (machine.world.names.contains name))
  | .alias name =>
    match machine.world.names.find? subject with
    | none => machine.missing
    | some container =>
      (machine.withWorld { machine.world with
        names := machine.world.names.insert (machine.evaluateName name) container }).proceed
  | .operate operation => machine.operateOn subject operation

/-- The name of the container that an action is about; the name of null where it has none. -/
def subjectName (machine : Machine) (action : Action) : String :=
  machine.evaluateName (action.subject.getD (.literal .null))

/-- Perform the first step of an action. -/
def perform (machine : Machine) (action : Action) : Machine :=
  machine.command (machine.subjectName action) action.command

end Observables.Machine
