import Observables.Machine.Mutation

/-!
# Operations on containers

Which operations a container knows depends on its surface and on whether it
holds a list. An operation that it does not know, or whose argument does not
fit, is answered by a word and changes nothing.
-/

namespace Observables

open Script

/-- A container of the given surface, with or without elements, knows the operation. -/
def Script.Operation.isKnown {Body : Type} (operation : Operation Body) (surface : Surface)
    (isList : Bool) : Bool :=
  match operation with
  | .get | .set .. => true
  | .subscribe _ channel _ => !isList || channel.isSome
  | .observe | .borrow .. | .describe => surface == .direct
  | .subscriberCount => surface == .direct && !isList
  | .id | .isEmpty | .keys | .positionOf _ => surface == .direct && isList
  | .length | .keyAt _ | .push _ | .insertAt .. | .pop | .removeAt _ | .findAndRemove .. => isList
  | .holdsValue => surface == .shielded && !isList
  | .holdsElements => surface == .shielded && isList
  | .unknown => false

namespace Machine

/-- Answer that what is named does not exist. -/
def missing (machine : Machine) : Machine := machine.answer (.text "missing")

/-- Answer that what is asked does not fit. -/
def unsuitable (machine : Machine) : Machine := machine.answer (.text "badarg")

/-- Go on with a position, if the value of the expression is one. -/
def atPosition (machine : Machine) (position : Expression) (next : Nat → Machine) : Machine :=
  match (machine.evaluate position).position? with
  | none => machine.unsuitable
  | some position => next position

/-- What holds where the value is no position, and for every position, holds of going on. -/
@[elab_as_elim]
theorem atPosition_elim {motive : Machine → Prop} {machine : Machine} {position : Expression}
    {next : Nat → Machine} (unsuitable : motive machine.unsuitable)
    (found : ∀ place, (machine.evaluate position).position? = some place → motive (next place)) :
    motive (machine.atPosition position next) := by
  unfold atPosition
  cases value : (machine.evaluate position).position? with
  | none => exact unsuitable
  | some place => exact found place value

/-- Subscribe a body and answer the number of the subscription. A shielded
container keeps the number to itself. -/
def subscribe (machine : Machine) (container : ContainerRef) (tag : Expression)
    (channel : Channel) (body : List Action) : Machine :=
  let tag := machine.evaluateName tag
  let surface := (machine.world.container container).surface
  let id := machine.world.nextSubscriptionId (machine.world.realmOf container)
  let callback : Callback := ⟨tag, surface, body, machine.locals⟩
  let world := machine.world.subscribe container channel callback
  let world := world.keepHandle tag ⟨id, container, channel, surface⟩
  (machine.withWorld world).answer (match surface with
    | .direct => .nat id
    | .shielded => .null)

/-- Carry out an operation that the container knows. -/
def operate (machine : Machine) (container : ContainerRef)
    (operation : Operation (List Action)) : Machine :=
  let held := machine.world.container container
  match operation with
  | .get | .observe => machine.answer held.value
  | .borrow body result => machine.withBorrow container body result
  | .set body result => machine.set container body result
  | .subscribe tag channel body =>
    let channel := if held.contents.isList then channel.getD .change else .change
    machine.subscribe container tag channel body
  | .subscriberCount => machine.answer (.nat held.changes.size)
  | .describe => machine.answer (.text held.describe)
  | .id => machine.answer (.nat held.keys.container)
  | .length => machine.answer (.nat held.items.length)
  | .isEmpty => machine.answer (.bool held.items.isEmpty)
  | .keys => machine.answer (.list (held.keys.inUse.map .key))
  | .keyAt position =>
    machine.atPosition position fun position =>
      machine.answer (.optional .key (held.keys.keyAt? position))
  | .positionOf key =>
    match (machine.evaluate key).key? with
    | none => machine.unsuitable
    | some key => machine.answer (.optional .nat (held.keys.positionOf? key))
  | .push item => machine.append container (machine.evaluate item)
  | .insertAt position item =>
    machine.atPosition position fun position =>
      machine.insertAt container position (machine.evaluate item)
  | .pop => machine.pop container
  | .removeAt position =>
    machine.atPosition position fun position => machine.removeAt container position
  | .findAndRemove body test => machine.search container 0 held.items body test
  | .holdsValue | .holdsElements => machine.answer (.bool true)
  | .unknown => machine.unsuitable

/-- Operate on the container of a name. It exists until the operation ends. -/
def operateOn (machine : Machine) (name : String) (operation : Operation (List Action)) :
    Machine :=
  match machine.world.names.find? name with
  | none => machine.missing
  | some container =>
    let held := machine.world.container container
    if operation.isKnown held.surface held.contents.isList then
      (machine.push [.operating container]).operate container operation
    else machine.unsuitable

/-- What holds where the container is missing, where it does not know the operation, and where
it carries the operation out, holds of operating on the container of a name. -/
@[elab_as_elim]
theorem operateOn_elim {motive : Machine → Prop} {machine : Machine} {name : String}
    {operation : Operation (List Action)} (missing : motive machine.missing)
    (unsuitable : motive machine.unsuitable)
    (operated : ∀ container, machine.world.names.find? name = some container →
      operation.isKnown (machine.world.container container).surface
        (machine.world.container container).contents.isList = true →
      motive ((machine.push [.operating container]).operate container operation)) :
    motive (machine.operateOn name operation) := by
  unfold operateOn
  cases named : machine.world.names.find? name with
  | none => exact missing
  | some container =>
    dsimp only
    split
    · next known => exact operated container named known
    · exact unsuitable

end Machine

end Observables
