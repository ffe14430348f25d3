import Observables.Proofs.Course

/-!
# Estates

Several containers can live side by side in one run. An estate is what one of
them has to itself together with its scripts: its names, variables, counters
of limited bodies and handles of subscriptions. An action keeps to an estate
if it reads nothing that lies outside and acts on nothing outside. This is
judged when the action is performed, by the values that its expressions have
at that time, so nothing is asked of actions that are never performed. The
numbers of subscriptions come from a supply that containers share; scripts
that neither keep nor ask for them are discreet.
-/

namespace Observables

open Script

namespace Expression

variable (names : String → Bool)

/-- An expression reads only variables and containers that are allowed. Which containers it
reads depends on the values of its parts. -/
def staysWithin (held : String → Value) (locals : Variables) (readable : String → Bool) :
    Expression → Bool
  | .literal _ => true
  | .list parts => allStayWithin held locals readable parts
  | .variable name => readable name
  | .held name =>
    name.staysWithin held locals readable && names (name.evaluate held locals).joined
  | .apply _ operand => operand.staysWithin held locals readable
  | .map items name body =>
    items.staysWithin held locals readable &&
      match items.evaluate held locals with
      | .list items => items.all fun item =>
        body.staysWithin held (locals.insert name item) fun other =>
          other == name || readable other
      | _ => true
where
  /-- Several expressions read only what is allowed. -/
  allStayWithin (held : String → Value) (locals : Variables) (readable : String → Bool) :
      List Expression → Bool
    | [] => true
    | part :: parts =>
      part.staysWithin held locals readable && allStayWithin held locals readable parts

variable {names} {held second : String → Value}

mutual

/-- An expression has the same value wherever it reads the same. -/
theorem evaluate_congr (same : ∀ name, names name = true → second name = held name) :
    ∀ (expression : Expression) {readable : String → Bool} {locals others : Variables},
      (∀ name, readable name = true → others.find? name = locals.find? name) →
      expression.staysWithin names held locals readable = true →
      expression.evaluate second others = expression.evaluate held locals
  | .literal value, _, _, _, _, _ => rfl
  | .list parts, _, _, _, agree, within => by
    rw [evaluate, evaluate, evaluateAll_congr same parts agree within]
  | .variable name, _, _, _, agree, within => by
    rw [evaluate, evaluate, agree name within]
  | .held name, _, _, _, agree, within => by
    obtain ⟨inside, allowed⟩ := Bool.and_eq_true_iff.mp within
    rw [evaluate, evaluate, evaluate_congr same name agree inside, same _ allowed]
  | .apply operator operand, _, _, _, agree, within => by
    rw [evaluate, evaluate, evaluate_congr same operand agree within]
  | .map items name body, readable, locals, others, agree, within => by
    obtain ⟨inside, each⟩ := Bool.and_eq_true_iff.mp within
    rw [evaluate, evaluate, evaluate_congr same items agree inside]
    cases found : items.evaluate held locals with
    | list values =>
      rw [found] at each
      refine congrArg Value.list (List.map_congr_left fun item there => ?_)
      have within := List.all_eq_true.mp each item there
      refine evaluate_congr same body (fun other allowed => ?_) within
      rw [Directory.find?_insert, Directory.find?_insert]
      split
      · rfl
      · next apart =>
        rw [beq_false_of_ne apart, Bool.false_or] at allowed
        exact agree other allowed
    | _ => rfl

/-- Several expressions have the same values wherever they read the same. -/
theorem evaluateAll_congr (same : ∀ name, names name = true → second name = held name) :
    ∀ (parts : List Expression) {readable : String → Bool} {locals others : Variables},
      (∀ name, readable name = true → others.find? name = locals.find? name) →
      staysWithin.allStayWithin names held locals readable parts = true →
      evaluate.evaluateAll second others parts = evaluate.evaluateAll held locals parts
  | [], _, _, _, _, _ => rfl
  | part :: parts, _, _, _, agree, within => by
    obtain ⟨first, rest⟩ := Bool.and_eq_true_iff.mp within
    rw [evaluate.evaluateAll, evaluate.evaluateAll, evaluate_congr same part agree first,
      evaluateAll_congr same parts agree rest]

end

end Expression

/-- The number of the list whose keys the contents have; a cell has none. -/
def Contents.number? : Contents → Option Nat
  | .cell _ => none
  | .list _ keys => some keys.container

/-- The key is one of the container's, whether it is in use or not. -/
def World.isKeyOf (world : World) (container : ContainerRef) (realm : RealmRef) (key : Key) :
    Bool :=
  realm == world.realmOf container &&
    (world.container container).contents.number? == some key.container

/-- What a container and its scripts have to themselves. -/
structure Estate where
  /-- The container. -/
  container : ContainerRef
  /-- The names of the container that its scripts use. -/
  names : String → Bool
  /-- The variables that its scripts read, with those under which bodies find what they are
  given. -/
  reads : String → Bool
  /-- The variables that its scripts write. -/
  written : String → Bool
  /-- The counters of its limited bodies. -/
  counters : String → Bool
  /-- The names of its subscription handles. -/
  handles : String → Bool

namespace Estate

variable (estate : Estate) (machine : Machine)

/-- Two estates have nothing in common, and what the scripts of one write is not read by those
of the other. -/
structure Apart (one other : Estate) : Prop where
  /-- The containers are different. -/
  container : one.container ≠ other.container
  /-- What is written for the one is not read for the other. -/
  written : ∀ name, one.written name = true → other.reads name = false
  /-- Counters are not shared. -/
  counters : ∀ name, one.counters name = true → other.counters name = false
  /-- Handles are not shared. -/
  handles : ∀ name, one.handles name = true → other.handles name = false

/-- An expression reads nothing outside of the estate. -/
def covers (expression : Expression) : Bool :=
  expression.staysWithin estate.names machine.world.held machine.locals estate.reads

/-- The name of a realm is found without looking outside of the estate. -/
def coversRealm : Option Expression → Bool
  | none => true
  | some name =>
    let called := machine.evaluateName name
    estate.covers machine name &&
      (!called.startsWith "@of:" || estate.names (called.drop 4).toString)

/-- The key that an action is about, if there is one, belongs to the container. -/
def coversKey (realm : Option Expression) (key : Expression) : Bool :=
  estate.coversRealm machine realm && estate.covers machine key &&
    match machine.realm? realm, (machine.evaluate key).key? with
    | some realm, some key => machine.world.isKeyOf estate.container realm key
    | _, _ => true

/-- The first step of an operation keeps to the estate. -/
def admitsOperation : Operation (List Action) → Bool
  | .subscribe tag _ _ =>
    let name := machine.evaluateName tag
    estate.covers machine tag && (name.isEmpty || estate.handles name)
  | .keyAt operand | .positionOf operand | .push operand | .removeAt operand =>
    estate.covers machine operand
  | .insertAt position item => estate.covers machine position && estate.covers machine item
  | _ => true

/-- The first step of a command keeps to the estate. It makes no containers and no realms and
changes no names of containers. -/
def admitsCommand (subject : String) : Command (List Action) → Bool
  | .log value | .evaluate value | .throw value => estate.covers machine value
  | .branch condition _ _ => estate.covers machine condition
  | .limit id _ _ => estate.covers machine id && estate.counters (machine.evaluateName id)
  | .attempt _ => true
  | .realm realm query =>
    estate.coversRealm machine realm &&
      (query == .activeKey || query == .label || query == .tracked)
  | .pending realm key | .runTeardowns realm key | .withKey realm key _ =>
    estate.coversKey machine realm key
  | .register realm tag _ _ => estate.coversRealm machine realm && estate.covers machine tag
  | .handle handle _ =>
    let name := machine.evaluateName handle
    estate.covers machine handle && estate.handles name &&
      (machine.world.handles.find? name).all (·.container == estate.container)
  | .operate operation =>
    estate.names subject && machine.world.names.find? subject == some estate.container &&
      estate.admitsOperation machine operation
  | _ => false

/-- The first step of an action keeps to the estate, and so does what is kept of its answer. -/
def admits (action : Action) : Bool :=
  estate.covers machine (action.subject.getD (.literal .null)) &&
    action.result.all estate.written &&
    estate.admitsCommand machine (machine.subjectName action) action.command

end Estate

/-- The actions whose answers tell numbers that containers share. -/
def numberVerbs : List String := ["subscribe", "handle_id", "debug_handle", "tracked"]

/-- The answer of an action tells nothing but a shared number, and nobody keeps it. -/
def Script.Action.isToken (action : Action) : Bool :=
  numberVerbs.contains action.verb && action.result.isNone

/-- The answer of a command tells a number that containers share: that of a subscription to a
direct container, or how many keys of a realm have teardowns. -/
def Machine.tellsNumber (machine : Machine) (subject : String) : Command (List Action) → Bool
  | .operate (.subscribe ..) =>
    match machine.world.names.find? subject with
    | none => false
    | some container => (machine.world.container container).surface == .direct
  | .handle name .id | .handle name .describe =>
    (machine.world.handles.find? (machine.evaluateName name)).any (·.surface == .direct)
  | .realm name .tracked => (machine.realm? name).isSome
  | _ => false

/-- Nobody keeps a shared number. -/
def Machine.isDiscreet (machine : Machine) (action : Action) : Bool :=
  action.isToken || !machine.tellsNumber (machine.subjectName action) action.command

/-- What is answered where there is no answer, or where something is missing or does not fit. -/
def words : List Value := [.null, .text "missing", .text "badarg"]

/-- A reply without the number that it tells. -/
def Reply.hidden : Reply → Reply
  | .value answer => if answer ∈ words then .value answer else .value .null
  | .failure cause => .failure cause

/-- The event without the numbers that containers share. -/
def Event.veiled : Event → Event
  | .answered verb reply =>
    .answered verb (if numberVerbs.contains verb then reply.hidden else reply)
  | event => event

end Observables
