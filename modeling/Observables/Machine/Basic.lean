import Observables.World

/-!
# Machines

A machine runs actions. What remains to be done is a stack of frames, the
innermost first: rests of bodies, the unfinished parts of operations, and the
marks of what must be undone on the way out. Control either resumes the
innermost frame with a reply or unwinds through it with a failure. Calls of
script functions nest on this stack and nowhere else, so everything that is in
progress at a moment can be read off it.
-/

namespace Observables

open Script

/-- What the subscriptions of a channel are told. -/
inductive Notice where
  /-- The contents have changed. They are read anew for every call. -/
  | changed
  /-- An element was added at a position. -/
  | added (item : Value) (position : Nat)
  /-- An element was removed from a position. -/
  | removed (position : Nat)
  deriving DecidableEq, Inhabited

/-- The channel that a notice goes out on. -/
def Notice.channel : Notice → Channel
  | .changed => .change
  | .added _ _ => .added
  | .removed _ => .removed

/-- One part of what remains to be done. -/
inductive Frame where
  /-- Run the actions of a body one after the other. -/
  | body (actions : List Action)
  /-- Note the reply of an action and keep it in a variable, if asked to. -/
  | finish (action : Action)
  /-- Answer the value of an expression. -/
  | answer (expression : Expression)
  /-- Answer a value that is already known. -/
  | yield (value : Value)
  /-- Take up the variables of the caller. -/
  | restore (locals : Variables)
  /-- A failure that comes this far is answered. -/
  | attempt
  /-- A failure that comes this far is forgotten, unless it has left a direct call. -/
  | shield
  /-- A failure that comes this far leaves a direct call. -/
  | boundary
  /-- A key is open in a realm. -/
  | scope (realm : RealmRef) (key : Key)
  /-- A reader holds on to the contents of a container. -/
  | borrowed (container : ContainerRef)
  /-- An operation on a container is in progress. -/
  | operating (container : ContainerRef)
  /-- Store the reply as the value of a container. -/
  | store (container : ContainerRef)
  /-- Replace the elements of a list by the reply. -/
  | replace (container : ContainerRef)
  /-- Start telling the subscriptions of a channel. -/
  | notify (container : ContainerRef) (notice : Notice)
  /-- Call the subscriptions that have not had their turn. -/
  | dispatch (container : ContainerRef) (notice : Notice) (waiting : List SubscriptionRef)
  /-- Tell the add subscriptions about an element while its key is open. -/
  | announce (container : ContainerRef) (key : Key) (item : Value) (position : Nat)
  /-- Run the teardowns of an added element's key if it has left the list again. -/
  | settle (container : ContainerRef) (key : Key)
  /-- Run the teardowns of keys that have left their list. -/
  | discharge (realm : RealmRef) (keys : List Key)
  /-- Call the teardowns of a key that have not had their turn. -/
  | teardown (realm : RealmRef) (key : Key) (waiting : List Callback)
  /-- Look for an element that a predicate accepts; the first of the rest had the position. -/
  | search (container : ContainerRef) (position : Nat) (rest : List Value)
      (body : List Action) (test : Expression)
  /-- Decide about the element at a position; if it is refused, look through the rest. -/
  | verdict (container : ContainerRef) (position : Nat) (rest : List Value)
      (body : List Action) (test : Expression)
  deriving Inhabited

/-- How control goes on. -/
inductive Focus where
  /-- The innermost frame goes on with a reply. -/
  | resume (reply : Reply)
  /-- The innermost frame is left with a failure. -/
  | unwind (failure : Failure)
  deriving DecidableEq, Inhabited

/-- A run in progress. -/
structure Machine where
  /-- All that the run keeps. -/
  world : World
  /-- The variables of the body that runs. -/
  locals : Variables
  /-- What remains to be done, innermost first. -/
  stack : List Frame
  /-- How control goes on. -/
  focus : Focus

namespace Machine

/-- Go on with a value. -/
def answer (machine : Machine) (value : Value) : Machine :=
  { machine with focus := .resume (.value value) }

/-- Go on without a value. -/
def proceed (machine : Machine) : Machine := machine.answer .null

/-- Leave with a failure. -/
def fail (machine : Machine) (failure : Failure) : Machine :=
  { machine with focus := .unwind failure }

/-- Leave with a thrown value. -/
def throw (machine : Machine) (value : Value) : Machine := machine.fail (.thrown value)

/-- Put frames on the stack, the first of them innermost, and go on with it. -/
def push (machine : Machine) (frames : List Frame) : Machine :=
  { machine.proceed with stack := frames ++ machine.stack }

/-- Change the world. -/
def withWorld (machine : Machine) (world : World) : Machine := { machine with world := world }

/-- The value of an expression now. -/
def evaluate (machine : Machine) (expression : Expression) : Value :=
  expression.evaluate machine.world.held machine.locals

/-- The value of an expression as a name. -/
def evaluateName (machine : Machine) (expression : Expression) : String :=
  (machine.evaluate expression).joined

/-- The frame at the end of a setter, predicate or borrowing body. A shielded
container hands the failure back to the action, which fails with it. -/
def edge : Surface → List Frame
  | .direct => [.boundary]
  | .shielded => []

/-- Run a body with a copy of the variables and some more, and answer an
expression there, on behalf of a container of the given surface. -/
def invoke (machine : Machine) (surface : Surface) (arguments : List (String × Value))
    (body : List Action) (result : Expression) : Machine :=
  let frames := .body body :: .answer result :: edge surface ++ [.restore machine.locals]
  { machine.push frames with locals := machine.locals.insertAll arguments }

/-- The frame at the end of a call of a callback. -/
def guard : Surface → Frame
  | .direct => .boundary
  | .shielded => .shield

/-- Call a callback: note the call, and run its body with its own variables,
the arguments and the innermost open key. -/
def call (machine : Machine) (callback : Callback) (event : Option Key → Event)
    (arguments : List (String × Value)) : Machine :=
  let active := machine.world.activeKey?
  let frames := [.body callback.body, guard callback.surface, .restore machine.locals]
  { (machine.withWorld (machine.world.emit (event active))).push frames with
    locals := callback.locals.insertAll (arguments ++ [("key", .optional .key active)]) }

/-- An operation on a container is in progress. -/
def operatesOn (machine : Machine) (container : ContainerRef) : Bool :=
  machine.stack.any fun
    | .operating other => container == other
    | _ => false

/-- A container exists while it has a name or an operation on it is in progress. -/
def isAlive (machine : Machine) (container : ContainerRef) : Bool :=
  machine.world.names.values.contains container || machine.operatesOn container

end Machine

end Observables
