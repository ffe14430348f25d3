import Observables.Expression
import Observables.Channel

/-!
# Actions of a script

A script is a list of actions. An action logs, branches, throws, opens a
realm, makes a container or operates on one; some actions carry bodies, which
are lists of actions to run later or around something else. Names, values,
positions and conditions are expressions. An operation is written without
regard to the kind of container that it will meet.
-/

namespace Observables.Script

/-- A question to a realm. -/
inductive RealmQuery where
  /-- The label. -/
  | label
  /-- A fresh subscription number. -/
  | nextSubscription
  /-- A fresh container number. -/
  | nextContainer
  /-- How many keys have teardowns. -/
  | tracked
  /-- The description. -/
  | describe
  /-- The innermost open key. -/
  | activeKey
  deriving Repr, DecidableEq

/-- A question about a subscription handle, or an order to it. -/
inductive HandleQuery where
  /-- End the subscription. -/
  | unsubscribe
  /-- The number of the subscription. -/
  | id
  /-- The description. -/
  | describe
  /-- Forget the handle without ending the subscription. -/
  | forget
  deriving Repr, DecidableEq

/-- What can be asked of a container. -/
inductive Operation (Body : Type) where
  /-- What the container holds. -/
  | get
  /-- What the container holds, through its read-only face. -/
  | observe
  /-- Run a body while the contents are borrowed, and answer an expression. -/
  | borrow (body : Body) (answer : Expression)
  /-- Replace the contents by what a setter answers. -/
  | set (body : Body) (answer : Expression)
  /-- Call a body whenever a channel tells something. `none` is no channel. -/
  | subscribe (tag : Expression) (channel : Option Channel) (body : Body)
  /-- How many change subscriptions there are. -/
  | subscriberCount
  /-- The description. -/
  | describe
  /-- The number of the list. -/
  | id
  /-- How many elements there are. -/
  | length
  /-- There are no elements. -/
  | isEmpty
  /-- All keys. -/
  | keys
  /-- The key at a position. -/
  | keyAt (position : Expression)
  /-- The position of a key. -/
  | positionOf (key : Expression)
  /-- Add an element at the end. -/
  | push (item : Expression)
  /-- Add an element at a position. -/
  | insertAt (position item : Expression)
  /-- Remove the last element. -/
  | pop
  /-- Remove the element at a position. -/
  | removeAt (position : Expression)
  /-- Remove the first element that a predicate accepts. -/
  | findAndRemove (body : Body) (answer : Expression)
  /-- The container is a cell. -/
  | holdsValue
  /-- The container is a list. -/
  | holdsElements
  /-- Something that no container knows. -/
  | unknown
  deriving Inhabited

/-- What an action does. A realm that is not named is the current one. -/
inductive Command (Body : Type) where
  /-- Note a value in the log. -/
  | log (value : Expression)
  /-- Answer a value. -/
  | evaluate (value : Expression)
  /-- Leave all bodies with a value. -/
  | throw (value : Expression)
  /-- Run one of two bodies. -/
  | branch (condition : Expression) (yes no : Body)
  /-- Run a body the first few times only. -/
  | limit (id : Expression) (times : Nat) (body : Body)
  /-- Run a body and answer its failure, if it fails. -/
  | attempt (body : Body)
  /-- Make a realm. -/
  | openRealm (name : Expression) (label : Option String) (firstId : Nat)
  /-- Two names stand for the same realm. -/
  | sameRealm (left right : Expression)
  /-- Ask a realm. -/
  | realm (realm : Option Expression) (query : RealmQuery)
  /-- How many teardowns wait for a key. -/
  | pending (realm : Option Expression) (key : Expression)
  /-- Run the teardowns that wait for a key. -/
  | runTeardowns (realm : Option Expression) (key : Expression)
  /-- Run a body while a key is open. -/
  | withKey (realm : Option Expression) (key : Expression) (body : Body)
  /-- Bind a teardown to the open key of a realm. A shielded one always goes to
  the current realm, but the realm that is named must exist all the same. -/
  | register (realm : Option Expression) (tag : Expression) (surface : Surface)
      (body : Body)
  /-- Ask a handle. -/
  | handle (handle : Expression) (query : HandleQuery)
  /-- Make a cell. -/
  | makeCell (name value : Expression) (realm : Option Expression) (surface : Surface)
  /-- Make a list. -/
  | makeList (name value : Expression) (realm : Option Expression) (surface : Surface)
  /-- Forget a container's name. -/
  | drop (name : Expression)
  /-- Give a container one more name. -/
  | alias (name : Expression)
  /-- Operate on a container. -/
  | operate (operation : Operation Body)
  deriving Inhabited

/-- One action. -/
structure Action where
  /-- The name of the action, for the log. -/
  verb : String
  /-- The variable that keeps the result. -/
  result : Option String
  /-- The name of the container that the action is about. -/
  subject : Option Expression
  /-- What the action does. -/
  command : Command (List Action)
  deriving Inhabited

end Observables.Script
