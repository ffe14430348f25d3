import Observables.Subscription.Registry

/-!
# Histories of one registry

The commands that can be given to a registry and to snapshots taken from it,
and what each answers. Snapshots are kept under names. Firing a snapshot
calls, in its order, the subscriptions that are still switched on at their
turn; the callbacks here only say which of them ran.
-/

namespace Observables

/-- One command to a registry or to one of its snapshots. -/
inductive RegistryCommand (α : Type) where
  /-- Register a new subscription under a number. -/
  | insert (id : Nat) (callback : α)
  /-- Unsubscribe a number. -/
  | unsubscribe (id : Nat)
  /-- Keep a snapshot of the registry under a name. -/
  | snapshot (name : String)
  /-- Keep a snapshot of one new subscription that is not registered. -/
  | single (name : String) (id : Nat) (callback : α)
  /-- Call the subscriptions of a snapshot. -/
  | fire (name : String)
  /-- Ask which subscriptions of a snapshot are still switched on. -/
  | active (name : String)
  /-- Switch off the subscription at one place of a snapshot. -/
  | deactivate (name : String) (index : Nat)

/-- What a command answers. -/
inductive RegistryAnswer where
  /-- Nothing to say. -/
  | nothing
  /-- Yes or no. -/
  | flag (value : Bool)
  /-- Numbers, in order. -/
  | ids (ids : List Nat)
  /-- Numbers with their state, in order. -/
  | states (states : List (Nat × Bool))

/-- A registry with the snapshots taken from it. -/
structure RegistryHistory (α : Type) where
  /-- The registry and its subscriptions. -/
  board : Switchboard α := {}
  /-- Snapshots by name. -/
  snapshots : Directory (List SubscriptionRef) := {}

namespace RegistryHistory

variable {α : Type}

/-- The callbacks that firing a list of subscriptions calls, in order. -/
def called (board : Switchboard α) (subscriptions : List SubscriptionRef) : List α :=
  subscriptions.filterMap board.callback?

/-- The number of a subscription. -/
def idOf? (board : Switchboard α) (subscription : SubscriptionRef) : Option Nat :=
  (board.subscriptions.get? subscription).map (·.id)

/-- The numbers and states of a list of subscriptions. -/
def states (board : Switchboard α) (subscriptions : List SubscriptionRef) : List (Nat × Bool) :=
  subscriptions.filterMap fun subscription =>
    (idOf? board subscription).map fun id => (id, board.isActive subscription)

/-- Carry out one command: the answer, the callbacks called, the history after it. -/
def perform (history : RegistryHistory α) :
    RegistryCommand α → RegistryAnswer × List α × RegistryHistory α
  | .insert id callback =>
    (.nothing, [], { history with board := history.board.insert id callback })
  | .unsubscribe id =>
    let (found, board) := history.board.unsubscribe id
    (.flag found, [], { history with board := board })
  | .snapshot name =>
    let subscriptions := history.board.registry.snapshot
    (.ids (subscriptions.filterMap (idOf? history.board)), [],
      { history with snapshots := history.snapshots.insert name subscriptions })
  | .single name id callback =>
    (.nothing, [],
      { board := history.board.make id callback
        snapshots := history.snapshots.insert name [history.board.subscriptions.size] })
  | .fire name =>
    (.nothing, called history.board ((history.snapshots.find? name).getD []), history)
  | .active name =>
    match history.snapshots.find? name with
    | none => (.nothing, [], history)
    | some subscriptions => (.states (states history.board subscriptions), [], history)
  | .deactivate name index =>
    match (history.snapshots.find? name).bind (·[index]?) with
    | none => (.nothing, [], history)
    | some subscription =>
      let board := history.board.deactivate subscription
      (.flag (board.isActive subscription), [], { history with board := board })

end RegistryHistory

end Observables
