import Observables.Container
import Observables.Teardown
import Observables.Identity.Supply
import Observables.Text.Described

/-!
# Realms

A realm is what containers share: two supplies of numbers, the teardowns that
wait for keys and the keys that are open. The innermost open key is the one
that teardowns are bound to.
-/

namespace Observables

/-- What the containers of one realm share. -/
structure Realm where
  /-- The name of the realm for readers, if it has one. -/
  label : Option String
  /-- The supply of subscription numbers. -/
  subscriptionIds : IdSupply
  /-- The supply of list numbers. -/
  containerIds : IdSupply
  /-- The teardowns that wait for keys. -/
  teardowns : TeardownTable Callback := {}
  /-- The keys that are open, innermost first. -/
  active : List Key := []
  deriving Inhabited

namespace Realm

/-- A realm whose two supplies start at the same number. -/
def make (label : Option String) (firstId : Nat) : Realm :=
  { label := label, subscriptionIds := ⟨firstId⟩, containerIds := ⟨firstId⟩ }

/-- The innermost open key. -/
def activeKey? (realm : Realm) : Option Key := realm.active.head?

/-- Open a key inside those that are open. -/
def openKey (realm : Realm) (key : Key) : Realm := { realm with active := key :: realm.active }

/-- Close the innermost open key. -/
def closeKey (realm : Realm) : Realm := { realm with active := realm.active.tail }

/-- Bind a teardown to a key. -/
def bind (realm : Realm) (key : Key) (teardown : Callback) : Realm :=
  { realm with teardowns := realm.teardowns.register key teardown }

/-- Take the teardowns of a key out of the table. -/
def unbind (realm : Realm) (key : Key) : Realm :=
  { realm with teardowns := realm.teardowns.erase key }

/-- The label in a description. -/
def describeLabel : Option String → String
  | none => "None"
  | some label => "Some(" ++ Text.described label ++ ")"

/-- The description of a realm, with its open keys from the outermost in. -/
def describe (realm : Realm) : String :=
  "Runtime \x7b label: " ++ describeLabel realm.label ++
    ", active: [" ++ String.intercalate ", " (realm.active.reverse.map Key.describe) ++
    "], tracked_keys: " ++ toString realm.teardowns.tracked ++ " \x7d"

end Realm

end Observables
