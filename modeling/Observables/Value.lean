import Observables.Document
import Observables.Identity.Key

/-!
# Values

What containers hold, callbacks receive and operations answer. A value is
null, undefined, a truth value, an integer, a text or a list of values.
Undefined differs from null and is shown as a record with one field. Equality
is structural, and `same_eq_true` says that the test decides it.
-/

namespace Observables

/-- A datum of a script. -/
inductive Value where
  /-- The absent value. -/
  | null
  /-- What an operation without an answer gives to a script function. -/
  | undefined
  /-- A truth value. -/
  | bool (value : Bool)
  /-- An integer. -/
  | int (value : Int)
  /-- A text. -/
  | text (value : String)
  /-- Values in order. -/
  | list (items : List Value)
  deriving Inhabited

namespace Value

/-- A natural number as a value. -/
def nat (value : Nat) : Value := .int value

/-- A key as the text of its written form. -/
def key (key : Key) : Value := .text key.text

/-- What is there, or null. -/
def optional {α : Type} (write : α → Value) : Option α → Value
  | none => .null
  | some value => write value

/-- Everything counts as true except undefined, null, false, zero and the
empty text. A list counts as true, also when it is empty. -/
def truthy : Value → Bool
  | .undefined => false
  | .null => false
  | .bool value => value
  | .int value => value != 0
  | .text value => value != ""
  | .list _ => true

/-- The items of a list. -/
def items? : Value → Option (List Value)
  | .list items => some items
  | _ => none

/-- A position, if the value is an integer that is not negative. -/
def position? : Value → Option Nat
  | .int (.ofNat value) => some value
  | _ => none

/-- A key, if the value is a text that is the written form of one. -/
def key? : Value → Option Key
  | .text value => Key.ofText? value
  | _ => none

/-- Structural comparison. -/
def same : Value → Value → Bool
  | .null, .null => true
  | .undefined, .undefined => true
  | .bool left, .bool right => left == right
  | .int left, .int right => left == right
  | .text left, .text right => left == right
  | .list left, .list right => sameItems left right
  | _, _ => false
where
  /-- Structural comparison of lists, item by item. -/
  sameItems : List Value → List Value → Bool
    | [], [] => true
    | left :: lefts, right :: rights => same left right && sameItems lefts rights
    | _, _ => false

mutual

/-- The comparison decides equality of values. -/
theorem same_eq_true : ∀ left right : Value, left.same right = true ↔ left = right
  | .null, right => by cases right <;> simp [same]
  | .undefined, right => by cases right <;> simp [same]
  | .bool _, right => by cases right <;> simp [same]
  | .int _, right => by cases right <;> simp [same]
  | .text _, right => by cases right <;> simp [same]
  | .list items, right => by
    cases right with
    | list others => simpa [same] using sameItems_eq_true items others
    | null | undefined | bool | int | text => simp [same]

/-- The comparison of lists decides equality of lists. -/
theorem sameItems_eq_true : ∀ left right : List Value,
    same.sameItems left right = true ↔ left = right
  | [], right => by cases right <;> simp [same.sameItems]
  | item :: items, right => by
    cases right with
    | nil => simp [same.sameItems]
    | cons other others =>
      simp [same.sameItems, same_eq_true item other, sameItems_eq_true items others]

end

instance : DecidableEq Value := fun left right =>
  decidable_of_iff (left.same right = true) (same_eq_true left right)

/-- The value as part of an answer. Undefined is a record with one field. -/
def toDocument : Value → Document
  | .null => .null
  | .undefined => .record [("undef", .bool true)]
  | .bool value => .bool value
  | .int value => .int value
  | .text value => .text value
  | .list items => .list (documents items)
where
  /-- The items of a list as parts of an answer. -/
  documents : List Value → List Document
    | [] => []
    | item :: items => toDocument item :: documents items

/-- The value as it is joined into a text: a text as it is, everything else in
compact form. -/
def joined : Value → String
  | .text value => value
  | value => value.toDocument.compact

/-- The value as it can be kept in a variable by an action: what is shown as a
record becomes null. -/
def plain : Value → Value
  | .undefined => .null
  | .list items => .list (plains items)
  | value => value
where
  /-- The items of a list as they can be kept in a variable. -/
  plains : List Value → List Value
    | [] => []
    | item :: items => plain item :: plains items

/-- The least integer that arithmetic gives: sixty-three binary digits below zero. -/
def leastInteger : Int := -9223372036854775808

/-- The greatest integer that arithmetic gives: sixty-four binary ones. -/
def greatestInteger : Int := 18446744073709551615

/-- An integer as a value; null where it is out of range. -/
def ofInteger (value : Int) : Value :=
  if leastInteger ≤ value ∧ value ≤ greatestInteger then .int value else .null

end Value

end Observables
