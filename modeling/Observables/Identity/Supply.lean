/-!
# Supplies of identifiers

Every number that names a subscription or a list is drawn from a supply. A
supply starts at a chosen number, only counts up and is never reset, so a
number it has handed out is never handed out again. Numbers are unbounded
here; the limit of a machine word is outside this library.
-/

namespace Observables

/-- A source of numbers that have not been used before. -/
structure IdSupply where
  /-- The number the next draw hands out. -/
  next : Nat := 0
  deriving Repr, DecidableEq, Inhabited

namespace IdSupply

/-- The number that the next draw will hand out. -/
def peek (supply : IdSupply) : Nat := supply.next

/-- The supply after one number has been drawn from it. -/
def advance (supply : IdSupply) : IdSupply := ⟨supply.next + 1⟩

/-- Draw one number. -/
def draw (supply : IdSupply) : Nat × IdSupply := (supply.peek, supply.advance)

/-- The supply as it is shown to a reader. -/
def describe (supply : IdSupply) : String :=
  "IdGenerator \x7b next: Cell \x7b value: " ++ toString supply.next ++ " \x7d \x7d"

/-- Advancing moves past the number that was drawn. -/
theorem peek_lt_peek_advance (supply : IdSupply) : supply.peek < supply.advance.peek :=
  Nat.lt_succ_self _

end IdSupply

end Observables
