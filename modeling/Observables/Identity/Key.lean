/-!
# Keys of list elements

A key names one logical element of one list for as long as the program runs.
It pairs the number of the list with a sequence number within the list. Keys
are ordered by list first and by sequence number second. The written form is
the two numbers with a colon between them, and reading it back gives the key.
-/

namespace Observables

/-- The identity of one element of one list. -/
structure Key where
  /-- The number of the list that allocated the key. -/
  container : Nat
  /-- The place of the key in the list's order of allocation. -/
  seq : Nat
  deriving Repr, DecidableEq, Inhabited

namespace Key

/-- Keys are compared by list, and within a list by sequence number. -/
def order (left right : Key) : Ordering :=
  (compare left.container right.container).then (compare left.seq right.seq)

/-- The left key does not come after the right one. -/
def precedes (left right : Key) : Bool := (left.order right).isLE

/-- The written form of a key: list, colon, sequence number. -/
def text (key : Key) : String :=
  toString key.container ++ ":" ++ toString key.seq

/-- The key as it is shown to a reader, field by field. -/
def describe (key : Key) : String :=
  "Key \x7b container: " ++ toString key.container ++ ", seq: " ++ toString key.seq ++ " \x7d"

/-- The largest number that a key's written form may hold: sixty-four binary ones. -/
def greatestNumber : Nat := 18446744073709551615

/-- Read a decimal number that a key may hold. A leading plus sign and leading
zeros are accepted; an empty run of digits and a number that is too large are
not. -/
def readNumber? (digits : List Char) : Option Nat :=
  let digits := match digits with
    | '+' :: rest => rest
    | _ => digits
  if digits.isEmpty || !digits.all Char.isDigit then none
  else
    let number := digits.foldl (fun total digit => total * 10 + (digit.toNat - '0'.toNat)) 0
    if number ≤ greatestNumber then some number else none

/-- Read the written form of a key. The text is cut at its first colon. -/
def ofText? (text : String) : Option Key :=
  let characters := text.toList
  match characters.dropWhile (· != ':') with
  | [] => none
  | _ :: rest => do
    let container ← readNumber? (characters.takeWhile (· != ':'))
    let seq ← readNumber? rest
    return ⟨container, seq⟩

/-- Drop every key that equals the one directly before it. -/
def dropRepeats : List Key → List Key
  | first :: second :: rest =>
    if first = second then dropRepeats (second :: rest)
    else first :: dropRepeats (second :: rest)
  | keys => keys

/-- The keys in ascending order, each once. -/
def ascending (keys : List Key) : List Key :=
  dropRepeats (keys.mergeSort precedes)

end Key

end Observables
