import Observables.Identity.Key

/-!
# The key sequence of a list

A key sequence holds one key for each element of a list, in the order of the
elements. A new key takes the next number of the list and is put where its
element was put; a key that leaves is dropped and its number is never given
out again. Every allocation and release is also described as a movement, so
that a reader who has only the movements can follow the sequence.
-/

namespace Observables

/-- One change of a key sequence, with the place where it happened. -/
inductive KeyMovement where
  /-- A fresh key was put at the position. -/
  | allocated (key : Key) (position : Nat)
  /-- The key at the position was taken out. -/
  | released (key : Key) (position : Nat)
  deriving Repr, DecidableEq

/-- The keys of one list, in element order, with the counter they come from. -/
structure KeySequence where
  /-- The number of the list whose keys these are. -/
  container : Nat
  /-- The sequence number of the next key. -/
  nextSeq : Nat := 0
  /-- The keys that are in use, one for each element. -/
  inUse : List Key := []
  deriving Repr, DecidableEq, Inhabited

namespace KeySequence

/-- The sequence of a list without elements. -/
def empty (container : Nat) : KeySequence := ⟨container, 0, []⟩

/-- How many keys are in use. -/
def size (keys : KeySequence) : Nat := keys.inUse.length

/-- The key that the next allocation will hand out. -/
def freshKey (keys : KeySequence) : Key := ⟨keys.container, keys.nextSeq⟩

/-- A position past the end stands for the end. -/
def clamp (keys : KeySequence) (position : Nat) : Nat := min position keys.size

/-- Allocate the fresh key and put it at a position. -/
def allocate (keys : KeySequence) (position : Nat) : KeySequence :=
  { keys with
    nextSeq := keys.nextSeq + 1
    inUse := keys.inUse.insertIdx (keys.clamp position) keys.freshKey }

/-- The movement that `allocate` makes. -/
def allocation (keys : KeySequence) (position : Nat) : KeyMovement :=
  .allocated keys.freshKey (keys.clamp position)

/-- The key at a position. -/
def keyAt? (keys : KeySequence) (position : Nat) : Option Key := keys.inUse[position]?

/-- The position of a key that is in use. -/
def positionOf? (keys : KeySequence) (key : Key) : Option Nat := keys.inUse.idxOf? key

/-- Take out the key at a position. A position past the end changes nothing. -/
def release (keys : KeySequence) (position : Nat) : KeySequence :=
  { keys with inUse := keys.inUse.eraseIdx position }

/-- Take out all keys. The counter keeps its place. -/
def releaseAll (keys : KeySequence) : KeySequence := { keys with inUse := [] }

/-- Allocate a number of fresh keys at the end. -/
def fill (keys : KeySequence) : Nat → KeySequence
  | 0 => keys
  | count + 1 => (keys.allocate keys.size).fill count

/-- The movements that `fill` makes, in order. -/
def allocations (keys : KeySequence) : Nat → List KeyMovement
  | 0 => []
  | count + 1 => keys.allocation keys.size :: (keys.allocate keys.size).allocations count

/-- The sequence of a list that starts with a number of elements. -/
def ofLength (container length : Nat) : KeySequence := (empty container).fill length

/-- The sequence as it is shown to a reader. -/
def describe (keys : KeySequence) : String :=
  "KeyTracker \x7b container: " ++ toString keys.container ++
    ", next_seq: " ++ toString keys.nextSeq ++
    ", keys: [" ++ String.intercalate ", " (keys.inUse.map Key.describe) ++ "] \x7d"

@[simp] theorem container_allocate (keys : KeySequence) (position : Nat) :
    (keys.allocate position).container = keys.container := rfl

@[simp] theorem container_release (keys : KeySequence) (position : Nat) :
    (keys.release position).container = keys.container := rfl

@[simp] theorem container_releaseAll (keys : KeySequence) :
    keys.releaseAll.container = keys.container := rfl

/-- Filling allocates for the same list. -/
@[simp] theorem container_fill (keys : KeySequence) (count : Nat) :
    (keys.fill count).container = keys.container := by
  induction count generalizing keys with
  | zero => rfl
  | succ count ih => simpa only [fill, container_allocate] using ih (keys.allocate _)

/-- One allocation lengthens the sequence by one. -/
@[simp] theorem size_allocate (keys : KeySequence) (position : Nat) :
    (keys.allocate position).size = keys.size + 1 := by
  simp only [allocate, clamp, size]
  exact List.length_insertIdx_of_le_length (Nat.min_le_right _ _) _

/-- Filling lengthens the sequence by the requested count. -/
@[simp] theorem size_fill (keys : KeySequence) (count : Nat) :
    (keys.fill count).size = keys.size + count := by
  induction count generalizing keys with
  | zero => rfl
  | succ count ih =>
    simp only [fill, ih, size_allocate]
    omega

/-- A list that starts with some elements has one key for each of them. -/
theorem size_ofLength (container length : Nat) : (ofLength container length).size = length := by
  rw [ofLength, size_fill]
  exact Nat.zero_add length

end KeySequence

end Observables
