import Observables.Identity.KeySequence

/-!
# Histories of one key sequence

The commands that can be given to a key sequence, and what each answers. One
copy of the sequence is kept aside: it can be replaced by a copy of the
current one and exchanged with it, so a history may go on from either.
-/

namespace Observables

/-- One command to a key sequence. -/
inductive KeyCommand where
  /-- Allocate a key at a position. -/
  | allocate (position : Nat)
  /-- Ask for the key at a position. -/
  | keyAt (position : Nat)
  /-- Take out the key at a position. -/
  | release (position : Nat)
  /-- Take out all keys. -/
  | releaseAll
  /-- Allocate keys at the end. -/
  | fill (count : Nat)
  /-- Ask for the position of a key; text that is no key has none. -/
  | positionOf (key : Option Key)
  /-- Ask for the number of the list. -/
  | container
  /-- Ask for the description. -/
  | describe
  /-- Keep a copy of the current sequence aside. -/
  | save
  /-- Exchange the current sequence and the one kept aside. -/
  | swap
  deriving Repr, DecidableEq

/-- What a command to a key sequence answers. -/
inductive KeyAnswer where
  /-- Nothing to say. -/
  | nothing
  /-- A key. -/
  | key (key : Key)
  /-- Keys in order. -/
  | keys (keys : List Key)
  /-- A position or another number. -/
  | number (value : Nat)
  /-- A description. -/
  | text (value : String)
  deriving Repr, DecidableEq

/-- A key, or nothing to say. -/
def KeyAnswer.ofKey? : Option Key → KeyAnswer
  | none => .nothing
  | some found => .key found

/-- A key sequence and the copy that is kept aside. -/
structure KeyHistory where
  /-- The sequence that commands act on. -/
  current : KeySequence
  /-- The copy that is kept aside. -/
  saved : KeySequence
  deriving Repr, DecidableEq

namespace KeyHistory

/-- A history starts with a copy of its sequence kept aside. -/
def start (keys : KeySequence) : KeyHistory := ⟨keys, keys⟩

/-- Carry out one command. -/
def perform (history : KeyHistory) : KeyCommand → KeyAnswer × KeyHistory
  | .allocate position =>
    (.key history.current.freshKey, { history with current := history.current.allocate position })
  | .keyAt position => (.ofKey? (history.current.keyAt? position), history)
  | .release position =>
    (.ofKey? (history.current.keyAt? position),
      { history with current := history.current.release position })
  | .releaseAll =>
    (.keys history.current.inUse, { history with current := history.current.releaseAll })
  | .fill count => (.nothing, { history with current := history.current.fill count })
  | .positionOf key =>
    match key.bind history.current.positionOf? with
    | none => (.nothing, history)
    | some position => (.number position, history)
  | .container => (.number history.current.container, history)
  | .describe => (.text history.current.describe, history)
  | .save => (.nothing, { history with saved := history.current })
  | .swap => (.nothing, ⟨history.saved, history.current⟩)

/-- Carry out commands one after the other and forget their answers. -/
def performAll (history : KeyHistory) (commands : List KeyCommand) : KeyHistory :=
  commands.foldl (fun history command => (history.perform command).2) history

end KeyHistory

end Observables
