import Observables.Identity.KeyHistory
import Observables.Proofs.Identity
import Mathlib.Data.List.Induction
import Mathlib.Data.List.InsertIdx
import Mathlib.Data.List.Perm.Subperm

/-!
# Lineages of key sequences

A key sequence can be copied, and either copy can be changed from then on. What
a copy holds hangs on its lineage: the commands that were given to it, and
before that to what it was copied from. A sequence numbers its keys in the order
in which its lineage has given them out, finds each key that it holds where it
stands, and never takes up again a key that it has let go. Two copies count each
for itself, so after a copy was made both may give out the same key.
-/

namespace Observables

/-- Of two lists without repetition, one of which is part of the other, the common elements
stand in both in the same order. -/
theorem filter_mem_of_sublist {α : Type} [DecidableEq α] {part whole : List α}
    (sublist : part.Sublist whole) (nodup : whole.Nodup) :
    whole.filter (· ∈ part) = part.filter (· ∈ whole) := by
  have all : part.filter (· ∈ whole) = part :=
    List.filter_eq_self.mpr fun element inside => decide_eq_true (sublist.subset inside)
  have itself : part.filter (· ∈ part) = part :=
    List.filter_eq_self.mpr fun element inside => decide_eq_true inside
  have chosen := sublist.filter (· ∈ part)
  rw [itself] at chosen
  have few : whole.filter (· ∈ part) ⊆ part :=
    fun element inside => of_decide_eq_true (List.mem_filter.mp inside).2
  have short := (List.subperm_of_subset (nodup.filter (· ∈ part)) few).length_le
  rw [all, ← chosen.eq_of_length_le short]

/-- How many keys a command asks for. -/
def KeyCommand.requested : KeyCommand → Nat
  | .allocate _ => 1
  | .fill count => count
  | _ => 0

namespace KeySequence

variable {keys : KeySequence}

/-- The sequence after a command was given to it. Questions leave it as it is, and so does what
is done with copies. -/
def after (keys : KeySequence) : KeyCommand → KeySequence
  | .allocate position => keys.allocate position
  | .release position => keys.release position
  | .releaseAll => keys.releaseAll
  | .fill count => keys.fill count
  | _ => keys

/-- The sequence after commands were given to it, one after the other. -/
def afterAll (keys : KeySequence) (lineage : List KeyCommand) : KeySequence :=
  lineage.foldl after keys

/-- The keys that a command makes the sequence let go. -/
def released (keys : KeySequence) : KeyCommand → List Key
  | .release position => (keys.keyAt? position).toList
  | .releaseAll => keys.inUse
  | _ => []

/-- The keys that the sequence holds after a command and did not hold before. -/
def gained (keys : KeySequence) (command : KeyCommand) : List Key :=
  (keys.after command).inUse.filter (· ∉ keys.inUse)

/-- The keys that the sequence comes to hold by commands, in the order in which it does. -/
def gainedBy (keys : KeySequence) : List KeyCommand → List Key
  | [] => []
  | command :: lineage => keys.gained command ++ (keys.after command).gainedBy lineage

/-- A command leaves a sequence that follows the one before. -/
theorem follows_after (keys : KeySequence) (command : KeyCommand) :
    (keys.after command).Follows keys := by
  cases command with
  | allocate position => exact keys.follows_allocate position
  | release position => exact keys.follows_release position
  | releaseAll => exact keys.follows_releaseAll
  | fill count => exact keys.follows_fill count
  | _ => exact .refl keys

/-- Commands leave a sequence that follows the one before. -/
theorem follows_afterAll (keys : KeySequence) (lineage : List KeyCommand) :
    (keys.afterAll lineage).Follows keys := by
  induction lineage generalizing keys with
  | nil => exact .refl keys
  | cons command lineage ih => exact (ih (keys.after command)).trans (keys.follows_after command)

/-- Commands move the counter by as many keys as they ask for. -/
theorem nextSeq_afterAll (keys : KeySequence) (lineage : List KeyCommand) :
    (keys.afterAll lineage).nextSeq =
      lineage.foldl (fun total command => total + command.requested) keys.nextSeq := by
  have one (keys : KeySequence) (command : KeyCommand) :
      (keys.after command).nextSeq = keys.nextSeq + command.requested := by
    cases command with
    | fill count => exact keys.nextSeq_fill count
    | _ => rfl
  induction lineage generalizing keys with
  | nil => rfl
  | cons command lineage ih =>
    rw [List.foldl_cons, ← one]
    exact ih (keys.after command)

/-- All keys of a list that starts with some elements are proper. -/
theorem proper_ofLength (container length : Nat) : (ofLength container length).Proper :=
  (Proper.empty container).fill length

/-- A position past the end has no key to let go. -/
theorem release_of_size_le {position : Nat} (beyond : keys.size ≤ position) :
    keys.keyAt? position = none ∧ keys.release position = keys := by
  refine ⟨List.getElem?_eq_none beyond, ?_⟩
  simp only [release, List.eraseIdx_of_length_le beyond]

/-- A key that the sequence does not hold has no position. -/
theorem positionOf?_eq_none_iff (keys : KeySequence) (key : Key) :
    keys.positionOf? key = none ↔ key ∉ keys.inUse :=
  List.idxOf?_eq_none_iff

namespace Proper

/-- A command keeps a sequence proper. -/
theorem after (proper : keys.Proper) (command : KeyCommand) : (keys.after command).Proper := by
  cases command with
  | allocate position => exact proper.allocate position
  | release position => exact proper.release position
  | releaseAll => exact .releaseAll keys
  | fill count => exact proper.fill count
  | _ => exact proper

/-- Commands keep a sequence proper. -/
theorem afterAll (proper : keys.Proper) (lineage : List KeyCommand) :
    (keys.afterAll lineage).Proper := by
  induction lineage generalizing keys with
  | nil => exact proper
  | cons command lineage ih => exact ih (proper.after command)

/-- The first place of a key is its only one. -/
theorem positionOf?_eq_some_iff (proper : keys.Proper) (key : Key) (position : Nat) :
    keys.positionOf? key = some position ↔ keys.keyAt? position = some key := by
  rw [positionOf?, keyAt?, List.idxOf?_eq_some_iff]
  constructor
  · rintro ⟨within, here, _⟩
    rw [List.getElem?_eq_getElem within, here]
  · intro there
    obtain ⟨within, here⟩ := List.getElem?_eq_some_iff.mp there
    refine ⟨within, here, fun other before again => Nat.ne_of_lt before ?_⟩
    exact proper.nodup.getElem_inj_iff.mp (again.trans here.symm)

/-- The keys that a sequence holds before and after a command stand in the same order. -/
theorem keeps_order (proper : keys.Proper) (command : KeyCommand) :
    (keys.after command).inUse.filter (· ∈ keys.inUse) =
      keys.inUse.filter (· ∈ (keys.after command).inUse) := by
  have nodup := (proper.after command).nodup
  cases command with
  | allocate position =>
    exact filter_mem_of_sublist (List.sublist_insertIdx _ (keys.clamp position) _) nodup
  | release position =>
    exact (filter_mem_of_sublist (List.eraseIdx_sublist _ position) proper.nodup).symm
  | releaseAll => exact (filter_mem_of_sublist (List.nil_sublist _) proper.nodup).symm
  | fill count =>
    have before : keys.inUse.Sublist (keys.fill count).inUse := by
      rw [inUse_fill]
      exact List.sublist_append_left _ _
    exact filter_mem_of_sublist before nodup
  | _ => rfl

/-- What a command makes the sequence let go has left it. -/
theorem departed_released (proper : keys.Proper) {command : KeyCommand} {key : Key}
    (gone : key ∈ keys.released command) : (keys.after command).Departed key := by
  cases command with
  | release position => exact proper.departed_release (Option.mem_toList.mp gone)
  | releaseAll => exact ⟨proper.allotted key gone, List.not_mem_nil⟩
  | _ => cases gone

/-- A command leaves in the sequence all that it does not make it let go. -/
theorem mem_after_iff (proper : keys.Proper) {command : KeyCommand} {key : Key}
    (inside : key ∈ keys.inUse) :
    key ∈ (keys.after command).inUse ↔ key ∉ keys.released command := by
  refine ⟨fun still gone => (proper.departed_released gone).2 still, fun kept => ?_⟩
  cases command with
  | allocate position => exact (mem_inUse_allocate position key).mpr (.inr inside)
  | release position =>
    obtain ⟨place, here⟩ := List.mem_iff_getElem?.mp inside
    refine List.mem_eraseIdx_iff_getElem?.mpr ⟨place, fun same => kept ?_, here⟩
    rw [same] at here
    exact Option.mem_toList.mpr here
  | releaseAll => exact absurd inside kept
  | fill count =>
    show key ∈ (keys.fill count).inUse
    rw [inUse_fill]
    exact List.mem_append_left _ inside
  | _ => exact inside

/-- The keys that stay in the sequence keep their order. -/
theorem filter_after (proper : keys.Proper) (command : KeyCommand) :
    (keys.after command).inUse.filter (· ∈ keys.inUse) =
      keys.inUse.filter (· ∉ keys.released command) := by
  rw [proper.keeps_order]
  exact List.filter_congr fun key inside => decide_eq_decide.mpr (proper.mem_after_iff inside)

/-- What a command gives out is what the sequence holds for the first time. -/
theorem given_after (proper : keys.Proper) (command : KeyCommand) :
    (keys.after command).given = keys.given ++ keys.gained command := by
  have none : keys.inUse.filter (· ∉ keys.inUse) = [] :=
    List.filter_eq_nil_iff.mpr fun key inside => by simpa using inside
  cases command with
  | allocate position =>
    have fresh : keys.freshKey ∉ keys.inUse :=
      fun inside => keys.not_allotted_freshKey (proper.allotted _ inside)
    have within : keys.clamp position ≤ keys.inUse.length := Nat.min_le_right _ _
    have moved := (List.perm_insertIdx keys.freshKey keys.inUse within).filter (· ∉ keys.inUse)
    simp only [List.filter_cons, fresh, not_false_eq_true, decide_true, if_true, none] at moved
    have single : keys.gained (.allocate position) = [keys.freshKey] :=
      List.perm_singleton.mp moved
    rw [single]
    exact keys.given_allocate position
  | fill count =>
    have new : keys.gained (.fill count) =
        (List.range count).map fun offset => ⟨keys.container, keys.nextSeq + offset⟩ := by
      show (keys.fill count).inUse.filter (· ∉ keys.inUse) = _
      rw [inUse_fill, List.filter_append, none, List.nil_append, List.filter_eq_self]
      intro key inside
      obtain ⟨offset, _, rfl⟩ := List.mem_map.mp inside
      exact decide_eq_true fun held => absurd (proper.allotted _ held).2 (by simp)
    rw [new]
    exact keys.given_fill count
  | release position =>
    have old : keys.gained (.release position) = [] :=
      List.filter_eq_nil_iff.mpr fun key inside => by
        simpa using List.mem_of_mem_eraseIdx inside
    rw [old, List.append_nil]
    rfl
  | releaseAll => exact (List.append_nil _).symm
  | _ =>
    show keys.given = keys.given ++ keys.inUse.filter (· ∉ keys.inUse)
    rw [none, List.append_nil]

/-- What commands give out is what the sequence comes to hold by them. -/
theorem given_afterAll (proper : keys.Proper) (lineage : List KeyCommand) :
    (keys.afterAll lineage).given = keys.given ++ keys.gainedBy lineage := by
  induction lineage generalizing keys with
  | nil => exact (List.append_nil _).symm
  | cons command lineage ih =>
    rw [gainedBy, ← List.append_assoc, ← proper.given_after]
    exact ih (proper.after command)

end Proper

/-- A sequence that started with as many keys as given is what its lineage has made of it. -/
structure Descends (container length : Nat) (lineage : List KeyCommand) (keys : KeySequence) :
    Prop where
  /-- The commands of the lineage lead to it. -/
  outcome : keys = (ofLength container length).afterAll lineage
  /-- It belongs to the list that it was made for. -/
  belongs : keys.container = container
  /-- Its keys are its own, and are numbered below its counter. -/
  own : ∀ key ∈ keys.inUse, key.container = container ∧ key.seq < keys.nextSeq
  /-- Its keys are different. -/
  nodup : keys.inUse.Nodup
  /-- Its counter is the number of keys that have ever been asked for. -/
  asked : keys.nextSeq =
    lineage.foldl (fun total command => total + command.requested) length
  /-- It is the number of keys that it has ever held. -/
  counter : keys.nextSeq = ((ofLength container length).inUse ++
    (ofLength container length).gainedBy lineage).length
  /-- It has come to hold each of them once. -/
  once : ((ofLength container length).inUse ++
    (ofLength container length).gainedBy lineage).Nodup
  /-- At every position within it stands a key, and this is the position of the key. -/
  within : ∀ position < keys.size, ∃ key,
    keys.keyAt? position = some key ∧ keys.positionOf? key = some position
  /-- A key stands where it is found. -/
  found : ∀ key position, keys.positionOf? key = some position ↔ keys.keyAt? position = some key
  /-- A key is not found exactly if it is not held. -/
  missing : ∀ key, keys.positionOf? key = none ↔ key ∉ keys.inUse
  /-- A key that was let go at any time is not found any more. -/
  gone : ∀ earlier command later, lineage = earlier ++ command :: later →
    ∀ key ∈ ((ofLength container length).afterAll earlier).released command,
      keys.positionOf? key = none
  /-- Whatever command comes next, the keys that it does not make the sequence let go stay in
  their order. -/
  order : ∀ command, (keys.after command).inUse.filter (· ∈ keys.inUse) =
    keys.inUse.filter (· ∉ keys.released command)
  /-- A position past the end has no key to let go, and nothing changes. -/
  beyond : ∀ position, keys.size ≤ position →
    keys.released (.release position) = [] ∧ keys.after (.release position) = keys

/-- A sequence is what its lineage has made of it. -/
theorem descends_afterAll (container length : Nat) (lineage : List KeyCommand) :
    ((ofLength container length).afterAll lineage).Descends container length lineage := by
  have start := proper_ofLength container length
  have proper := start.afterAll lineage
  have follows := (ofLength container length).follows_afterAll lineage
  have given := start.given_afterAll lineage
  rw [given_ofLength] at given
  have belongs : ((ofLength container length).afterAll lineage).container = container :=
    follows.container.trans (container_fill _ _)
  refine ⟨rfl, belongs, fun key inside => ?_, proper.nodup, ?_, ?_, ?_, fun position within => ?_,
    proper.positionOf?_eq_some_iff, positionOf?_eq_none_iff _, ?_, proper.filter_after,
    fun position beyond => ?_⟩
  · obtain ⟨own, below⟩ := proper.allotted key inside
    exact ⟨own.trans belongs, below⟩
  · rw [nextSeq_afterAll, ofLength, nextSeq_fill, empty, Nat.zero_add]
  · rw [← given, KeySequence.given, List.length_map, List.length_range]
  · rw [← given]
    exact nodup_given _
  · have here := List.getElem?_eq_getElem within
    exact ⟨_, here, (proper.positionOf?_eq_some_iff _ _).mpr here⟩
  · rintro earlier command later rfl key gone
    have departed := (start.afterAll earlier).departed_released gone
    rw [positionOf?_eq_none_iff, afterAll, List.foldl_append, List.foldl_cons]
    exact ((follows_afterAll _ later).departed departed).2
  · obtain ⟨none, same⟩ := release_of_size_le beyond
    exact ⟨by rw [released, none, Option.toList_none], same⟩

end KeySequence

/-- The commands that two copies of a key sequence have come through, in the order of time. -/
structure Lineages where
  /-- Those of the copy that commands are given to. -/
  current : List KeyCommand := []
  /-- Those of the copy that is kept aside. -/
  saved : List KeyCommand := []

/-- The lineages after one more command. A copy takes over the lineage of what it is copied
from. -/
def Lineages.after (lineages : Lineages) : KeyCommand → Lineages
  | .save => ⟨lineages.current, lineages.current⟩
  | .swap => ⟨lineages.saved, lineages.current⟩
  | command => ⟨lineages.current ++ [command], lineages.saved⟩

namespace KeyHistory

/-- The lineages of the two copies after commands. -/
def lineages (commands : List KeyCommand) : Lineages := commands.foldl Lineages.after {}

/-- Each copy is what the commands of its lineage make of the sequence at the start. -/
theorem performAll_start (keys : KeySequence) (commands : List KeyCommand) :
    (start keys).performAll commands =
      ⟨keys.afterAll (lineages commands).current, keys.afterAll (lineages commands).saved⟩ := by
  induction commands using List.reverseRecOn with
  | nil => rfl
  | append_singleton commands last ih =>
    have performed : (start keys).performAll (commands ++ [last]) =
        (((start keys).performAll commands).perform last).2 := by
      rw [performAll, List.foldl_append]
      rfl
    have extended : lineages (commands ++ [last]) = (lineages commands).after last := by
      rw [lineages, List.foldl_append]
      rfl
    have further (lineage : List KeyCommand) (command : KeyCommand) :
        keys.afterAll (lineage ++ [command]) = (keys.afterAll lineage).after command := by
      rw [KeySequence.afterAll, List.foldl_append]
      rfl
    rw [performed, extended, ih]
    cases last with
    | positionOf key =>
      simp only [perform, Lineages.after, further]
      split
      · rfl
      · rfl
    | save | swap => rfl
    | _ =>
      simp only [perform, Lineages.after, further]
      rfl

/-- Whatever commands are given to a key sequence that starts with some keys or none, and to
copies of it, each copy is what its own lineage has made of it: its keys are its own, different
and numbered below its counter, which counts all keys that it has ever held; keys and positions
are found from each other; what it has let go it never finds again; and what it keeps stays in
order. -/
theorem copies_descend_by_their_lineages (container length : Nat) (commands : List KeyCommand) :
    let history := (start (.ofLength container length)).performAll commands
    history.current.Descends container length (lineages commands).current ∧
      history.saved.Descends container length (lineages commands).saved := by
  intro history
  have copies : history = _ := performAll_start _ commands
  rw [copies]
  exact ⟨KeySequence.descends_afterAll _ _ _, KeySequence.descends_afterAll _ _ _⟩

/-- A copy counts on by itself: the key that it gives out is also given out by what it was
copied from, and there it can be let go without leaving the copy. -/
example :
    let history := (start (.ofLength 1 2)).performAll
      [.save, .allocate 0, .swap, .allocate 2, .release 0, .swap]
    history.current.inUse = [⟨1, 2⟩, ⟨1, 0⟩, ⟨1, 1⟩] ∧
      history.saved.inUse = [⟨1, 1⟩, ⟨1, 2⟩] ∧
      (history.current.positionOf? ⟨1, 0⟩, history.saved.positionOf? ⟨1, 0⟩) = (some 1, none) := by
  decide

end KeyHistory

end Observables
