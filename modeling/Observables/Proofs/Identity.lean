import Observables.Identity.KeySequence
import Mathlib.Data.List.Nodup

/-!
# The identity of keys

The keys of a sequence are its own, are numbered below its counter and are all
different. A sequence that comes later in the life of a list may have given
out further keys, but it never takes up a key again that has left. All keys
that it has ever given out can be told from its counter.
-/

namespace Observables.KeySequence

variable {keys later earlier : KeySequence}

/-- The sequence has given out the key at some time. -/
def Allotted (keys : KeySequence) (key : Key) : Prop :=
  key.container = keys.container ∧ key.seq < keys.nextSeq

/-- The sequence has given out the key and has taken it back. -/
def Departed (keys : KeySequence) (key : Key) : Prop :=
  keys.Allotted key ∧ key ∉ keys.inUse

/-- The keys in use have been given out, each once. -/
structure Proper (keys : KeySequence) : Prop where
  /-- Keys in use have been given out. -/
  allotted : ∀ key ∈ keys.inUse, keys.Allotted key
  /-- Keys in use are different. -/
  nodup : keys.inUse.Nodup

/-- One sequence is what another one has become. -/
structure Follows (later earlier : KeySequence) : Prop where
  /-- They belong to the same list. -/
  container : later.container = earlier.container
  /-- The counter does not go back. -/
  nextSeq : earlier.nextSeq ≤ later.nextSeq
  /-- No key is taken up again. -/
  kept : ∀ key ∈ later.inUse, earlier.Allotted key → key ∈ earlier.inUse

/-- The next key has not been given out. -/
theorem not_allotted_freshKey (keys : KeySequence) : ¬ keys.Allotted keys.freshKey :=
  fun allotted => Nat.lt_irrefl _ allotted.2

/-- After an allocation the fresh key is in use besides those that were. -/
theorem mem_inUse_allocate (position : Nat) (key : Key) :
    key ∈ (keys.allocate position).inUse ↔ key = keys.freshKey ∨ key ∈ keys.inUse := by
  have within : keys.clamp position ≤ keys.inUse.length := Nat.min_le_right _ _
  exact List.mem_insertIdx within

/-- An allocation at the end puts the fresh key after those in use. -/
theorem inUse_allocate_size (keys : KeySequence) :
    (keys.allocate keys.size).inUse = keys.inUse ++ [keys.freshKey] := by
  simp only [allocate, clamp, Nat.min_self, size]
  exact List.insertIdx_length_self

/-- Filling puts fresh keys after those in use, numbered from the counter on. -/
theorem inUse_fill (keys : KeySequence) (count : Nat) :
    (keys.fill count).inUse = keys.inUse ++
      (List.range count).map fun offset => ⟨keys.container, keys.nextSeq + offset⟩ := by
  induction count generalizing keys with
  | zero => simp [fill]
  | succ count ih =>
    rw [fill, ih, inUse_allocate_size, List.range_succ_eq_map, List.map_cons, List.map_map,
      List.append_assoc, List.singleton_append]
    congr 2
    apply List.map_congr_left
    intro offset _
    simp only [Function.comp, allocate, Key.mk.injEq, true_and]
    omega

/-- Filling moves the counter by the number of keys. -/
theorem nextSeq_fill (keys : KeySequence) (count : Nat) :
    (keys.fill count).nextSeq = keys.nextSeq + count := by
  induction count generalizing keys with
  | zero => rfl
  | succ count ih =>
    rw [fill, ih]
    simp only [allocate]
    omega

/-- A replacement has the requested number of keys. -/
theorem length_inUse_fill_releaseAll (keys : KeySequence) (count : Nat) :
    (keys.releaseAll.fill count).inUse.length = count := by
  have filled := keys.releaseAll.size_fill count
  rwa [size, releaseAll, size, List.length_nil, Nat.zero_add] at filled

namespace Follows

/-- Nothing has happened to a sequence. -/
theorem refl (keys : KeySequence) : keys.Follows keys :=
  ⟨rfl, Nat.le_refl _, fun _ inside _ => inside⟩

/-- What has been given out stays so. -/
theorem allotted (follows : later.Follows earlier) {key : Key} (allotted : earlier.Allotted key) :
    later.Allotted key :=
  ⟨allotted.1.trans follows.container.symm, Nat.lt_of_lt_of_le allotted.2 follows.nextSeq⟩

/-- What follows a later sequence follows the earlier one. -/
theorem trans {last : KeySequence} (second : last.Follows later) (first : later.Follows earlier) :
    last.Follows earlier :=
  ⟨second.container.trans first.container, Nat.le_trans first.nextSeq second.nextSeq,
    fun key inside allotted =>
      first.kept key (second.kept key inside (first.allotted allotted)) allotted⟩

/-- A key that has left does not return. -/
theorem departed (follows : later.Follows earlier) {key : Key} (departed : earlier.Departed key) :
    later.Departed key :=
  ⟨follows.allotted departed.1, fun inside => departed.2 (follows.kept key inside departed.1)⟩

end Follows

/-- An allocation follows. -/
theorem follows_allocate (keys : KeySequence) (position : Nat) :
    (keys.allocate position).Follows keys where
  container := rfl
  nextSeq := Nat.le_succ _
  kept key inside allotted := by
    rcases (mem_inUse_allocate position key).mp inside with rfl | inside
    · exact absurd allotted keys.not_allotted_freshKey
    · exact inside

/-- A release follows. -/
theorem follows_release (keys : KeySequence) (position : Nat) :
    (keys.release position).Follows keys where
  container := rfl
  nextSeq := Nat.le_refl _
  kept _ inside _ := List.mem_of_mem_eraseIdx inside

/-- A release of all keys follows. -/
theorem follows_releaseAll (keys : KeySequence) : keys.releaseAll.Follows keys where
  container := rfl
  nextSeq := Nat.le_refl _
  kept key inside _ := by cases inside

/-- Filling follows. -/
theorem follows_fill (keys : KeySequence) (count : Nat) : (keys.fill count).Follows keys := by
  induction count generalizing keys with
  | zero => exact .refl keys
  | succ count ih => exact (ih (keys.allocate keys.size)).trans (keys.follows_allocate _)

/-- After a replacement of all keys none of the old ones is in use. -/
theorem departed_fill_releaseAll {key : Key} (allotted : keys.Allotted key) (count : Nat) :
    (keys.releaseAll.fill count).Departed key := by
  have gone : keys.releaseAll.Departed key := ⟨allotted, List.not_mem_nil⟩
  exact (keys.releaseAll.follows_fill count).departed gone

namespace Proper

/-- The sequence of an empty list is proper. -/
theorem empty (container : Nat) : (KeySequence.empty container).Proper :=
  ⟨fun _ inside => absurd inside List.not_mem_nil, List.nodup_nil⟩

/-- An allocation keeps a sequence proper. -/
theorem allocate (proper : keys.Proper) (position : Nat) : (keys.allocate position).Proper where
  allotted key inside := by
    rcases (mem_inUse_allocate position key).mp inside with rfl | inside
    · exact ⟨rfl, Nat.lt_succ_self _⟩
    · exact (keys.follows_allocate position).allotted (proper.allotted key inside)
  nodup := by
    have within : keys.clamp position ≤ keys.inUse.length := Nat.min_le_right _ _
    have fresh : keys.freshKey ∉ keys.inUse :=
      fun inside => keys.not_allotted_freshKey (proper.allotted _ inside)
    have moved := List.perm_insertIdx keys.freshKey keys.inUse within
    exact moved.nodup_iff.mpr (List.nodup_cons.mpr ⟨fresh, proper.nodup⟩)

/-- A release keeps a sequence proper. -/
theorem release (proper : keys.Proper) (position : Nat) : (keys.release position).Proper where
  allotted key inside := proper.allotted key (List.mem_of_mem_eraseIdx inside)
  nodup := proper.nodup.sublist (List.eraseIdx_sublist _ _)

/-- A release of all keys leaves a proper sequence. -/
theorem releaseAll (keys : KeySequence) : keys.releaseAll.Proper :=
  ⟨fun _ inside => absurd inside List.not_mem_nil, List.nodup_nil⟩

/-- Filling keeps a sequence proper. -/
theorem fill (proper : keys.Proper) (count : Nat) : (keys.fill count).Proper := by
  induction count generalizing keys with
  | zero => exact proper
  | succ count ih => exact ih (proper.allocate keys.size)

/-- The key that a position loses has left. -/
theorem departed_release (proper : keys.Proper) {position : Nat} {key : Key}
    (there : keys.keyAt? position = some key) : (keys.release position).Departed key := by
  have inside : key ∈ keys.inUse := List.mem_of_getElem? there
  refine ⟨proper.allotted key inside, fun still => ?_⟩
  obtain ⟨other, apart, again⟩ := List.mem_eraseIdx_iff_getElem?.mp still
  obtain ⟨bound, _⟩ := List.getElem?_eq_some_iff.mp again
  exact apart ((List.getElem?_inj bound proper.nodup).mp (again.trans there.symm))

end Proper

/-- The keys that a sequence has given out, in the order in which it did. -/
def given (keys : KeySequence) : List Key :=
  (List.range keys.nextSeq).map fun seq => ⟨keys.container, seq⟩

/-- What is among the keys given out has been given out. -/
theorem mem_given (key : Key) : key ∈ keys.given ↔ keys.Allotted key := by
  rw [given, List.mem_map]
  constructor
  · rintro ⟨seq, inside, rfl⟩
    exact ⟨rfl, List.mem_range.mp inside⟩
  · rintro ⟨belongs, below⟩
    refine ⟨key.seq, List.mem_range.mpr below, ?_⟩
    rw [← belongs]

/-- No key is given out twice. -/
theorem nodup_given (keys : KeySequence) : keys.given.Nodup := by
  have apart : Function.Injective fun seq => (⟨keys.container, seq⟩ : Key) :=
    fun first second same => congrArg Key.seq same
  exact List.nodup_range.map apart

/-- An allocation gives out the fresh key. -/
theorem given_allocate (keys : KeySequence) (position : Nat) :
    (keys.allocate position).given = keys.given ++ [keys.freshKey] := by
  simp only [given, allocate, List.range_succ, List.map_append, List.map_cons, List.map_nil]
  rfl

/-- Filling gives out as many keys as are asked for. -/
theorem given_fill (keys : KeySequence) (count : Nat) :
    (keys.fill count).given = keys.given ++
      (List.range count).map fun offset => ⟨keys.container, keys.nextSeq + offset⟩ := by
  rw [given, given, nextSeq_fill, container_fill, List.range_add, List.map_append, List.map_map]
  rfl

/-- A replacement gives out the keys that are in use after it. -/
theorem given_fill_releaseAll (keys : KeySequence) (count : Nat) :
    (keys.releaseAll.fill count).given =
      keys.given ++ (keys.releaseAll.fill count).inUse := by
  rw [given_fill, inUse_fill]
  rfl

/-- A list that starts with some elements has given out a key for each of them. -/
theorem given_ofLength (container length : Nat) :
    (ofLength container length).given = (ofLength container length).inUse :=
  (empty container).given_fill_releaseAll length

end Observables.KeySequence
