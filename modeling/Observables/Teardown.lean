import Observables.Identity.Key

/-!
# Teardowns that wait for a key

While an element is announced, teardowns can be bound to its key. They wait
in order of registration until the key is run; running a key takes all of
them out at once. A key without waiting teardowns is not in the table.
-/

namespace Observables

/-- Teardowns by the key that they wait for. -/
structure TeardownTable (α : Type) where
  /-- Keys with their teardowns, in order of first registration. -/
  entries : List (Key × List α) := []
  deriving Inhabited

namespace TeardownTable

variable {α : Type}

/-- Put a teardown after those that wait for its key. -/
def place (key : Key) (teardown : α) : List (Key × List α) → List (Key × List α)
  | [] => [(key, [teardown])]
  | (other, waiting) :: rest =>
    if key = other then (other, waiting ++ [teardown]) :: rest
    else (other, waiting) :: place key teardown rest

/-- Bind a teardown to a key. -/
def register (table : TeardownTable α) (key : Key) (teardown : α) : TeardownTable α :=
  ⟨place key teardown table.entries⟩

/-- The teardowns that wait for a key, if the key is in the table. -/
def find? (table : TeardownTable α) (key : Key) : Option (List α) := table.entries.lookup key

/-- The teardowns that wait for a key, in order of registration. -/
def pending (table : TeardownTable α) (key : Key) : List α := (table.find? key).getD []

/-- Take a key out of the table. -/
def erase (table : TeardownTable α) (key : Key) : TeardownTable α :=
  ⟨table.entries.filter fun entry => key != entry.1⟩

/-- How many keys are in the table. -/
def tracked (table : TeardownTable α) : Nat := table.entries.length

private theorem lookup_place (entries : List (Key × List α)) (key other : Key) (teardown : α) :
    (place key teardown entries).lookup other =
      if other = key then some ((entries.lookup key).getD [] ++ [teardown])
      else entries.lookup other := by
  induction entries with
  | nil =>
    by_cases same : other = key
    · simp [place, same]
    · have apart : (other == key) = false := beq_false_of_ne same
      simp [place, List.lookup_cons, same, apart]
  | cons entry rest ih =>
    rcases entry with ⟨first, waiting⟩
    by_cases here : key = first
    · subst here
      by_cases same : other = key
      · simp [place, same]
      · have apart : (other == key) = false := beq_false_of_ne same
        simp [place, List.lookup_cons, same, apart]
    · have away : (key == first) = false := beq_false_of_ne here
      by_cases found : other = first
      · subst found
        have same : other ≠ key := fun equal => here equal.symm
        simp [place, here, same]
      · have apart : (other == first) = false := beq_false_of_ne found
        simpa [place, here, List.lookup_cons, apart, away] using ih

/-- A key that a teardown is bound to is in the table, and other keys are as they were. -/
theorem find?_register (table : TeardownTable α) (key other : Key) (teardown : α) :
    (table.register key teardown).find? other =
      if other = key then some (table.pending key ++ [teardown]) else table.find? other :=
  lookup_place table.entries key other teardown

/-- A teardown is the last that waits for its key, and other keys are as they were. -/
theorem pending_register (table : TeardownTable α) (key other : Key) (teardown : α) :
    (table.register key teardown).pending other =
      if other = key then table.pending key ++ [teardown] else table.pending other := by
  unfold pending
  rw [find?_register]
  split
  · rfl
  · rfl

private theorem lookup_filter (entries : List (Key × List α)) (key other : Key) :
    (entries.filter fun entry => key != entry.1).lookup other =
      if other = key then none else entries.lookup other := by
  induction entries with
  | nil => simp
  | cons entry rest ih =>
    rcases entry with ⟨first, waiting⟩
    by_cases here : key = first
    · subst here
      rw [List.filter_cons_of_neg (by simp), ih]
      split
      · rfl
      · next apart => rw [List.lookup_cons, beq_false_of_ne apart]
    · rw [List.filter_cons_of_pos (by simpa using here), List.lookup_cons, List.lookup_cons, ih]
      by_cases same : other = key
      · subst same
        rw [beq_false_of_ne here, if_pos rfl]
      · rw [if_neg same, if_neg same]

/-- A key that is taken out is not in the table any more; other keys are as they were. -/
theorem find?_erase (table : TeardownTable α) (key other : Key) :
    (table.erase key).find? other = if other = key then none else table.find? other :=
  lookup_filter table.entries key other

/-- A key that is taken out has no pending teardowns; other keys keep theirs. -/
theorem pending_erase (table : TeardownTable α) (key other : Key) :
    (table.erase key).pending other = if other = key then [] else table.pending other := by
  unfold pending
  rw [find?_erase]
  split
  · rfl
  · rfl

/-- Every key is in the table once, and something waits for it. -/
structure Proper (table : TeardownTable α) : Prop where
  /-- Keys are different. -/
  nodup : (table.entries.map (·.1)).Nodup
  /-- Something waits for every key. -/
  waiting : ∀ entry ∈ table.entries, entry.2 ≠ []

private theorem mem_place (key : Key) (teardown : α) (entries : List (Key × List α))
    (other : Key) :
    other ∈ (place key teardown entries).map (·.1) ↔
      other = key ∨ other ∈ entries.map (·.1) := by
  induction entries with
  | nil => simp [place]
  | cons entry rest ih =>
    rcases entry with ⟨first, waiting⟩
    by_cases here : key = first
    · subst here
      simp [place]
    · simp only [place, if_neg here, List.map_cons, List.mem_cons, ih]
      exact or_left_comm

private theorem nodup_place (key : Key) (teardown : α) {entries : List (Key × List α)}
    (nodup : (entries.map (·.1)).Nodup) :
    ((place key teardown entries).map (·.1)).Nodup := by
  induction entries with
  | nil => simp [place]
  | cons entry rest ih =>
    rcases entry with ⟨first, waiting⟩
    obtain ⟨new, others⟩ := List.nodup_cons.mp nodup
    by_cases here : key = first
    · simpa only [place, if_pos here, List.map_cons] using nodup
    · simp only [place, if_neg here, List.map_cons]
      refine List.nodup_cons.mpr ⟨fun inside => ?_, ih others⟩
      rcases (mem_place key teardown rest first).mp inside with same | inside
      · exact here same.symm
      · exact new inside

private theorem waiting_place (key : Key) (teardown : α) {entries : List (Key × List α)}
    (waiting : ∀ entry ∈ entries, entry.2 ≠ []) :
    ∀ entry ∈ place key teardown entries, entry.2 ≠ [] := by
  induction entries with
  | nil => simp [place]
  | cons entry rest ih =>
    rcases entry with ⟨first, before⟩
    intro entry inside
    by_cases here : key = first
    · rw [place, if_pos here] at inside
      rcases List.mem_cons.mp inside with same | inside
      · rw [same]
        exact List.append_ne_nil_of_right_ne_nil _ (List.cons_ne_nil _ _)
      · exact waiting entry (List.mem_cons_of_mem _ inside)
    · rw [place, if_neg here] at inside
      rcases List.mem_cons.mp inside with same | inside
      · rw [same]
        exact waiting _ List.mem_cons_self
      · exact ih (fun other there => waiting other (List.mem_cons_of_mem _ there)) entry inside

/-- A registration keeps a table proper. -/
theorem Proper.register {table : TeardownTable α} (proper : table.Proper) (key : Key)
    (teardown : α) : (table.register key teardown).Proper :=
  ⟨nodup_place key teardown proper.nodup, waiting_place key teardown proper.waiting⟩

/-- Taking a key out keeps a table proper. -/
theorem Proper.erase {table : TeardownTable α} (proper : table.Proper) (key : Key) :
    (table.erase key).Proper :=
  ⟨proper.nodup.sublist (List.filter_sublist.map _),
    fun entry inside => proper.waiting entry (List.mem_filter.mp inside).1⟩

private theorem mem_iff_lookup {entries : List (Key × List α)}
    (waiting : ∀ entry ∈ entries, entry.2 ≠ []) (key : Key) :
    key ∈ entries.map (·.1) ↔ (entries.lookup key).getD [] ≠ [] := by
  induction entries with
  | nil => simp
  | cons entry rest ih =>
    rcases entry with ⟨first, callbacks⟩
    have later := ih fun other there => waiting other (List.mem_cons_of_mem _ there)
    by_cases here : key = first
    · subst here
      simpa using waiting _ List.mem_cons_self
    · rw [List.map_cons, List.mem_cons, List.lookup_cons, beq_false_of_ne here, later]
      simp [here]

/-- The keys of a proper table are those with pending teardowns. -/
theorem Proper.mem_iff {table : TeardownTable α} (proper : table.Proper) (key : Key) :
    key ∈ table.entries.map (·.1) ↔ table.pending key ≠ [] :=
  mem_iff_lookup proper.waiting key

end TeardownTable

end Observables
