/-!
# Tables and directories

A table holds entries that are named by the number of their row. Rows are
added at the end and never leave, so a row number stays good for as long as
the table lives. A directory holds values under names; putting a value under
a name in use replaces the old one. What each operation does to a look-up is
stated beside it.
-/

namespace Observables

/-- Entries named by row number. -/
structure Table (α : Type) where
  /-- The rows, in the order in which they were added. -/
  rows : Array α := #[]

namespace Table

variable {α : Type}

/-- The number that the next row will have. -/
def size (table : Table α) : Nat := table.rows.size

/-- Add a row at the end; its number is the size before. -/
def add (table : Table α) (entry : α) : Table α := ⟨table.rows.push entry⟩

/-- The entry of a row, if there is such a row. -/
def get? (table : Table α) (row : Nat) : Option α := table.rows[row]?

/-- The entry of a row, and a blank entry where there is no row. -/
def entry [Inhabited α] (table : Table α) (row : Nat) : α := (table.get? row).getD default

/-- Change the entry of a row. Where there is no row nothing changes. -/
def modify (table : Table α) (row : Nat) (change : α → α) : Table α :=
  ⟨table.rows.modify row change⟩

@[simp] theorem size_add (table : Table α) (entry : α) :
    (table.add entry).size = table.size + 1 := Array.size_push _

@[simp] theorem size_modify (table : Table α) (row : Nat) (change : α → α) :
    (table.modify row change).size = table.size := Array.size_modify

/-- A new row is found under the size before, and every other row is as it was. -/
theorem get?_add (table : Table α) (entry : α) (row : Nat) :
    (table.add entry).get? row = if row = table.size then some entry else table.get? row := by
  simp only [add, get?, size]
  exact Array.getElem?_push

/-- A change is seen in its own row and in no other. -/
theorem get?_modify (table : Table α) (row other : Nat) (change : α → α) :
    (table.modify row change).get? other =
      if row = other then (table.get? other).map change else table.get? other := by
  simp only [modify, get?]
  exact Array.getElem?_modify

/-- A row that is not there has a blank entry. -/
theorem entry_of_size_le [Inhabited α] {table : Table α} {row : Nat} (beyond : table.size ≤ row) :
    table.entry row = default := by
  have none : table.get? row = none := Array.getElem?_eq_none beyond
  rw [entry, none]
  rfl

/-- The entry of a new row is the one that was added, and other entries are as they were. -/
theorem entry_add [Inhabited α] (table : Table α) (new : α) (row : Nat) :
    (table.add new).entry row = if row = table.size then new else table.entry row := by
  rw [entry, get?_add]
  split
  · rfl
  · rfl

/-- An entry after a change of a row that is there. -/
theorem entry_modify [Inhabited α] {table : Table α} {row : Nat} (inside : row < table.size)
    (other : Nat) (change : α → α) :
    (table.modify row change).entry other =
      if other = row then change (table.entry row) else table.entry other := by
  rw [entry, get?_modify]
  by_cases same : row = other
  · subst same
    have found : table.get? row = some table.rows[row] := Array.getElem?_eq_getElem inside
    simp only [if_true, entry, found, Option.map_some, Option.getD_some]
  · rw [if_neg same, if_neg (Ne.symm same)]
    rfl

/-- A change of a row that is not there changes no entry. -/
theorem entry_modify_of_size_le [Inhabited α] {table : Table α} {row : Nat}
    (beyond : table.size ≤ row) (other : Nat) (change : α → α) :
    (table.modify row change).entry other = table.entry other := by
  rw [entry, get?_modify]
  split
  · next same =>
    subst same
    have none : table.get? row = none := Array.getElem?_eq_none beyond
    rw [entry, none]
    rfl
  · rfl

/-- Two changes of one row are one change. -/
theorem modify_modify (table : Table α) (row : Nat) (first second : α → α) :
    (table.modify row first).modify row second = table.modify row (second ∘ first) := by
  rcases table with ⟨rows⟩
  have same : (rows.modify row first).modify row second = rows.modify row (second ∘ first) := by
    apply Array.ext_getElem?
    intro other
    rw [Array.getElem?_modify, Array.getElem?_modify, Array.getElem?_modify]
    split
    · rw [Option.map_map]
    · rfl
  simp only [modify, same]

/-- A change that keeps the entry of its row keeps the table. -/
theorem modify_eq_self {table : Table α} {row : Nat} {change : α → α}
    (kept : ∀ entry, table.get? row = some entry → change entry = entry) :
    table.modify row change = table := by
  rcases table with ⟨rows⟩
  have same : rows.modify row change = rows := by
    apply Array.ext_getElem?
    intro other
    rw [Array.getElem?_modify]
    split
    · next here =>
      subst here
      cases found : rows[row]? with
      | none => rfl
      | some entry => rw [Option.map_some, kept entry found]
    · rfl
  simp only [modify, same]

end Table

/-- Values under names. -/
structure Directory (α : Type) where
  /-- Names with their values, the most recently written first. -/
  entries : List (String × α) := []
  deriving Inhabited

namespace Directory

variable {α : Type}

/-- The value under a name. -/
def find? (directory : Directory α) (name : String) : Option α :=
  directory.entries.lookup name

/-- Forget a name. -/
def erase (directory : Directory α) (name : String) : Directory α :=
  ⟨directory.entries.filter fun entry => name != entry.1⟩

/-- Put a value under a name, replacing what was there. -/
def insert (directory : Directory α) (name : String) (value : α) : Directory α :=
  ⟨(name, value) :: (directory.erase name).entries⟩

/-- Put several values under their names; later ones replace earlier ones. -/
def insertAll (directory : Directory α) (entries : List (String × α)) : Directory α :=
  entries.foldl (fun directory entry => directory.insert entry.1 entry.2) directory

/-- A name is in use. -/
def contains (directory : Directory α) (name : String) : Bool := (directory.find? name).isSome

/-- The values under all names in use. -/
def values (directory : Directory α) : List α := directory.entries.map (·.2)

private theorem lookup_filter_ne (entries : List (String × α)) {name other : String}
    (different : other ≠ name) :
    (entries.filter fun entry => name != entry.1).lookup other = entries.lookup other := by
  have apart : (other == name) = false := beq_false_of_ne different
  induction entries with
  | nil => rfl
  | cons entry rest ih =>
    rcases entry with ⟨key, value⟩
    by_cases same : name = key
    · subst same
      simp [List.lookup_cons, ih, apart]
    · simp [List.lookup_cons, ih, same]

private theorem lookup_filter_self (entries : List (String × α)) (name : String) :
    (entries.filter fun entry => name != entry.1).lookup name = none := by
  induction entries with
  | nil => rfl
  | cons entry rest ih =>
    rcases entry with ⟨key, value⟩
    by_cases same : name = key
    · subst same
      simp [ih]
    · have apart : (name == key) = false := beq_false_of_ne same
      simp [List.lookup_cons, ih, same, apart]

/-- After forgetting a name it is not found, and every other name is as it was. -/
theorem find?_erase (directory : Directory α) (name other : String) :
    (directory.erase name).find? other =
      if other = name then none else directory.find? other := by
  by_cases same : other = name
  · subst same
    simp [find?, erase, lookup_filter_self directory.entries other]
  · simpa [find?, erase, same] using lookup_filter_ne directory.entries same

/-- A value put under a name is found there, and every other name is as it was. -/
theorem find?_insert (directory : Directory α) (name other : String) (value : α) :
    (directory.insert name value).find? other =
      if other = name then some value else directory.find? other := by
  by_cases same : other = name
  · subst same
    simp [find?, insert]
  · have kept := directory.find?_erase name other
    have apart : (other == name) = false := beq_false_of_ne same
    simp only [find?, same, if_false] at kept
    simp [find?, insert, List.lookup_cons, same, apart, kept]

/-- No name stands twice in a directory. -/
def Distinct (directory : Directory α) : Prop := (directory.entries.map (·.1)).Nodup

/-- Forgetting a name leaves the others distinct. -/
theorem Distinct.erase {directory : Directory α} (distinct : directory.Distinct) (name : String) :
    (directory.erase name).Distinct :=
  distinct.sublist (List.filter_sublist.map _)

/-- A value put under a name replaces what was there. -/
theorem Distinct.insert {directory : Directory α} (distinct : directory.Distinct) (name : String)
    (value : α) : (directory.insert name value).Distinct := by
  refine List.nodup_cons.mpr ⟨fun there => ?_, distinct.erase name⟩
  obtain ⟨entry, inside, same⟩ := List.mem_map.mp there
  have apart := (List.mem_filter.mp inside).2
  simp [same] at apart

/-- The values are what is found under names. -/
theorem Distinct.mem_values {directory : Directory α} (distinct : directory.Distinct) (value : α) :
    value ∈ directory.values ↔ ∃ name, directory.find? name = some value := by
  rw [values, List.mem_map]
  constructor
  · rintro ⟨⟨name, value⟩, inside, rfl⟩
    obtain ⟨first, others, split⟩ := List.append_of_mem inside
    refine ⟨name, List.lookup_eq_some_iff.mpr ⟨first, others, split, fun entry before => ?_⟩⟩
    rw [Distinct, split, List.map_append, List.nodup_append] at distinct
    have apart := distinct.2.2 entry.1 (List.mem_map_of_mem before) name List.mem_cons_self
    simpa using Ne.symm apart
  · rintro ⟨name, found⟩
    obtain ⟨first, others, split, _⟩ := List.lookup_eq_some_iff.mp found
    exact ⟨(name, value), by rw [split]; simp, rfl⟩

end Directory

end Observables
