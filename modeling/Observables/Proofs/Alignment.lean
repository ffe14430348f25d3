import Observables.Proofs.Numbering

/-!
# Keys stay with their elements

Whenever a list is made, an element is put into it or its elements are
replaced, every new element is given a key. The history of a run records these
allotments, and the departures of keys when elements are removed or replaced.
In an orderly script the keys and the elements of a list stand side by side at
every moment, and beside a key stands the element that it was allotted to.
-/

namespace Observables

namespace Deed

/-- The keys that a deed gives out in a list, each with its element. -/
def allotments (container : ContainerRef) : Deed → List (Key × Value)
  | .listMade other keys items => if container = other then keys.zip items else []
  | .inserted other _ key item => if container = other then [(key, item)] else []
  | .replaced other _ allotted items => if container = other then allotted.zip items else []
  | _ => []

/-- The keys that a deed takes out of a list. -/
def departures (container : ContainerRef) : Deed → List Key
  | .removed other _ gone _ => if container = other then gone else []
  | .replaced other gone _ _ => if container = other then gone else []
  | .rekeyed other gone _ => if container = other then gone else []
  | _ => []

end Deed

/-- The keys that a list has given out in the course of a history. -/
def allotments (container : ContainerRef) (history : List Deed) : List (Key × Value) :=
  history.flatMap (Deed.allotments container)

/-- The keys that have left a list in the course of a history. -/
def departures (container : ContainerRef) (history : List Deed) : List Key :=
  history.flatMap (Deed.departures container)

section

variable {α β : Type}

/-- Insertions at the same place of two lists are one insertion into the pairs. -/
theorem zip_insertIdx {keys : List α} {items : List β} {position : Nat}
    (keysBound : position ≤ keys.length) (itemsBound : position ≤ items.length) (key : α)
    (item : β) :
    (keys.insertIdx position key).zip (items.insertIdx position item) =
      (keys.zip items).insertIdx position (key, item) := by
  induction position generalizing keys items with
  | zero => rfl
  | succ position ih =>
    cases keys with
    | nil => cases keysBound
    | cons first keys =>
      cases items with
      | nil => cases itemsBound
      | cons second items =>
        simp only [List.insertIdx_succ_cons, List.zip_cons_cons]
        rw [ih (Nat.le_of_succ_le_succ keysBound) (Nat.le_of_succ_le_succ itemsBound)]

/-- Removals from the same place of two lists are one removal from the pairs. -/
theorem zip_eraseIdx (keys : List α) (items : List β) (position : Nat) :
    (keys.eraseIdx position).zip (items.eraseIdx position) =
      (keys.zip items).eraseIdx position := by
  induction position generalizing keys items with
  | zero => cases keys <;> cases items <;> simp
  | succ position ih =>
    cases keys with
    | nil => rfl
    | cons first keys =>
      cases items with
      | nil => simp
      | cons second items => simp only [List.eraseIdx_cons_succ, List.zip_cons_cons, ih]

/-- A key that comes once stands beside one element. -/
theorem eq_of_mem_zip {keys : List α} {items : List β} (nodup : keys.Nodup) {key : α}
    {item other : β} (first : (key, item) ∈ keys.zip items)
    (second : (key, other) ∈ keys.zip items) : item = other := by
  obtain ⟨place, here⟩ := List.mem_iff_getElem?.mp first
  obtain ⟨again, there⟩ := List.mem_iff_getElem?.mp second
  rw [List.getElem?_zip_eq_some] at here there
  obtain ⟨bound, _⟩ := List.getElem?_eq_some_iff.mp here.1
  have same := (List.getElem?_inj bound nodup).mp (here.1.trans there.1.symm)
  rw [same, there.2] at here
  exact (Option.some.inj here.2).symm

end

/-- Keys and elements of a list side by side, as its history has them. -/
structure Contents.Aligned (contents : Contents) (allotted : List (Key × Value))
    (departed : List Key) : Prop where
  /-- There is one key for each element. -/
  length : contents.keys.inUse.length = contents.items.length
  /-- What stands side by side was allotted and has not left. -/
  rows : ∀ key item, (key, item) ∈ contents.keys.inUse.zip contents.items ↔
    (key, item) ∈ allotted ∧ key ∉ departed
  /-- What was allotted has been given out. -/
  given : ∀ key item, (key, item) ∈ allotted → contents.keys.Allotted key
  /-- What has left was given out. -/
  gone : ∀ key ∈ departed, contents.keys.Departed key
  /-- A key was allotted to one element. -/
  single : ∀ key item other, (key, item) ∈ allotted → (key, other) ∈ allotted → item = other

namespace Contents.Aligned

variable {items : List Value} {keys : KeySequence} {allotted : List (Key × Value)}
  {departed : List Key}

/-- A list that has just been made is aligned. -/
theorem made (container : Nat) (items : List Value) :
    (Contents.list items (.ofLength container items.length)).Aligned
      ((KeySequence.ofLength container items.length).inUse.zip items) [] := by
  have proper : (KeySequence.ofLength container items.length).Proper :=
    (KeySequence.Proper.empty container).fill _
  refine ⟨KeySequence.size_ofLength _ _, fun key item => by simp [Contents.keys, Contents.items],
    fun key item inside => ?_, fun key inside => ?_, fun key item other => ?_⟩
  · exact proper.allotted key (List.of_mem_zip inside).1
  · cases inside
  · exact eq_of_mem_zip proper.nodup

/-- An insertion keeps a list aligned. -/
theorem insert (aligned : (Contents.list items keys).Aligned allotted departed) {position : Nat}
    (within : position ≤ items.length) (item : Value) :
    (Contents.list (items.insertIdx position item) (keys.allocate position)).Aligned
      ((keys.freshKey, item) :: allotted) departed := by
  have length : keys.inUse.length = items.length := aligned.length
  have keysWithin : position ≤ keys.inUse.length := by omega
  have here : keys.clamp position = position := Nat.min_eq_left keysWithin
  have follows := keys.follows_allocate position
  have new (other : Value) : (keys.freshKey, other) ∉ allotted :=
    fun inside => keys.not_allotted_freshKey (aligned.given _ _ inside)
  refine ⟨?_, fun key other => ?_, fun key other inside => ?_, fun key inside => ?_,
    fun key first second one two => ?_⟩
  · show (keys.allocate position).size = (items.insertIdx position item).length
    rw [KeySequence.size_allocate, List.length_insertIdx_of_le_length within, KeySequence.size,
      length]
  · have pairs : position ≤ (keys.inUse.zip items).length := by
      rw [List.length_zip]
      omega
    show (key, other) ∈ (keys.inUse.insertIdx (keys.clamp position) keys.freshKey).zip
      (items.insertIdx position item) ↔ _
    rw [here, zip_insertIdx keysWithin within, List.mem_insertIdx pairs, List.mem_cons]
    have rows : (key, other) ∈ keys.inUse.zip items ↔ _ := aligned.rows key other
    rw [rows]
    constructor
    · rintro (same | inside)
      · cases same
        exact ⟨.inl rfl, fun gone => keys.not_allotted_freshKey (aligned.gone _ gone).1⟩
      · exact ⟨.inr inside.1, inside.2⟩
    · rintro ⟨same | inside, stays⟩
      · exact .inl same
      · exact .inr ⟨inside, stays⟩
  · rcases List.mem_cons.mp inside with same | inside
    · cases same
      exact ⟨rfl, Nat.lt_succ_self _⟩
    · exact follows.allotted (aligned.given key other inside)
  · exact follows.departed (aligned.gone key inside)
  · rcases List.mem_cons.mp one with same | one
    · cases same
      rcases List.mem_cons.mp two with again | two
      · cases again
        rfl
      · exact absurd two (new second)
    · rcases List.mem_cons.mp two with same | two
      · cases same
        exact absurd one (new first)
      · exact aligned.single key first second one two

/-- A removal keeps a list aligned. -/
theorem remove (aligned : (Contents.list items keys).Aligned allotted departed)
    (proper : keys.Proper) {position : Nat} (within : position < items.length) :
    (Contents.list (items.eraseIdx position) (keys.release position)).Aligned allotted
      ((keys.keyAt? position).toList ++ departed) := by
  have length : keys.inUse.length = items.length := aligned.length
  have keysWithin : position < keys.inUse.length := by omega
  have there : keys.keyAt? position = some keys.inUse[position] :=
    List.getElem?_eq_getElem keysWithin
  rw [there, Option.toList_some, List.singleton_append]
  refine ⟨?_, fun key other => ?_, aligned.given, fun key inside => ?_, aligned.single⟩
  · show (keys.inUse.eraseIdx position).length = (items.eraseIdx position).length
    rw [List.length_eraseIdx_of_lt keysWithin, List.length_eraseIdx_of_lt within, length]
  · show (key, other) ∈ (keys.inUse.eraseIdx position).zip (items.eraseIdx position) ↔ _
    have rows : (key, other) ∈ keys.inUse.zip items ↔ _ := aligned.rows key other
    rw [zip_eraseIdx, List.mem_cons, not_or, and_left_comm, ← rows,
      List.mem_eraseIdx_iff_getElem?]
    constructor
    · rintro ⟨place, apart, found⟩
      refine ⟨fun same => ?_, List.mem_of_getElem? found⟩
      rw [List.getElem?_zip_eq_some] at found
      obtain ⟨bound, _⟩ := List.getElem?_eq_some_iff.mp found.1
      refine apart ((List.getElem?_inj bound proper.nodup).mp (found.1.trans ?_))
      rw [same]
      exact there.symm
    · rintro ⟨apart, inside⟩
      obtain ⟨place, found⟩ := List.mem_iff_getElem?.mp inside
      refine ⟨place, fun same => ?_, found⟩
      rw [List.getElem?_zip_eq_some, same] at found
      exact apart (Option.some.inj (found.1.symm.trans there))
  · rcases List.mem_cons.mp inside with same | inside
    · rw [same]
      exact proper.departed_release there
    · exact (keys.follows_release position).departed (aligned.gone key inside)

/-- A replacement keeps a list aligned. -/
theorem replace (aligned : (Contents.list items keys).Aligned allotted departed)
    (proper : keys.Proper) (others : List Value) :
    let fresh := keys.releaseAll.fill others.length
    (Contents.list others fresh).Aligned (fresh.inUse.zip others ++ allotted)
      (keys.inUse ++ departed) := by
  intro fresh
  have filled : fresh.Proper := (KeySequence.Proper.releaseAll keys).fill _
  have follows : fresh.Follows keys.releaseAll := keys.releaseAll.follows_fill _
  have old (key : Key) (inside : key ∈ fresh.inUse) : ¬ keys.Allotted key :=
    fun allotted => List.not_mem_nil (follows.kept key inside allotted)
  have kept : fresh.Follows keys := follows.trans keys.follows_releaseAll
  refine ⟨KeySequence.length_inUse_fill_releaseAll _ _, fun key other => ?_,
    fun key other inside => ?_, fun key inside => ?_, fun key first second one two => ?_⟩
  · show (key, other) ∈ fresh.inUse.zip others ↔ _
    rw [List.mem_append, List.mem_append, not_or]
    constructor
    · intro inside
      have new := old key (List.of_mem_zip inside).1
      exact ⟨.inl inside, fun used => new (proper.allotted key used),
        fun gone => new (aligned.gone key gone).1⟩
    · rintro ⟨inside | inside, unused, stays⟩
      · exact inside
      · exact absurd (List.of_mem_zip ((aligned.rows key other).mpr ⟨inside, stays⟩)).1 unused
  · rcases List.mem_append.mp inside with inside | inside
    · exact filled.allotted key (List.of_mem_zip inside).1
    · exact kept.allotted (aligned.given key other inside)
  · rcases List.mem_append.mp inside with inside | inside
    · exact KeySequence.departed_fill_releaseAll (proper.allotted key inside) _
    · exact kept.departed (aligned.gone key inside)
  · rcases List.mem_append.mp one with one | one
    · rcases List.mem_append.mp two with two | two
      · exact eq_of_mem_zip filled.nodup one two
      · exact absurd (aligned.given key second two) (old key (List.of_mem_zip one).1)
    · rcases List.mem_append.mp two with two | two
      · exact absurd (aligned.given key first one) (old key (List.of_mem_zip two).1)
      · exact aligned.single key first second one two

/-- A cell has neither keys nor elements. -/
theorem cell (value : Value) : (Contents.cell value).Aligned [] [] := by
  refine ⟨rfl, fun key item => ?_, fun key item inside => ?_, fun key inside => ?_,
    fun key item other inside => ?_⟩
  · simp [Contents.keys, Contents.items, KeySequence.empty]
  · cases inside
  · cases inside
  · cases inside

/-- What has no elements to give keys to is aligned as long as none was given one. -/
theorem of_not_isList {contents : Contents} (cell : contents.isList = false) :
    contents.Aligned [] [] := by
  cases contents with
  | cell value => exact .cell value
  | list => cases cell

/-- Storing a value moves neither keys nor elements. -/
theorem store {contents : Contents} (aligned : contents.Aligned allotted departed)
    (value : Value) : (contents.store value).Aligned allotted departed := by
  cases contents with
  | cell =>
    exact ⟨aligned.length, aligned.rows, aligned.given, aligned.gone, aligned.single⟩
  | list => exact aligned

end Contents.Aligned

/-- A list has elements and keys. -/
theorem Contents.exists_list {contents : Contents} (isList : contents.isList = true) :
    ∃ items keys, contents = .list items keys := by
  cases contents with
  | cell => cases isList
  | list items keys => exact ⟨items, keys, rfl⟩

/-- What has an element is a list. -/
theorem Container.isList_of_items {held : Container} {position : Nat} {item : Value}
    (there : held.items[position]? = some item) : held.contents.isList = true := by
  rcases held with ⟨_, _, contents, _, _, _, _⟩
  cases contents with
  | cell => cases there
  | list => rfl

/-- Every list is aligned with its history. -/
structure World.Aligned (world : World) (history : List Deed) : Prop where
  /-- Keys and elements stand side by side. -/
  contents : ∀ container, (world.container container).contents.Aligned
    (allotments container history) (departures container history)
  /-- Only lists give out keys. -/
  lists : ∀ container, (world.container container).contents.isList = false →
    allotments container history = [] ∧ departures container history = []

section

variable {world other : World} {rest taken put : List Frame} {deed : Deed}
  {history : List Deed}

/-- Only of lists and of what becomes one are keys given out or taken away. -/
theorem Turn.touches (turn : Turn world rest taken deed other put)
    (held : world.Held (taken ++ rest) history) (container : ContainerRef) :
    deed.allotments container = [] ∧ deed.departures container = [] ∨
      (world.container container).contents.isList = true ∨
      container = world.containers.size ∧ ∃ keys items, deed = .listMade container keys items := by
  have elsewhere {target : ContainerRef} (isList : (world.container target).contents.isList = true)
      (apart : container ≠ target → deed.allotments container = [] ∧
        deed.departures container = []) :
      deed.allotments container = [] ∧ deed.departures container = [] ∨
        (world.container container).contents.isList = true ∨
        container = world.containers.size ∧
          ∃ keys items, deed = .listMade container keys items := by
    by_cases here : container = target
    · rw [here]
      exact .inr (.inl isList)
    · exact .inl (apart here)
  cases turn with
  | inserted _ _ isList => exact elsewhere isList fun apart => ⟨if_neg apart, rfl⟩
  | removed _ _ _ there =>
    have isList := Container.isList_of_items there
    exact elsewhere isList fun apart => ⟨rfl, if_neg apart⟩
  | replaced =>
    have isList := held.lists _ List.mem_cons_self
    exact elsewhere isList fun apart => ⟨if_neg apart, if_neg apart⟩
  | rekeyed =>
    have isList := held.lists _ List.mem_cons_self
    exact elsewhere isList fun apart => ⟨rfl, if_neg apart⟩
  | listMade =>
    by_cases here : container = world.containers.size
    · subst here
      exact .inr (.inr ⟨rfl, _, _, rfl⟩)
    · exact .inl ⟨if_neg here, rfl⟩
  | _ => exact .inl ⟨rfl, rfl⟩

/-- A turn gives no keys to what is no list after it. -/
theorem Turn.quiet_of_not_isList (turn : Turn world rest taken deed other put)
    (held : world.Held (taken ++ rest) history) {container : ContainerRef}
    (cell : (other.container container).contents.isList = false) :
    deed.allotments container = [] ∧ deed.departures container = [] := by
  rcases turn.touches held container with quiet | isList | ⟨last, keys, items, made⟩
  · exact quiet
  · rw [turn.isList (World.lt_size_of_isList isList), isList] at cell
    cases cell
  · subst made
    cases turn with
    | @listMade _ _ name realm _ _ _ _ _ _ same =>
      rw [same.container] at cell
      have row := World.container_makeContainer_self (world.takeListId realm) name
      cases (congrArg (·.contents.isList) (row _)).symm.trans cell

/-- A list is aligned after a removal from it. -/
theorem Contents.Aligned.removed {held : Container} {container : ContainerRef} {position : Nat}
    {item : Value} {allotted : List (Key × Value)} {departed : List Key}
    (before : held.contents.Aligned allotted departed) (proper : held.keys.Proper)
    (there : held.items[position]? = some item) :
    let deed : Deed := .removed container position (held.keys.keyAt? position).toList item
    (deed.onContainer container held).contents.Aligned (deed.allotments container ++ allotted)
      (deed.departures container ++ departed) := by
  obtain ⟨items, keys, list⟩ := Contents.exists_list (Container.isList_of_items there)
  obtain ⟨within, _⟩ := List.getElem?_eq_some_iff.mp there
  simp only [Container.items, Container.keys, list] at within proper
  simp only [Deed.onContainer, Deed.allotments, Deed.departures, if_true, List.nil_append,
    Container.keys, list]
  rw [list] at before
  exact before.remove proper within

/-- A list is aligned after all its elements and keys have been replaced. -/
theorem Contents.Aligned.replaced {held : Container} {container : ContainerRef}
    {allotted : List (Key × Value)} {departed : List Key}
    (before : held.contents.Aligned allotted departed) (proper : held.keys.Proper)
    (isList : held.contents.isList = true) (items : List Value) :
    let deed : Deed := .replaced container held.keys.inUse
      (held.keys.releaseAll.fill items.length).inUse items
    (deed.onContainer container held).contents.Aligned (deed.allotments container ++ allotted)
      (deed.departures container ++ departed) := by
  obtain ⟨olds, keys, list⟩ := Contents.exists_list isList
  simp only [Container.keys, list] at proper
  simp only [Deed.onContainer, Deed.allotments, Deed.departures, if_true, Container.keys, list]
  rw [list] at before
  exact before.replace proper items

/-- A turn keeps a container aligned that is there, unless it replaces the keys of a list that
is read. -/
theorem Turn.aligned_of_lt (turn : Turn world rest taken deed other put)
    (held : world.Held (taken ++ rest) history) (numbered : world.Numbered)
    {container : ContainerRef} (old : container < world.containers.size)
    (fills : ∀ released allotted, deed ≠ .rekeyed container released allotted)
    {allotted : List (Key × Value)} {departed : List Key}
    (before : (world.container container).contents.Aligned allotted departed) :
    (other.container container).contents.Aligned (deed.allotments container ++ allotted)
      (deed.departures container ++ departed) := by
  have same : (other.container container).contents =
      (deed.onContainer container (world.container container)).contents :=
    congrArg (·.contents) (turn.container old)
  rw [same]
  cases turn with
  | @inserted _ _ target position item _ _ _ isList _ within =>
    by_cases here : container = target
    · subst here
      obtain ⟨items, keys, list⟩ := Contents.exists_list isList
      simp only [Deed.onContainer, Deed.allotments, Deed.departures, if_true,
        List.singleton_append, List.nil_append, Container.keys, list]
      rw [list] at before
      rw [Container.items, list] at within
      exact before.insert within item
    · simp only [Deed.onContainer, Deed.allotments, Deed.departures, if_neg here]
      exact before
  | @removed _ _ target position item _ _ _ _ _ there =>
    by_cases here : container = target
    · subst here
      exact before.removed (numbered.proper container) there
    · simp only [Deed.onContainer, Deed.allotments, Deed.departures, if_neg here]
      exact before
  | @replaced target items =>
    by_cases here : container = target
    · subst here
      exact before.replaced (numbered.proper container)
        (held.lists container List.mem_cons_self) items
    · simp only [Deed.onContainer, Deed.allotments, Deed.departures, if_neg here]
      exact before
  | @rekeyed target =>
    by_cases here : container = target
    · subst here
      exact absurd rfl (fills _ _)
    · simp only [Deed.onContainer, Deed.allotments, Deed.departures, if_neg here]
      exact before
  | @stored target =>
    simp only [Deed.onContainer, Deed.allotments, Deed.departures]
    split
    · exact before.store _
    · exact before
  | listMade =>
    have apart : container ≠ world.containers.size := Nat.ne_of_lt old
    simp only [Deed.onContainer, Deed.allotments, Deed.departures, if_neg apart]
    exact before
  | borrowed | setBegun | released =>
    simp only [Deed.onContainer, Deed.allotments, Deed.departures]
    split
    · exact before
    · exact before
  | _ => exact before

/-- A container that a turn makes is aligned. -/
theorem Turn.aligned_of_size_le (turn : Turn world rest taken deed other put)
    (held : world.Held (taken ++ rest) history) {container : ContainerRef}
    (beyond : world.containers.size ≤ container) :
    (other.container container).contents.Aligned (deed.allotments container)
      (deed.departures container) := by
  cases isList : (other.container container).contents.isList with
  | false =>
    obtain ⟨none, nothing⟩ := turn.quiet_of_not_isList held isList
    rw [none, nothing]
    exact .of_not_isList isList
  | true =>
    obtain ⟨_, _, made⟩ := turn.made held.sound beyond (World.lt_size_of_isList isList)
    obtain ⟨items, deed, contents, _⟩ := made isList
    rw [deed, contents]
    simp only [Deed.allotments, Deed.departures, if_true]
    exact .made _ items

/-- A turn keeps a container aligned, unless it replaces the keys of a list that is read. -/
theorem Turn.aligned (turn : Turn world rest taken deed other put)
    (held : world.Held (taken ++ rest) history) (numbered : world.Numbered)
    {container : ContainerRef}
    (fills : ∀ released allotted, deed ≠ .rekeyed container released allotted)
    (cells : (world.container container).contents.isList = false →
      allotments container history = [] ∧ departures container history = [])
    (aligned : container < world.containers.size → (world.container container).contents.Aligned
      (allotments container history) (departures container history)) :
    (other.container container).contents.Aligned (allotments container (deed :: history))
      (departures container (deed :: history)) := by
  rw [allotments, departures, List.flatMap_cons, List.flatMap_cons]
  rcases Nat.lt_or_ge container world.containers.size with old | beyond
  · exact turn.aligned_of_lt held numbered old fills (aligned old)
  · have blank : (world.container container).contents.isList = false := by
      rw [World.container, Table.entry_of_size_le beyond]
      rfl
    obtain ⟨allotted, departed⟩ := cells blank
    unfold allotments at allotted
    unfold departures at departed
    rw [allotted, departed, List.append_nil, List.append_nil]
    exact turn.aligned_of_size_le held beyond

/-- Only lists give out keys after a turn if only lists did so before. -/
theorem Turn.cells (turn : Turn world rest taken deed other put)
    (held : world.Held (taken ++ rest) history) {container : ContainerRef}
    (cells : (world.container container).contents.isList = false →
      allotments container history = [] ∧ departures container history = [])
    (cell : (other.container container).contents.isList = false) :
    allotments container (deed :: history) = [] ∧ departures container (deed :: history) = [] := by
  obtain ⟨none, nothing⟩ := turn.quiet_of_not_isList held cell
  rw [allotments, departures, List.flatMap_cons, List.flatMap_cons, none, nothing]
  refine cells ?_
  rcases Nat.lt_or_ge container world.containers.size with old | beyond
  · rw [← turn.isList old]
    exact cell
  · rw [World.container, Table.entry_of_size_le beyond]
    rfl

namespace World.Aligned

/-- Every turn of an orderly script keeps lists aligned. -/
theorem turn (aligned : world.Aligned history) (held : world.Held (taken ++ rest) history)
    (numbered : world.Numbered) (orderly : Orderly history)
    (turn : Turn world rest taken deed other put) : other.Aligned (deed :: history) where
  contents container := turn.aligned held numbered (turn.not_rekeyed held orderly _)
    (aligned.lists container) fun _ => aligned.contents container
  lists container := turn.cells held (aligned.lists container)

/-- Lists are aligned whenever an orderly script runs. -/
theorem preserved :
    Preserved (fun world stack history => world.Held stack history ∧ world.Numbered)
      fun world _ history => Orderly history → world.Aligned history where
  first tracing _ := ⟨fun _ => .cell _, fun _ _ => ⟨rfl, rfl⟩⟩
  alike same aligned orderly := by
    have before := aligned orderly
    refine ⟨fun container => ?_, fun container cell => ?_⟩
    · rw [same.container]
      exact before.contents container
    · rw [same.container] at cell
      exact before.lists container cell
  turn known aligned _ turn orderly :=
    (aligned orderly.of_cons).turn known.1 known.2 orderly.of_cons turn

end World.Aligned

end

/-- Lists are aligned at every moment of an orderly script. -/
theorem Moment.IsReached.aligned {moment : Moment} (reached : moment.IsReached)
    (orderly : Orderly moment.history) : moment.world.Aligned moment.history :=
  World.Aligned.preserved.reached (fun reached => ⟨reached.held, reached.numbered⟩)
    (fun same known => ⟨known.1.alike same, known.2.alike same⟩) reached orderly

/-- In an orderly script every list has one key for each element at every moment,
also while callbacks run and failures pass. The element at a position is the
only one that the key at the position was allotted to, and a key that has not
left its list stands beside its element. -/
theorem keys_stay_with_elements {moment : Moment} (reached : moment.IsReached)
    (orderly : Orderly moment.history) (container : ContainerRef) :
    let held := moment.world.container container
    let allotted := allotments container moment.history
    held.keys.inUse.length = held.items.length ∧ held.keys.inUse.Nodup ∧
    (∀ position key, held.keys.keyAt? position = some key →
      ∃ item, held.items[position]? = some item ∧
        ∀ other, (key, other) ∈ allotted ↔ other = item) ∧
    ∀ key item, (key, item) ∈ allotted → key ∉ departures container moment.history →
      ∃ position, held.keys.keyAt? position = some key ∧
        held.items[position]? = some item := by
  intro held allotted
  have aligned := (reached.aligned orderly).contents container
  refine ⟨aligned.length, (reached.numbered.proper container).nodup,
    fun position key there => ?_, fun key item given stays => ?_⟩
  · obtain ⟨bound, _⟩ := List.getElem?_eq_some_iff.mp there
    have within : position < held.items.length := aligned.length ▸ bound
    have beside : held.items[position]? = some held.items[position] :=
      List.getElem?_eq_getElem within
    have row : (key, held.items[position]) ∈ held.keys.inUse.zip held.items :=
      List.mem_of_getElem? (List.getElem?_zip_eq_some.mpr ⟨there, beside⟩)
    have given := ((aligned.rows _ _).mp row).1
    refine ⟨held.items[position], beside, fun other => ⟨fun again => ?_, fun same => ?_⟩⟩
    · exact aligned.single key other _ again given
    · rw [same]
      exact given
  · have row := (aligned.rows key item).mpr ⟨given, stays⟩
    obtain ⟨position, here⟩ := List.mem_iff_getElem?.mp row
    exact ⟨position, List.getElem?_zip_eq_some.mp here⟩

/-- An action that makes a list of two elements under the name L. -/
def pairMade : Script.Action :=
  ⟨"list", none, none,
    .makeList (.literal (.text "L")) (.literal (.list [.int 1, .int 2])) none .direct⟩

/-- An action that puts an element between the first two of the list L. -/
def thirdInserted : Script.Action :=
  ⟨"insert", none, some (.literal (.text "L")),
    .operate (.insertAt (.literal (.int 1)) (.literal (.int 3)))⟩

/-- While an insertion into a list of two elements is being announced, its key
stands at the position of the new element. -/
theorem keys_stay_with_elements_insertion :
    let moment := ((Moment.start false).begin pairMade).begin thirdInserted
    moment.IsReached ∧ Orderly moment.history ∧
      (moment.world.container 0).keys.keyAt? 1 = some ⟨0, 2⟩ ∧
      ∃ item, (moment.world.container 0).items[1]? = some item ∧
        ∀ other, (⟨0, 2⟩, other) ∈ allotments 0 moment.history ↔ other = item := by
  intro moment
  have reached : moment.IsReached :=
    ⟨false, .tail (.single (.begin rfl pairMade)) (.begin rfl thirdInserted)⟩
  have history : moment.history = [.inserted 0 1 ⟨0, 2⟩ (.int 3),
      .listMade 0 [⟨0, 0⟩, ⟨0, 1⟩] [.int 1, .int 2]] := rfl
  have orderly : Orderly moment.history := by
    intro container inside
    simp [history] at inside
  have there : (moment.world.container 0).keys.keyAt? 1 = some ⟨0, 2⟩ := rfl
  exact ⟨reached, orderly, there, (keys_stay_with_elements reached orderly 0).2.2.1 1 _ there⟩

end Observables
