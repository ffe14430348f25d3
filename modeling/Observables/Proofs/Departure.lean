import Observables.Proofs.Alignment

/-!
# Keys that have left their list

A key and a realm belong to one list, which has given the key out. Where no
action of the script runs teardowns itself, they are run for keys that have
left their list, and a key that has left does not come back. So whenever a
teardown is called its key is gone for good.
-/

namespace Observables

open Script

/-- A list of the realm has given out the key. -/
structure World.Owns (world : World) (realm : RealmRef) (key : Key) (container : ContainerRef) :
    Prop where
  /-- It is a list. -/
  isList : (world.container container).contents.isList = true
  /-- It belongs to the realm. -/
  realm : world.realmOf container = realm
  /-- It has given out the key. -/
  allotted : (world.container container).keys.Allotted key

/-- The key has left the list of the realm that has given it out. -/
def World.Left (world : World) (realm : RealmRef) (key : Key) : Prop :=
  ∃ container, world.Owns realm key container ∧
    key ∉ (world.container container).keys.inUse

/-- Only one list of a realm has given out a key. -/
theorem World.Owns.unique {world : World} (numbered : world.Numbered) {realm : RealmRef}
    {key : Key} {first second : ContainerRef} (one : world.Owns realm key first)
    (two : world.Owns realm key second) : first = second :=
  numbered.apart first second one.isList two.isList (one.realm.trans two.realm.symm)
    (one.allotted.1.symm.trans two.allotted.1)

/-- No action of the script runs teardowns itself. -/
def Undriven (history : List Deed) : Prop :=
  ∀ realm key batch, Deed.running .asked realm key batch ∉ history

/-- What was undriven in the end was undriven before. -/
theorem Undriven.of_cons {deed : Deed} {history : List Deed}
    (undriven : Undriven (deed :: history)) : Undriven history :=
  fun realm key batch inside => undriven realm key batch (List.mem_cons_of_mem _ inside)

/-- The keys of a frame stand as the frame needs them: those that are announced
have been given out, and those whose teardowns are due have left. -/
def Frame.Marks (world : World) : Frame → Prop
  | .announce container key _ _ | .settle container key =>
    (world.container container).contents.isList = true ∧
      (world.container container).keys.Allotted key
  | .discharge realm keys => ∀ key ∈ keys, world.Left realm key
  | .teardown realm key _ => world.Left realm key
  | _ => True

section

variable {world other : World} {rest taken put : List Frame} {deed : Deed}
  {history : List Deed}

/-- The keys of a container after a turn. -/
theorem Turn.keys (turn : Turn world rest taken deed other put) {container : ContainerRef}
    (inside : container < world.containers.size) :
    (other.container container).keys =
      (deed.onContainer container (world.container container)).keys :=
  congrArg (·.keys) (turn.container inside)

/-- A list keeps what it has given out. -/
theorem Turn.owns (turn : Turn world rest taken deed other put) {realm : RealmRef} {key : Key}
    {container : ContainerRef} (owns : world.Owns realm key container) :
    other.Owns realm key container := by
  have inside := World.lt_size_of_isList owns.isList
  refine ⟨?_, ?_, (turn.follows inside).allotted owns.allotted⟩
  · rw [turn.isList inside]
    exact owns.isList
  · rw [turn.realmOf inside]
    exact owns.realm

/-- A key that has left does not return. -/
theorem Turn.left (turn : Turn world rest taken deed other put) {realm : RealmRef} {key : Key}
    (left : world.Left realm key) : other.Left realm key := by
  obtain ⟨container, owns, gone⟩ := left
  have departed := (turn.follows (World.lt_size_of_isList owns.isList)).departed
    ⟨owns.allotted, gone⟩
  exact ⟨container, turn.owns owns, departed.2⟩

/-- The keys of a frame go on standing as the frame needs them. -/
theorem Turn.marks (turn : Turn world rest taken deed other put) {frame : Frame}
    (marks : frame.Marks world) : frame.Marks other := by
  have known {container : ContainerRef} {key : Key}
      (marks : (world.container container).contents.isList = true ∧
        (world.container container).keys.Allotted key) :
      (other.container container).contents.isList = true ∧
        (other.container container).keys.Allotted key := by
    have owns := turn.owns ⟨marks.1, rfl, marks.2⟩
    exact ⟨owns.isList, owns.allotted⟩
  cases frame with
  | announce => exact known marks
  | settle => exact known marks
  | discharge => exact fun key inside => turn.left (marks key inside)
  | teardown => exact turn.left marks
  | _ => trivial

/-- A key that is not in its list but was given out by it has left. -/
theorem World.left_of_positionOf? {container : ContainerRef} {key : Key}
    (marks : (world.container container).contents.isList = true ∧
      (world.container container).keys.Allotted key)
    (gone : (world.container container).keys.positionOf? key = none) :
    world.Left (world.realmOf container) key :=
  ⟨container, ⟨marks.1, rfl, marks.2⟩, List.idxOf?_eq_none_iff.mp gone⟩

/-- The fresh key of a list has been given out by it after an insertion. -/
theorem Turn.allotted_insert {container : ContainerRef} {position : Nat} {item : Value}
    (turn : Turn world rest taken
      (.inserted container position (world.container container).keys.freshKey item) other put)
    (isList : (world.container container).contents.isList = true) :
    (other.container container).contents.isList = true ∧
      (other.container container).keys.Allotted (world.container container).keys.freshKey := by
  have inside := World.lt_size_of_isList isList
  refine ⟨by rw [turn.isList inside, isList], ?_⟩
  rw [turn.keys inside, Deed.keys_inserted isList]
  exact ⟨rfl, Nat.lt_succ_self _⟩

/-- A key that has departed from a list after a turn has left. -/
theorem Turn.left_of_departed {container : ContainerRef}
    (turn : Turn world rest taken deed other put)
    (isList : (world.container container).contents.isList = true) {key : Key}
    (departed : (other.container container).keys.Departed key) :
    other.Left (world.realmOf container) key := by
  have inside := World.lt_size_of_isList isList
  exact ⟨container, ⟨(turn.isList inside).trans isList, turn.realmOf inside, departed.1⟩,
    departed.2⟩

/-- The key of an element that is removed has left after the removal. -/
theorem Turn.left_remove {container : ContainerRef} {position : Nat} {item : Value}
    {released : List Key}
    (turn : Turn world rest taken (.removed container position released item) other put)
    (numbered : world.Numbered)
    (isList : (world.container container).contents.isList = true) {key : Key}
    (there : (world.container container).keys.keyAt? position = some key) :
    other.Left (world.realmOf container) key := by
  refine turn.left_of_departed isList ?_
  rw [turn.keys (World.lt_size_of_isList isList), Deed.keys_removed isList]
  exact (numbered.proper container).departed_release there

/-- The old keys of a list have left after a replacement. -/
theorem Turn.left_replace {container : ContainerRef} {released allotted : List Key}
    {items : List Value}
    (turn : Turn world rest taken (.replaced container released allotted items) other put)
    (numbered : world.Numbered)
    (isList : (world.container container).contents.isList = true) {key : Key}
    (used : key ∈ (world.container container).keys.inUse) :
    other.Left (world.realmOf container) key := by
  refine turn.left_of_departed isList ?_
  rw [turn.keys (World.lt_size_of_isList isList), Deed.keys_replaced isList]
  exact KeySequence.departed_fill_releaseAll ((numbered.proper container).allotted key used) _

/-- The frames that a turn puts on the stack find their keys as they need them,
unless an action runs teardowns itself. -/
theorem Turn.marks_put (turn : Turn world rest taken deed other put)
    (held : world.Held (taken ++ rest) history) (numbered : world.Numbered)
    (marks : ∀ frame ∈ taken, frame.Marks world)
    (undriven : ∀ realm key batch, deed ≠ .running .asked realm key batch) :
    ∀ frame ∈ put, frame.Marks other := by
  intro frame inside
  cases turn.arises _ inside with
  | plain plain => cases frame <;> trivial
  | yield | replace | scope | borrowed | setBegun | announced | notified | passed | told
  | insertedNotify | removedNotify | storedNotify | replacedNotify => trivial
  | ranAsked => exact absurd rfl (undriven _ _ _)
  | ranSettled there gone => exact turn.left (World.left_of_positionOf? (marks _ there) gone)
  | ranDischarged there => exact turn.left (marks _ there _ List.mem_cons_self)
  | dischargedEmpty there | discharged there =>
    exact fun key inside => turn.left (marks _ there key (List.mem_cons_of_mem _ inside))
  | tornDown there => exact turn.left (marks _ there)
  | insertedAnnounce isList | insertedSettle isList => exact turn.allotted_insert isList
  | removedDischarge there =>
    have isList := Container.isList_of_items there
    exact fun key gone => turn.left_remove numbered isList (Option.mem_toList.mp gone)
  | replacedDischarge there =>
    have isList := held.lists _ (List.mem_append_left _ there)
    exact fun key used => turn.left_replace numbered isList used

end

/-- The keys of all frames stand as the frames need them, and the key of every
teardown that was called has left. -/
structure World.Marked (world : World) (stack : List Frame) (history : List Deed) : Prop where
  /-- Frames find their keys as they need them. -/
  frames : ∀ frame ∈ stack, frame.Marks world
  /-- Teardowns are called when their key has left. -/
  tornDown : ∀ realm key teardown, Deed.tornDown realm key teardown ∈ history →
    world.Left realm key

namespace World.Marked

variable {world other : World} {rest taken put : List Frame} {deed : Deed}
  {history : List Deed}

/-- Every turn of an undriven script keeps the keys of all frames in order. -/
theorem turn (marked : world.Marked (taken ++ rest) history)
    (held : world.Held (taken ++ rest) history) (numbered : world.Numbered)
    (undriven : Undriven (deed :: history)) (turn : Turn world rest taken deed other put) :
    other.Marked (put ++ rest) (deed :: history) := by
  have here (frame : Frame) (inside : frame ∈ taken) : frame.Marks world :=
    marked.frames frame (List.mem_append_left _ inside)
  refine ⟨fun frame inside => ?_, fun realm key teardown inside => ?_⟩
  · rcases List.mem_append.mp inside with inside | inside
    · refine turn.marks_put held numbered here (fun realm key batch same => ?_) frame inside
      exact undriven realm key batch (same ▸ List.mem_cons_self)
    · exact turn.marks (marked.frames frame (List.mem_append_right _ inside))
  · rcases List.mem_cons.mp inside with same | inside
    · subst same
      have left : world.Left realm key := by
        cases turn with
        | tornDown => exact here _ List.mem_cons_self
      exact turn.left left
    · exact turn.left (marked.tornDown realm key teardown inside)

/-- The keys of frames stay in order whenever an undriven script runs. -/
theorem preserved :
    Preserved (fun world stack history => world.Held stack history ∧ world.Numbered)
      fun world stack history => Undriven history → world.Marked stack history where
  first tracing _ := by
    refine ⟨fun frame inside => ?_, fun realm key teardown inside => ?_⟩
    · cases inside
    · cases inside
  alike same marked undriven := by
    have turn : Turn _ [] [] .quiet _ [] := .quiet Plain.nil Plain.nil same
    exact ⟨fun frame inside => turn.marks ((marked undriven).frames frame inside),
      fun realm key teardown inside =>
        turn.left ((marked undriven).tornDown realm key teardown inside)⟩
  turn known marked _ turn undriven :=
    (marked undriven.of_cons).turn known.1 known.2 undriven turn

end World.Marked

/-- The keys of all frames stand as the frames need them at every moment of an
undriven script. -/
theorem Moment.IsReached.marked {moment : Moment} (reached : moment.IsReached)
    (undriven : Undriven moment.history) :
    moment.world.Marked moment.machine.stack moment.history :=
  World.Marked.preserved.reached (fun reached => ⟨reached.held, reached.numbered⟩)
    (fun same known => ⟨known.1.alike same, known.2.alike same⟩) reached undriven

end Observables
