import Observables.Proofs.Effect

/-!
# Readers

A container counts its readers, and each of them has a frame on the stack, so
the contents are free as soon as no such frame is left. Only direct containers
are read. In an orderly script the replacement of a direct list never begins
inside a setter or a borrowing body of that list; then nobody reads a list
when the answer of one of its setters arrives, and its elements and keys are
always replaced together. What other lists do makes no difference to a list.
-/

namespace Observables

open Script

/-- The frame of a reader of a container. -/
def Frame.reads (container : ContainerRef) : Frame → Bool
  | .borrowed other => container == other
  | _ => false

/-- What a deed does to the number of readers of a container. -/
def Deed.onBorrows (container : ContainerRef) : Deed → Nat → Nat
  | .borrowed other, readers | .setBegun other _, readers =>
    if container = other then readers + 1 else readers
  | .released other, readers => if container = other then readers - 1 else readers
  | _, readers => readers

/-- The readers of a container after a deed. -/
theorem Deed.borrows_onContainer (container : ContainerRef) (deed : Deed) (held : Container) :
    (deed.onContainer container held).borrows = deed.onBorrows container held.borrows := by
  cases deed <;> simp only [onContainer, onBorrows] <;> split <;> rfl

/-- No frame that can be dropped is counted as a reader. -/
theorem Spent.countP_reads {frames : List Frame} (spent : Spent frames)
    (container : ContainerRef) : frames.countP (Frame.reads container) = 0 := by
  rw [List.countP_eq_zero]
  intro frame inside reads
  have dropped := spent frame inside
  cases frame <;> simp [Frame.reads, Frame.isSpent, Frame.isPlain] at reads dropped

/-- No frame that can be dropped belongs to a reader. -/
theorem Spent.not_borrowed {frames : List Frame} (spent : Spent frames)
    (container : ContainerRef) : Frame.borrowed container ∉ frames := by
  intro inside
  have dropped := spent _ inside
  cases dropped

/-- No frame that only says how a script goes on replaces the elements of a list. -/
theorem Plain.not_replace {frames : List Frame} (plain : Plain frames)
    (container : ContainerRef) : Frame.replace container ∉ frames := by
  intro inside
  cases plain _ inside

/-- The setter of a list is never started while the list is read. -/
def Orderly (history : List Deed) : Prop := ∀ container, Deed.setBegun container true ∉ history

/-- What was orderly in the end was orderly before. -/
theorem Orderly.of_cons {deed : Deed} {history : List Deed} (orderly : Orderly (deed :: history)) :
    Orderly history :=
  fun container inside => orderly container (List.mem_cons_of_mem _ inside)

/-- Every reader has a frame. -/
structure World.Read (world : World) (stack : List Frame) : Prop where
  /-- Readers are counted by their frames. -/
  borrows : ∀ container,
    (world.container container).borrows = stack.countP (Frame.reads container)
  /-- Only direct containers are read. -/
  direct : ∀ container, Frame.borrowed container ∈ stack →
    (world.container container).surface = .direct

section

variable {world other : World} {rest taken put : List Frame} {deed : Deed}

/-- A turn changes the number of frames of readers as its deed says. -/
theorem Turn.countP_reads (turn : Turn world rest taken deed other put)
    (container : ContainerRef) (further : Nat) :
    deed.onBorrows container (taken.countP (Frame.reads container) + further) =
      put.countP (Frame.reads container) + further := by
  have callee (body : List Action) (surface : Surface) (locals : Variables) :
      (called body surface locals).countP (Frame.reads container) = 0 :=
    (plain_called body surface locals).spent.countP_reads container
  have setter (body : List Action) (result : Expression) (surface : Surface)
      (locals : Variables) :
      (invoked body result surface locals).countP (Frame.reads container) = 0 :=
    (plain_invoked body result surface locals).spent.countP_reads container
  cases turn with
  | dropped spent => simp [Deed.onBorrows, spent.countP_reads]
  | quiet spent plain | bound spent plain | refused spent plain | listMade spent plain
  | cellMade spent plain | realmOpened spent plain | drawn spent plain | subscribed spent plain
  | unsubscribed spent plain =>
    simp [Deed.onBorrows, spent.spent.countP_reads, plain.spent.countP_reads]
  | opened spent plain | ranAsked spent plain | inserted spent plain | removed spent plain
  | setShielded spent plain =>
    simp [Deed.onBorrows, Frame.reads, spent.spent.countP_reads, plain.spent.countP_reads,
      setter]
  | settled | settledEmpty | dischargedEmpty | passed | notified | announced | closed
  | ranSettled | ranDischarged | stored | replaced | rekeyed | told | tornDown =>
    simp [Deed.onBorrows, Frame.reads, callee]
  | borrowed spent plain _ inner =>
    simp only [Deed.onBorrows, spent.spent.countP_reads, plain.spent.countP_reads,
      inner.spent.countP_reads, setter, List.countP_append, List.countP_cons, Frame.reads,
      beq_iff_eq]
    split
    · omega
    · omega
  | setBegun spent plain =>
    simp only [Deed.onBorrows, spent.spent.countP_reads, plain.spent.countP_reads, setter,
      List.countP_append, List.countP_cons, List.countP_nil, Frame.reads, beq_iff_eq,
      Bool.false_eq_true, if_false]
    split
    · omega
    · omega
  | released =>
    simp only [Deed.onBorrows, List.countP_cons, List.countP_nil, Frame.reads, beq_iff_eq]
    split
    · omega
    · omega
  | @abandoned frame _ noScope noReader =>
    have other : Frame.reads container frame = false := by
      cases frame with
      | borrowed held => exact absurd rfl (noReader held)
      | _ => rfl
    simp [Deed.onBorrows, other]

/-- The frame of a reader comes from a direct container that exists. -/
theorem Turn.reads_put (turn : Turn world rest taken deed other put) (sound : world.Sound)
    {container : ContainerRef} (inside : Frame.borrowed container ∈ put) :
    container < world.containers.size ∧
      (world.container container).surface = .direct := by
  cases turn.arises _ inside with
  | plain plain => cases plain
  | borrowed found direct | setBegun found direct => exact ⟨sound.names _ _ found, direct⟩

/-- A frame that replaces the elements of a list comes from a setter of a list. -/
theorem Turn.isList_of_replace (turn : Turn world rest taken deed other put)
    {container : ContainerRef} (inside : Frame.replace container ∈ put) :
    (world.container container).contents.isList = true := by
  cases turn.arises _ inside with
  | plain plain => cases plain
  | replace isList => exact isList

end

namespace World.Read

variable {world other : World} {rest taken put : List Frame} {deed : Deed}

/-- Who has a frame is counted. -/
theorem lt_size {stack : List Frame} (read : world.Read stack) {container : ContainerRef}
    (inside : Frame.borrowed container ∈ stack) : container < world.containers.size := by
  rcases Nat.lt_or_ge container world.containers.size with there | beyond
  · exact there
  · have counted := read.borrows container
    rw [World.container, Table.entry_of_size_le beyond] at counted
    have none := List.countP_eq_zero.mp counted.symm _ inside
    simp [Frame.reads] at none

/-- Contents that are held have a reader with a frame. -/
theorem mem_of_isBorrowed {stack : List Frame} (read : world.Read stack)
    {container : ContainerRef} (held : world.isBorrowed container = true) :
    Frame.borrowed container ∈ stack := by
  have counted := read.borrows container
  have some : 0 < stack.countP (Frame.reads container) := by
    rw [← counted]
    exact Nat.pos_of_ne_zero (by simpa [World.isBorrowed, Container.isBorrowed] using held)
  obtain ⟨frame, inside, reads⟩ := List.countP_pos_iff.mp some
  cases frame with
  | borrowed other =>
    have same : container = other := by simpa [Frame.reads] using reads
    exact same ▸ inside
  | _ => cases reads

/-- Every turn keeps the count of readers. -/
theorem turn (read : world.Read (taken ++ rest)) (sound : world.Sound)
    (turn : Turn world rest taken deed other put) : other.Read (put ++ rest) where
  borrows container := by
    have before := read.borrows container
    rw [List.countP_append] at before
    rcases Nat.lt_or_ge container world.containers.size with there | beyond
    · have same := congrArg (·.borrows) (turn.container there)
      rw [List.countP_append, ← turn.countP_reads, ← before]
      exact same.trans (deed.borrows_onContainer container _)
    · have unread : (put ++ rest).countP (Frame.reads container) = 0 := by
        rw [List.countP_eq_zero]
        intro frame inside reads
        cases frame with
        | borrowed held =>
          have same : container = held := by simpa [Frame.reads] using reads
          subst same
          rcases List.mem_append.mp inside with inside | inside
          · exact Nat.not_lt_of_le beyond (turn.reads_put sound inside).1
          · exact Nat.not_lt_of_le beyond (read.lt_size (List.mem_append_right _ inside))
        | _ => cases reads
      rw [unread]
      rcases Nat.lt_or_ge container other.containers.size with made | absent
      · exact (turn.made sound beyond made).2.1
      · rw [World.container, Table.entry_of_size_le absent]
        rfl
  direct container inside := by
    rcases List.mem_append.mp inside with inside | inside
    · obtain ⟨there, direct⟩ := turn.reads_put sound inside
      rw [turn.surface there, direct]
    · have before := List.mem_append_right taken inside
      rw [turn.surface (read.lt_size before), read.direct container before]

end World.Read

/-- Beneath the frame that replaces the elements of a list nobody reads the list. -/
def Unread (stack : List Frame) : Prop :=
  stack.Pairwise fun upper lower =>
    ∀ container, upper = .replace container → lower ≠ .borrowed container

/-- Beneath the frame that replaces the elements of one list nobody reads that list. -/
def Unheld (container : ContainerRef) (stack : List Frame) : Prop :=
  stack.Pairwise fun upper lower => upper = .replace container → lower ≠ .borrowed container

/-- Nobody reads a list that is being replaced if this is so for each list. -/
theorem unread_iff (stack : List Frame) : Unread stack ↔ ∀ container, Unheld container stack := by
  constructor
  · intro unread container
    exact List.Pairwise.imp (fun beneath => beneath container) unread
  · intro unheld
    refine List.pairwise_iff_getElem.mpr fun upper lower above below before container => ?_
    exact List.pairwise_iff_getElem.mp (unheld container) upper lower above below before

/-- Sound references, counted readers, and, in an orderly script, nobody who reads
a list that is being replaced. -/
structure World.Held (world : World) (stack : List Frame) (history : List Deed) : Prop where
  /-- References lead somewhere. -/
  sound : world.Sound
  /-- Readers have frames. -/
  read : world.Read stack
  /-- Only elements of lists are replaced. -/
  lists : ∀ container, Frame.replace container ∈ stack →
    (world.container container).contents.isList = true
  /-- Nobody reads a list that is being replaced. -/
  unread : Orderly history → Unread stack

namespace Unheld

variable {container : ContainerRef} {world other : World} {rest taken put : List Frame}
  {deed : Deed}

/-- Frames that do not replace the elements of the list can be put on a stack. -/
theorem append (unheld : Unheld container rest) (none : Frame.replace container ∉ put) :
    Unheld container (put ++ rest) := by
  refine List.pairwise_append.mpr ⟨?_, unheld, ?_⟩
  · exact List.pairwise_of_forall_mem_list fun upper inside _ _ same => absurd (same ▸ inside) none
  · exact fun upper inside _ _ same => absurd (same ▸ inside) none

/-- The replacement of the elements of a list that nobody reads can be put on a stack. -/
theorem cons_replace (unheld : Unheld container rest) {replaced : ContainerRef}
    (free : Frame.borrowed replaced ∉ rest) : Unheld container (.replace replaced :: rest) := by
  refine List.pairwise_cons.mpr ⟨fun lower inside same read => ?_, unheld⟩
  cases same
  exact free (read ▸ inside)

/-- The replacement of the elements of another list can be put on a stack. -/
theorem cons_replace_of_ne (unheld : Unheld container rest) {replaced : ContainerRef}
    (apart : replaced ≠ container) : Unheld container (.replace replaced :: rest) := by
  refine List.pairwise_cons.mpr ⟨fun lower inside same read => ?_, unheld⟩
  cases same
  exact apart rfl

/-- Every turn keeps a list unread while it is being replaced, unless the replacement begins
inside a setter or a borrowing body of the list. -/
theorem turn (unheld : Unheld container (taken ++ rest)) (read : world.Read (taken ++ rest))
    (orderly : deed ≠ .setBegun container true) (turn : Turn world rest taken deed other put) :
    Unheld container (put ++ rest) := by
  have beneath : Unheld container rest := (List.pairwise_append.mp unheld).2.1
  have callee (body : List Action) (surface : Surface) (locals : Variables) :=
    (plain_called body surface locals).not_replace
  have setter (body : List Action) (result : Expression) (surface : Surface)
      (locals : Variables) := (plain_invoked body result surface locals).not_replace
  cases turn with
  | quiet _ plain | bound _ plain | refused _ plain | listMade _ plain | cellMade _ plain
  | realmOpened _ plain | drawn _ plain | subscribed _ plain | unsubscribed _ plain =>
    exact beneath.append (plain.not_replace container)
  | opened _ plain | ranAsked _ plain | inserted _ plain | removed _ plain =>
    refine beneath.append fun inside => ?_
    simp [plain.not_replace] at inside
  | dropped | settled | settledEmpty | dischargedEmpty | passed | notified | announced | closed
  | ranSettled | ranDischarged | stored | replaced | rekeyed | told | tornDown | released
  | abandoned =>
    refine beneath.append fun inside => ?_
    simp [callee] at inside
  | borrowed _ plain _ inner =>
    refine beneath.append fun inside => ?_
    simp [setter, plain.not_replace, inner.not_replace] at inside
  | @setShielded _ tail replaced _ _ _ _ _ plain shielded _ =>
    have free : Frame.borrowed replaced ∉ tail ++ rest := by
      intro inside
      rcases List.mem_append.mp inside with inside | inside
      · exact plain.spent.not_borrowed replaced inside
      · have direct := read.direct replaced (List.mem_append_right _ inside)
        rw [shielded] at direct
        cases direct
    rw [List.append_assoc, List.cons_append]
    exact ((beneath.append (plain.not_replace container)).cons_replace free).append
      (setter _ _ _ _ container)
  | @setBegun _ tail _ replaced _ _ _ inside _ _ plain _ _ _ reading =>
    rw [List.append_assoc, List.append_assoc, List.cons_append, List.cons_append,
      List.nil_append]
    have outside := beneath.append (plain.not_replace container)
    have replacing : Unheld container (.replace replaced :: (tail ++ rest)) := by
      by_cases here : replaced = container
      · refine outside.cons_replace fun read => ?_
        rcases List.mem_append.mp read with read | read
        · exact plain.spent.not_borrowed replaced read
        · rw [reading.mpr read, here] at orderly
          exact orderly rfl
      · exact outside.cons_replace_of_ne here
    have reader : Unheld container ([.borrowed replaced] ++ .replace replaced :: (tail ++ rest)) :=
      replacing.append fun inside => by simp at inside
    exact reader.append (setter _ _ _ _ container)

end Unheld

/-- Every turn of an orderly script keeps lists that are being replaced unread. -/
theorem Unread.turn {world other : World} {rest taken put : List Frame} {deed : Deed}
    {history : List Deed} (unread : Unread (taken ++ rest)) (read : world.Read (taken ++ rest))
    (orderly : Orderly (deed :: history)) (turn : Turn world rest taken deed other put) :
    Unread (put ++ rest) := by
  refine (unread_iff _).mpr fun container => ?_
  refine ((unread_iff _).mp unread container).turn read (fun same => ?_) turn
  exact orderly container (same ▸ List.mem_cons_self)

namespace World.Held

variable {world other : World} {rest taken put : List Frame} {deed : Deed}
  {history : List Deed}

/-- Alike worlds are held alike. -/
theorem alike {stack : List Frame} (held : world.Held stack history) (same : world.Alike other) :
    other.Held stack history := by
  refine ⟨held.sound.alike same, ⟨fun container => ?_, fun container inside => ?_⟩,
    fun container inside => ?_, held.unread⟩
  · rw [same.container]
    exact held.read.borrows container
  · rw [same.container]
    exact held.read.direct container inside
  · rw [same.container]
    exact held.lists container inside

/-- References, readers and replacements stay as they should be whenever a script runs. -/
theorem invariant : Invariant World.Held where
  first tracing := by
    have sound := Sound.start tracing
    refine ⟨sound, ⟨fun container => rfl, fun container inside => ?_⟩, fun container inside => ?_,
      fun _ => List.Pairwise.nil⟩
    · cases inside
    · cases inside
  alike same held := held.alike same
  turn {world _ taken _ _ put _} _ held _ turn := by
    refine ⟨held.sound.turn turn, held.read.turn held.sound turn, fun container inside => ?_,
      fun orderly => (held.unread orderly.of_cons).turn held.read orderly turn⟩
    have isList : (world.container container).contents.isList = true := by
      rcases List.mem_append.mp inside with inside | inside
      · exact turn.isList_of_replace inside
      · exact held.lists container (List.mem_append_right taken inside)
    rw [turn.isList (World.lt_size_of_isList isList)]
    exact isList

/-- Nobody reads a list whose elements are replaced if nobody beneath the replacement does. -/
theorem free_of_unheld {container : ContainerRef}
    (held : world.Held (.replace container :: rest) history)
    (unheld : Unheld container (.replace container :: rest)) :
    world.isBorrowed container = false := by
  cases known : world.isBorrowed container with
  | false => rfl
  | true =>
    rcases List.mem_cons.mp (held.read.mem_of_isBorrowed known) with same | inside
    · cases same
    · exact absurd rfl ((List.pairwise_cons.mp unheld).1 _ inside rfl)

end World.Held

/-- The keys of a list are not replaced while nobody reads it. -/
theorem Turn.not_rekeyed_of_unheld {world other : World} {rest taken put : List Frame}
    {deed : Deed} {history : List Deed} (turn : Turn world rest taken deed other put)
    (held : world.Held (taken ++ rest) history) {container : ContainerRef}
    (unheld : Unheld container (taken ++ rest)) (released allotted : List Key) :
    deed ≠ .rekeyed container released allotted := by
  rintro rfl
  cases turn with
  | rekeyed isBorrowed =>
    rw [held.free_of_unheld unheld] at isBorrowed
    cases isBorrowed

/-- In an orderly script the keys of a list are not replaced while it is read. -/
theorem Turn.not_rekeyed {world other : World} {rest taken put : List Frame} {deed : Deed}
    {history : List Deed} (turn : Turn world rest taken deed other put)
    (held : world.Held (taken ++ rest) history) (orderly : Orderly history)
    (container : ContainerRef) (released allotted : List Key) :
    deed ≠ .rekeyed container released allotted :=
  turn.not_rekeyed_of_unheld held ((unread_iff _).mp (held.unread orderly) container) released
    allotted

/-- References, readers and replacements are as they should be at every moment. -/
theorem Moment.IsReached.held {moment : Moment} (reached : moment.IsReached) :
    moment.world.Held moment.machine.stack moment.history :=
  World.Held.invariant.reached reached

/-- A list whose replacement never begins inside a setter or a borrowing body of the list is not
read while it is being replaced. -/
theorem Unheld.preserved (container : ContainerRef) :
    Preserved World.Held fun _ stack history =>
      Deed.setBegun container true ∉ history → Unheld container stack where
  first _ _ := List.Pairwise.nil
  alike _ unheld := unheld
  turn {_ _ _ deed _ _ _} held unheld _ turn orderly := by
    have latest : deed ≠ .setBegun container true := (List.ne_of_not_mem_cons orderly).symm
    exact (unheld (List.not_mem_of_not_mem_cons orderly)).turn held.read latest turn

/-- This is so at every moment. -/
theorem Moment.IsReached.unheld {moment : Moment} (reached : moment.IsReached)
    (container : ContainerRef) (orderly : Deed.setBegun container true ∉ moment.history) :
    Unheld container moment.machine.stack :=
  (Unheld.preserved container).reached (fun reached => reached.held)
    (fun same held => held.alike same) reached orderly

end Observables
