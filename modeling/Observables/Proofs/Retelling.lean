import Observables.Proofs.Disclosure
import Observables.Proofs.Issue
import Mathlib.Data.List.Induction

/-!
# Following keys by the trace

A reader of a trace can follow the keys of a list without seeing the list: an
allocated key is put where the trace says, a released one is taken out, and a
list that was replaced loses its last keys, as many as the trace says. The
trace of a replacement allocates the new keys first, so for a while the reader
has the old keys behind the new ones. Whatever a script does, as long as the
replacement of a list never begins inside a setter or a borrowing body of the
same list, what the reader has at any moment are the keys of the list. The
written form of the trace is enough for this.
-/

namespace Observables

open Script

/-- What is inserted right after the first part of a list stands between the parts. -/
theorem insertIdx_length_append {α : Type} (front back : List α) (element : α) :
    (front ++ back).insertIdx front.length element = front ++ element :: back := by
  induction front with
  | nil => rfl
  | cons first front ih => exact congrArg (first :: ·) ih

/-- Different numbers are written differently. -/
theorem Document.nat_inj {left right : Nat} :
    Document.nat left = Document.nat right ↔ left = right := by
  rw [nat, nat, Document.int.injEq, Int.natCast_inj]

namespace TraceEvent

/-- The number of the list whose keys the event is about. -/
def subject? : TraceEvent → Option Nat
  | .keyMoved (.allocated key _) | .keyMoved (.released key _) => some key.container
  | .listReplaced container _ => some container
  | _ => none

/-- The keys as a reader has them after the event. -/
def onKeys (keys : List Key) : TraceEvent → List Key
  | .keyMoved (.allocated key position) => keys.insertIdx position key
  | .keyMoved (.released _ position) => keys.eraseIdx position
  | .listReplaced _ released => keys.take (keys.length - released)
  | _ => keys

/-- The event can happen to the keys: its position is among them, a released key is the one that
is there, and no more keys go than there are. -/
def Fits (keys : List Key) : TraceEvent → Prop
  | .keyMoved (.allocated _ position) => position ≤ keys.length
  | .keyMoved (.released key position) => keys[position]? = some key
  | .listReplaced _ released => released ≤ keys.length
  | _ => True

/-- The keys as a reader has them after several events, starting with none. -/
def retold (events : List TraceEvent) : List Key := events.foldl onKeys []

/-- Of events about keys, those about the list of a number. -/
def about (number : Nat) (events : List TraceEvent) : List TraceEvent :=
  events.filter fun event => event.subject? = some number

/-- What the events of a run tell about the keys of the list of a number. -/
def told (number : Nat) (events : List Event) : List TraceEvent := about number (Event.keyed events)

/-- A reader of the events comes to have the keys, and each event fits when it is read. -/
structure Retells (events : List TraceEvent) (keys : List Key) : Prop where
  /-- Every event fits what the reader has from those before it. -/
  fits : ∀ earlier event later, events = earlier ++ event :: later → event.Fits (retold earlier)
  /-- In the end the reader has the keys. -/
  result : retold events = keys

/-- Nothing about keys is lost in writing: what is written like an event about keys is that
event. -/
theorem eq_of_toDocument {event other : TraceEvent} (keyed : event.isKeyed = true)
    (same : other.toDocument = event.toDocument) : other = event := by
  have written : other.parts = event.parts := by
    simp only [toDocument, Document.list.injEq, List.cons.injEq, Document.text.injEq,
      Document.record.injEq] at same
    exact Prod.ext same.2.1 (Prod.ext same.2.2.1 same.2.2.2.1)
  cases event with
  | keyMoved movement =>
    cases movement with
    | allocated =>
      cases other with
      | keyMoved found =>
        cases found with
        | allocated => simpa [parts, Document.nat_inj, Key.text_injective.eq_iff] using written
        | released => simp [parts] at written
      | _ => simp [parts] at written
    | released =>
      cases other with
      | keyMoved found =>
        cases found with
        | allocated => simp [parts] at written
        | released => simpa [parts, Document.nat_inj, Key.text_injective.eq_iff] using written
      | _ => simp [parts] at written
  | listReplaced =>
    cases other with
    | listReplaced => simpa [parts, Document.nat_inj] using written
    | keyMoved found => cases found <;> simp [parts] at written
    | _ => simp [parts] at written
  | _ => cases keyed

/-- What is told later about a list comes later. -/
theorem about_append (number : Nat) (first second : List TraceEvent) :
    about number (first ++ second) = about number first ++ about number second :=
  List.filter_append first second

/-- Events that are all about the list are all told about it. -/
theorem about_eq_self {number : Nat} {events : List TraceEvent}
    (all : ∀ event ∈ events, event.subject? = some number) : about number events = events :=
  List.filter_eq_self.mpr fun event inside => decide_eq_true (all event inside)

/-- Events none of which is about the list tell nothing about it. -/
theorem about_eq_nil {number : Nat} {events : List TraceEvent}
    (none : ∀ event ∈ events, event.subject? ≠ some number) : about number events = [] :=
  List.filter_eq_nil_iff.mpr fun event inside same => none event inside (of_decide_eq_true same)

/-- What is read last changes what was there before. -/
theorem retold_concat (events : List TraceEvent) (last : TraceEvent) :
    retold (events ++ [last]) = last.onKeys (retold events) :=
  List.foldl_concat _ _ _ _

/-- Events that allocate keys at the end are about those keys. -/
theorem subject?_of_mem_laidOut {keys : List Key} {number : Nat}
    (own : ∀ key ∈ keys, key.container = number) {event : TraceEvent}
    (inside : event ∈ laidOut keys) : event.subject? = some number := by
  obtain ⟨position, within, rfl⟩ := List.mem_mapIdx.mp inside
  exact congrArg some (own _ (List.getElem_mem within))

namespace Retells

variable {events : List TraceEvent} {keys : List Key}

/-- A reader who has read nothing has no keys. -/
theorem nil : Retells [] [] := by
  refine ⟨fun earlier event later same => ?_, rfl⟩
  simp at same

/-- One more event that fits is read last. -/
theorem concat (retells : Retells events keys) (last : TraceEvent) (fits : last.Fits keys) :
    Retells (events ++ [last]) (last.onKeys keys) := by
  refine ⟨fun earlier event later same => ?_, ?_⟩
  · rcases List.eq_nil_or_concat' later with rfl | ⟨middle, final, rfl⟩
    · obtain ⟨rfl, single⟩ := List.append_inj' same rfl
      obtain rfl : last = event := List.singleton_inj.mp single
      rwa [retells.result]
    · rw [← List.cons_append, ← List.append_assoc] at same
      exact retells.fits earlier event middle (List.append_inj' same rfl).1
  · rw [retold_concat, retells.result]

/-- Keys that are allocated one after the other come before those that were there. -/
theorem laidOut (retells : Retells events keys) (fresh : List Key) :
    Retells (events ++ TraceEvent.laidOut fresh) (fresh ++ keys) := by
  induction fresh using List.reverseRecOn with
  | nil => simpa [TraceEvent.laidOut] using retells
  | append_singleton fresh last ih =>
    have fits : (TraceEvent.keyMoved (.allocated last fresh.length)).Fits (fresh ++ keys) :=
      (List.sublist_append_left fresh keys).length_le
    have allocated := ih.concat _ fits
    rw [onKeys, insertIdx_length_append] at allocated
    rw [TraceEvent.laidOut_concat, ← List.append_assoc, List.append_assoc fresh]
    exact allocated

/-- Keys that were there before a replacement go when the new ones have been allocated. -/
theorem replaced (retells : Retells events keys) (number : Nat) (fresh : List Key) :
    Retells (events ++ (TraceEvent.laidOut fresh ++ [.listReplaced number keys.length])) fresh := by
  have allocated := retells.laidOut fresh
  have fits : (TraceEvent.listReplaced number keys.length).Fits (fresh ++ keys) :=
    (List.sublist_append_right fresh keys).length_le
  have gone : (TraceEvent.listReplaced number keys.length).onKeys (fresh ++ keys) = fresh := by
    rw [onKeys, List.length_append, Nat.add_sub_cancel, List.take_left]
  have final := allocated.concat _ fits
  rwa [gone, List.append_assoc] at final

end Retells

end TraceEvent

/-- The list whose keys a deed changes. -/
def Deed.rearranged? : Deed → Option ContainerRef
  | .listMade container _ _ | .inserted container _ _ _ | .removed container _ _ _
  | .replaced container _ _ _ | .rekeyed container _ _ => some container
  | _ => none

/-- A deed leaves the keys of other lists alone. -/
theorem Deed.keys_of_ne_rearranged? {deed : Deed} {container : ContainerRef}
    (other : deed.rearranged? ≠ some container) (held : Container) :
    (deed.onContainer container held).keys = held.keys := by
  cases deed with
  | inserted changed | removed changed | replaced changed | rekeyed changed =>
    have apart : container ≠ changed := fun same => other (congrArg some same.symm)
    simp only [onContainer, if_neg apart]
  | stored changed value =>
    rcases held with ⟨realm, surface, contents, borrows, changes, additions, removals⟩
    simp only [onContainer]
    split
    · cases contents with
      | cell => rfl
      | list => rfl
    · rfl
  | borrowed | setBegun | released =>
    simp only [onContainer]
    split
    · rfl
    · rfl
  | _ => rfl

/-- No other list has the number of the list. -/
def World.Alone (world : World) (container : ContainerRef) : Prop :=
  ∀ other, (world.container other).contents.isList = true →
    (world.container other).keys.container = (world.container container).keys.container →
    other = container

section

variable {world other : World} {rest taken put : List Frame} {deed : Deed}
  {history : List Deed}

/-- What a deed discloses is about the list whose keys it changes. -/
theorem Turn.subject?_of_mem_disclosures (turn : Turn world rest taken deed other put)
    (held : world.Held (taken ++ rest) history) (numbered : world.Numbered) {event : TraceEvent}
    (inside : event ∈ world.disclosures deed) :
    ∃ container, deed.rearranged? = some container ∧
      (other.container container).contents.isList = true ∧
      event.subject? = some (other.container container).keys.container := by
  -- A list that exists keeps its number.
  have still {container : ContainerRef}
      (isList : (world.container container).contents.isList = true)
      (about : event.subject? = some (world.container container).keys.container) :
      (other.container container).contents.isList = true ∧
        event.subject? = some (other.container container).keys.container := by
    have there := World.lt_size_of_isList isList
    rw [turn.isList there, (turn.follows there).container]
    exact ⟨isList, about⟩
  have fresh (keys : KeySequence) (count : Nat) :
      ∀ key ∈ (keys.releaseAll.fill count).inUse, key.container = keys.container := by
    intro key inside
    have proper := (KeySequence.Proper.releaseAll keys).fill count
    exact (proper.allotted key inside).1.trans (keys.releaseAll.container_fill count)
  cases turn with
  | @inserted _ _ container _ _ _ _ _ isList =>
    obtain rfl := List.mem_singleton.mp inside
    exact ⟨container, rfl, still isList rfl⟩
  | @removed _ _ container position =>
    obtain ⟨key, there, rfl⟩ := List.mem_map.mp inside
    have used := List.mem_of_getElem? (Option.mem_toList.mp there)
    have isList : (world.container container).contents.isList = true := by
      cases isList : (world.container container).contents.isList with
      | true => rfl
      | false =>
        rw [Container.keys_of_not_isList isList] at used
        cases used
    exact ⟨container, rfl, still isList
      (congrArg some ((numbered.proper container).allotted key used).1)⟩
  | @replaced container items =>
    have isList := held.lists container List.mem_cons_self
    refine ⟨container, rfl, still isList ?_⟩
    rcases List.mem_append.mp inside with allocated | last
    · exact TraceEvent.subject?_of_mem_laidOut (fresh _ _) allocated
    · obtain rfl := List.mem_singleton.mp last
      rfl
  | @rekeyed container count =>
    have isList := held.lists container List.mem_cons_self
    exact ⟨container, rfl, still isList (TraceEvent.subject?_of_mem_laidOut (fresh _ _) inside)⟩
  | @listMade _ _ name realm surface items _ _ _ _ same =>
    have row := (same.container world.containers.size).trans
      (World.container_makeContainer_self (world.takeListId realm) name _)
    refine ⟨world.containers.size, rfl, by rw [row]; rfl, ?_⟩
    rw [row]
    exact TraceEvent.subject?_of_mem_laidOut
      (fun key inside => (((KeySequence.Proper.empty _).fill _).allotted key inside).1) inside
  | _ => cases inside

/-- A reader of what is told about a list comes to have the keys of the list as they are after
a deed that changes them. -/
theorem Turn.retells (turn : Turn world rest taken deed other put)
    (held : world.Held (taken ++ rest) history) {container : ContainerRef}
    (unheld : Unheld container (taken ++ rest)) (there : container < world.containers.size)
    (changed : deed.rearranged? = some container) {events : List TraceEvent}
    (retells : TraceEvent.Retells events (world.container container).keys.inUse) :
    TraceEvent.Retells (events ++ world.disclosures deed)
      (other.container container).keys.inUse := by
  have same : (other.container container).keys =
      (deed.onContainer container (world.container container)).keys :=
    congrArg (·.keys) (turn.container there)
  have apart := turn.not_rekeyed_of_unheld held unheld
  rw [same]
  cases turn with
  | @inserted _ _ target position item _ _ _ isList =>
    obtain rfl := Option.some.inj changed
    obtain ⟨items, keys, list⟩ := Contents.exists_list isList
    simp only [Deed.onContainer, if_true, World.disclosures, Container.keys, list] at retells ⊢
    have within : keys.clamp position ≤ keys.inUse.length := Nat.min_le_right _ _
    exact retells.concat (.keyMoved (keys.allocation position)) within
  | @removed _ _ target position =>
    obtain rfl := Option.some.inj changed
    simp only [Deed.onContainer, if_true, World.disclosures, Container.keys] at retells ⊢
    cases contents : (world.container target).contents with
    | cell value =>
      rw [contents] at retells
      show TraceEvent.Retells (events ++ []) []
      rw [List.append_nil]
      exact retells
    | list items keys =>
      rw [contents] at retells
      show TraceEvent.Retells (events ++ (keys.keyAt? position).toList.map _)
        (keys.inUse.eraseIdx position)
      cases gone : keys.keyAt? position with
      | none =>
        have beyond : keys.inUse.length ≤ position := List.getElem?_eq_none_iff.mp gone
        rw [List.eraseIdx_of_length_le beyond, Option.toList_none, List.map_nil, List.append_nil]
        exact retells
      | some key => exact retells.concat (.keyMoved (.released key position)) gone
  | @replaced target items =>
    obtain rfl := Option.some.inj changed
    obtain ⟨olds, keys, list⟩ := Contents.exists_list (held.lists target List.mem_cons_self)
    simp only [Deed.onContainer, if_true, World.disclosures, Container.keys, list] at retells ⊢
    exact retells.replaced _ _
  | @rekeyed target count =>
    obtain rfl := Option.some.inj changed
    exact absurd rfl (apart _ _)
  | listMade => exact absurd (Option.some.inj changed) (Nat.ne_of_gt there)
  | _ => cases changed

/-- What a deed that changes the keys of a list discloses is all about the list. -/
theorem Turn.about_disclosures (turn : Turn world rest taken deed other put)
    (held : world.Held (taken ++ rest) history) (numbered : world.Numbered)
    {container : ContainerRef} (changed : deed.rearranged? = some container) :
    TraceEvent.about (other.container container).keys.container (world.disclosures deed) =
      world.disclosures deed := by
  refine TraceEvent.about_eq_self fun event inside => ?_
  obtain ⟨target, changes, _, subject⟩ := turn.subject?_of_mem_disclosures held numbered inside
  obtain rfl := Option.some.inj (changes.symm.trans changed)
  exact subject

/-- What another deed discloses is not about the list if no other list has its number. -/
theorem Turn.about_disclosures_eq_nil (turn : Turn world rest taken deed other put)
    (held : world.Held (taken ++ rest) history) (numbered : world.Numbered)
    {container : ContainerRef} (alone : other.Alone container)
    (unchanged : deed.rearranged? ≠ some container) :
    TraceEvent.about (other.container container).keys.container (world.disclosures deed) = [] := by
  refine TraceEvent.about_eq_nil fun event inside about => ?_
  obtain ⟨target, changes, list, subject⟩ :=
    turn.subject?_of_mem_disclosures held numbered inside
  obtain rfl := alone target list (Option.some.inj (subject.symm.trans about))
  exact unchanged changes

/-- A list whose number no other list has after a turn was alone with it before. -/
theorem World.Alone.of_turn {container : ContainerRef} (alone : other.Alone container)
    (turn : Turn world rest taken deed other put) (old : container < world.containers.size) :
    world.Alone container := by
  intro second list number
  have there := World.lt_size_of_isList list
  refine alone second ((turn.isList there).trans list) ?_
  rw [(turn.follows there).container, (turn.follows old).container]
  exact number

end

/-- What has been told about keys agrees with the lists. -/
structure World.Retold (world : World) (history : List Deed) (events : List TraceEvent) :
    Prop where
  /-- Every event is about a list. -/
  known : ∀ event ∈ events, ∃ container, (world.container container).contents.isList = true ∧
    event.subject? = some (world.container container).keys.container
  /-- A reader of what is told about a list has its keys, unless another list has its number or
  its replacement has begun inside a setter or a borrowing body of the list. -/
  lists : ∀ container, (world.container container).contents.isList = true →
    world.Alone container → Deed.setBegun container true ∉ history →
    TraceEvent.Retells (TraceEvent.about (world.container container).keys.container events)
      (world.container container).keys.inUse

namespace World.Retold

variable {world other : World} {rest taken put : List Frame} {deed : Deed}
  {history : List Deed} {events : List TraceEvent}

/-- A list is still known after a turn. -/
theorem known_turn (retold : world.Retold history events)
    (turn : Turn world rest taken deed other put) {event : TraceEvent} (inside : event ∈ events) :
    ∃ container < world.containers.size,
      (other.container container).contents.isList = true ∧
      event.subject? = some (other.container container).keys.container := by
  obtain ⟨container, isList, about⟩ := retold.known event inside
  have there := World.lt_size_of_isList isList
  refine ⟨container, there, ?_⟩
  rw [turn.isList there, (turn.follows there).container]
  exact ⟨isList, about⟩

/-- After a turn a reader has the keys of a list that was there before. -/
theorem retells_old (retold : world.Retold history events)
    (held : world.Held (taken ++ rest) history) (numbered : world.Numbered)
    (turn : Turn world rest taken deed other put) {container : ContainerRef}
    (unheld : Unheld container (taken ++ rest)) (old : container < world.containers.size)
    (isList : (other.container container).contents.isList = true) (alone : other.Alone container)
    (orderly : Deed.setBegun container true ∉ history) :
    TraceEvent.Retells
      (TraceEvent.about (other.container container).keys.container
        (events ++ world.disclosures deed))
      (other.container container).keys.inUse := by
  have retells := retold.lists container ((turn.isList old).symm.trans isList)
    (alone.of_turn turn old) orderly
  rw [← (turn.follows old).container] at retells
  rw [TraceEvent.about_append]
  by_cases changed : deed.rearranged? = some container
  · rw [turn.about_disclosures held numbered changed]
    exact turn.retells held unheld old changed retells
  · have same : (other.container container).keys = (world.container container).keys :=
      (congrArg (·.keys) (turn.container old)).trans (deed.keys_of_ne_rearranged? changed _)
    rw [turn.about_disclosures_eq_nil held numbered alone changed, List.append_nil]
    rw [same] at retells ⊢
    exact retells

/-- After a turn that makes a list a reader has the keys of the list. -/
theorem retells_made (retold : world.Retold history events)
    (held : world.Held (taken ++ rest) history) (numbered : world.Numbered)
    (turn : Turn world rest taken deed other put) {container : ContainerRef}
    (new : world.containers.size ≤ container)
    (isList : (other.container container).contents.isList = true)
    (alone : other.Alone container) :
    TraceEvent.Retells
      (TraceEvent.about (other.container container).keys.container
        (events ++ world.disclosures deed))
      (other.container container).keys.inUse := by
  obtain ⟨_, _, made⟩ := turn.made held.sound new (World.lt_size_of_isList isList)
  obtain ⟨items, did, contents, _⟩ := made isList
  have changed : deed.rearranged? = some container := by rw [did]; rfl
  -- No list has had the number of the new one before.
  have untold : TraceEvent.about (other.container container).keys.container events = [] := by
    refine TraceEvent.about_eq_nil fun event inside about => ?_
    obtain ⟨target, there, list, subject⟩ := retold.known_turn turn inside
    obtain rfl := alone target list (Option.some.inj (subject.symm.trans about))
    exact absurd there (Nat.not_lt_of_le new)
  have retells := TraceEvent.Retells.nil.laidOut (other.container container).keys.inUse
  rw [List.append_nil] at retells
  rw [TraceEvent.about_append, untold, turn.about_disclosures held numbered changed, did]
  rw [Container.keys, contents] at retells ⊢
  exact retells

/-- Every turn keeps the agreement. -/
theorem turn (retold : world.Retold history events) (held : world.Held (taken ++ rest) history)
    (numbered : world.Numbered)
    (unheld : ∀ container, Deed.setBegun container true ∉ history →
      Unheld container (taken ++ rest))
    (turn : Turn world rest taken deed other put) :
    other.Retold (deed :: history) (events ++ world.disclosures deed) where
  known event inside := by
    rcases List.mem_append.mp inside with before | now
    · obtain ⟨container, _, isList, about⟩ := retold.known_turn turn before
      exact ⟨container, isList, about⟩
    · obtain ⟨container, _, isList, about⟩ := turn.subject?_of_mem_disclosures held numbered now
      exact ⟨container, isList, about⟩
  lists container isList alone orderly := by
    have before := List.not_mem_of_not_mem_cons orderly
    rcases Nat.lt_or_ge container world.containers.size with old | new
    · exact retold.retells_old held numbered turn (unheld container before) old isList alone before
    · exact retold.retells_made held numbered turn new isList alone

/-- Worlds with the same containers agree with the same events. -/
theorem congr (retold : world.Retold history events)
    (same : ∀ container, other.container container = world.container container) :
    other.Retold history events := by
  refine ⟨fun event inside => ?_, fun container isList alone orderly => ?_⟩
  · simp only [same]
    exact retold.known event inside
  · rw [same] at isList ⊢
    refine retold.lists container isList (fun second list number => ?_) orderly
    refine alone second ?_ ?_
    · rw [same]
      exact list
    · rw [same, same]
      exact number

end World.Retold

namespace Moment

/-- A traced run of a script has come to a moment. What the actions before the one at hand have
made visible is kept apart; the rest stands in the journal. -/
inductive Traced : List Event → Moment → Prop where
  /-- Nothing has happened yet. -/
  | start : Traced [] (Moment.start true)
  /-- The machine takes a step. -/
  | step {earlier moment} (traced : Traced earlier moment)
      (busy : moment.machine.isFinished = false) : Traced earlier moment.step
  /-- The machine has finished and the script goes on with an action. -/
  | begin {earlier moment} (traced : Traced earlier moment)
      (finished : moment.machine.isFinished = true) (action : Action) :
      Traced (earlier ++ moment.world.journal.events) (moment.begin action)

namespace Traced

variable {earlier : List Event} {moment : Moment}

/-- A run with a trace is a run. -/
theorem reached (traced : Traced earlier moment) : moment.IsReached := by
  induction traced with
  | start => exact .start true
  | step _ busy ih => exact ih.leads (.single (.step busy))
  | begin _ finished action ih => exact ih.begin finished action

/-- A script goes on with an action for any number of steps. -/
theorem run (traced : Traced earlier moment) (steps : Nat) :
    Traced earlier (moment.run steps) := by
  induction steps generalizing moment with
  | zero => exact traced
  | succ steps ih =>
    simp only [Moment.run]
    split
    · exact traced
    · next busy => exact ih (traced.step (by simpa using busy))

/-- The trace is wanted all the time. -/
theorem tracing (traced : Traced earlier moment) : moment.world.journal.tracing = true := by
  induction traced with
  | start => rfl
  | @step _ moment _ _ ih => exact (moment.machine.tells_step).tracing.trans ih
  | @begin _ moment _ _ action ih => exact (moment.idle.tells_perform action).tracing.trans ih

/-- What has been told about keys agrees with the lists at every moment. -/
theorem retold (traced : Traced earlier moment) :
    moment.world.Retold moment.history
      (Event.keyed (earlier ++ moment.world.journal.events)) := by
  induction traced with
  | start =>
    refine ⟨fun event inside => ?_, fun container isList => ?_⟩
    · cases inside
    · cases isList
  | @step earlier moment before busy ih =>
    obtain ⟨frame, rest, top⟩ := Machine.exists_frame busy
    obtain ⟨put, _, turn⟩ := Machine.step_turns top
    have held := before.reached.held
    have unheld := before.reached.unheld
    rw [top] at held unheld
    have told := moment.machine.tells_step.keyed_append before.tracing earlier
    have onward := ih.turn held before.reached.numbered unheld turn
    exact told ▸ onward
  | @begin earlier moment before finished action ih =>
    obtain ⟨put, _, turn⟩ := Machine.perform_turns moment.idle rfl action
    have same : moment.world.Alike moment.idle.world := .of_eq rfl rfl rfl rfl rfl rfl
    have held := before.reached.held.alike same
    have unheld := before.reached.unheld
    rw [Machine.stack_eq_nil finished] at held unheld
    have told := (moment.idle.tells_perform action).keyed_append before.tracing
      (earlier ++ moment.world.journal.events)
    have cleared : moment.idle.world.journal.events = [] := rfl
    rw [cleared, List.append_nil] at told
    have idle : moment.idle.world.Retold moment.history _ := ih.congr fun _ => rfl
    have onward := idle.turn held (before.reached.numbered.alike same) unheld turn
    exact told ▸ onward

end Traced

/-- What a session reports of actions that all come to an end is what makes up the log of a
traced run. -/
theorem Traced.exists_performAll {earlier : List Event} {moment : Moment}
    (traced : moment.Traced earlier) (finished : moment.machine.isFinished = true) (steps : Nat)
    (actions : List Action)
    (ends : ∀ report ∈ moment.session.performAll steps actions, report.outcome.isSome = true) :
    ∃ before, ∃ later : Moment, later.Traced before ∧ later.machine.isFinished = true ∧
      before ++ later.world.journal.events = earlier ++ moment.world.journal.events ++
        (moment.session.performAll steps actions).flatMap Report.events := by
  induction actions generalizing earlier moment with
  | nil => exact ⟨earlier, moment, traced, finished, (List.append_nil _).symm⟩
  | cons action actions ih =>
    let done := (moment.begin action).run steps
    obtain ⟨machine, same⟩ := (moment.begin action).machine_run steps
    have session : (moment.session.perform steps action).1 = done.session := by
      unfold Moment.session
      rw [machine, same]
      rfl
    have report : (moment.session.perform steps action).2.outcome = done.machine.outcome? ∧
        (moment.session.perform steps action).2.events = done.world.journal.events := by
      unfold Moment.world
      rw [machine]
      exact ⟨rfl, rfl⟩
    have reports : moment.session.performAll steps (action :: actions) =
        (moment.session.perform steps action).2 :: done.session.performAll steps actions := by
      rw [← session]
      rfl
    rw [reports] at ends ⊢
    have ended : done.machine.isFinished = true := by
      have outcome := ends _ List.mem_cons_self
      rw [report.1, Machine.outcome?] at outcome
      split at outcome
      · assumption
      · cases outcome
    obtain ⟨before, later, run, finished, log⟩ :=
      ih ((traced.begin finished action).run steps) ended
        fun report inside => ends report (List.mem_cons_of_mem _ inside)
    refine ⟨before, later, run, finished, log.trans ?_⟩
    rw [List.flatMap_cons, report.2, List.append_assoc _ _ (List.flatMap _ _)]

/-- Every moment of a run that starts with a trace is that of a traced run. -/
theorem Leads.exists_traced {moment : Moment} (leads : (Moment.start true).Leads moment) :
    ∃ earlier, Traced earlier moment := by
  induction leads with
  | refl => exact ⟨[], .start⟩
  | tail _ last ih =>
    obtain ⟨earlier, traced⟩ := ih
    cases last with
    | step busy => exact ⟨_, traced.step busy⟩
    | begin finished action => exact ⟨_, traced.begin finished action⟩

end Moment

/-- In a run with a trace, what is told about a list whose number no other list has lets a reader
follow its keys. At every moment, whatever is nested and whatever has failed, the reader comes to
have exactly the keys of the list; the position of each event is among the keys that the reader
has before it, a released key stands at its position there, and no more keys go than there are.
Only the replacement of the list must not have begun inside a setter or a borrowing body of the
list itself. -/
theorem traces_retell_keys {earlier : List Event} {moment : Moment}
    (traced : moment.Traced earlier) {container : ContainerRef}
    (isList : (moment.world.container container).contents.isList = true)
    (alone : moment.world.Alone container)
    (orderly : Deed.setBegun container true ∉ moment.history) :
    let keys := (moment.world.container container).keys
    let log := earlier ++ moment.world.journal.events
    TraceEvent.Retells (TraceEvent.told keys.container log) keys.inUse :=
  traced.retold.lists container isList alone orderly

/-- An action that replaces the elements of the list L by a single one. -/
def soleKept : Action :=
  ⟨"set", none, some (.literal (.text "L")),
    .operate (.set [] (.literal (.list [.int 7])))⟩

/-- After the list L of two elements has been made. -/
def pairThere : Moment := (Moment.start true).begin pairMade

/-- After the two elements of the list L have been replaced by a single one. -/
def pairReplaced : Moment := (pairThere.begin soleKept).run 6

/-- After the replacement of two elements by a single one the reader has put the new key before
the two old ones and then dropped these. -/
theorem traces_retell_keys_replacement :
    let log := pairThere.world.journal.events ++ pairReplaced.world.journal.events
    pairReplaced.Traced pairThere.world.journal.events ∧ pairReplaced.world.Alone 0 ∧
      Deed.setBegun 0 true ∉ pairReplaced.history ∧
      TraceEvent.told 0 log = [.keyMoved (.allocated ⟨0, 0⟩ 0), .keyMoved (.allocated ⟨0, 1⟩ 1),
        .keyMoved (.allocated ⟨0, 2⟩ 0), .listReplaced 0 2] ∧
      TraceEvent.Retells (TraceEvent.told 0 log) [⟨0, 2⟩] := by
  intro log
  have traced : pairReplaced.Traced pairThere.world.journal.events :=
    ((Moment.Traced.start.begin rfl pairMade).begin rfl soleKept).run 6
  have alone : pairReplaced.world.Alone 0 := by
    intro other isList _
    have there := World.lt_size_of_isList isList
    have single : pairReplaced.world.containers.size = 1 := by decide +kernel
    rw [single] at there
    exact Nat.lt_one_iff.mp there
  have orderly : Deed.setBegun 0 true ∉ pairReplaced.history := by
    have history : pairReplaced.history = [.replaced 0 [⟨0, 0⟩, ⟨0, 1⟩] [⟨0, 2⟩] [.int 7],
        .released 0, .quiet, .quiet, .quiet, .quiet, .setBegun 0 false,
        .listMade 0 [⟨0, 0⟩, ⟨0, 1⟩] [.int 1, .int 2]] := rfl
    simp [history]
  have keys : (pairReplaced.world.container 0).keys = ⟨0, 3, [⟨0, 2⟩]⟩ := by decide +kernel
  have isList : (pairReplaced.world.container 0).contents.isList = true := by decide +kernel
  have events : TraceEvent.told 0 log = [.keyMoved (.allocated ⟨0, 0⟩ 0),
      .keyMoved (.allocated ⟨0, 1⟩ 1), .keyMoved (.allocated ⟨0, 2⟩ 0), .listReplaced 0 2] := by
    decide +kernel
  have retells := traces_retell_keys traced isList alone orderly
  rw [keys] at retells
  exact ⟨traced, alone, orderly, events, retells⟩

/-- An action that replaces the elements of the list L inside a setter of the list. -/
def innerReplaced : Action :=
  ⟨"set", none, some (.literal (.text "L")), .operate (.set [soleKept] (.literal (.list [])))⟩

/-- After the replacement inside the setter has been refused. -/
def innerRefused : Moment := (pairThere.begin innerReplaced).run 7

/-- A replacement that begins inside a setter of its list is refused when the new keys have been
allocated. The list has dropped the old ones by then, but no event says so. -/
theorem refused_replacements_leave_old_keys_retold :
    innerRefused.Traced pairThere.world.journal.events ∧
      (innerRefused.world.container 0).keys.inUse = [⟨0, 2⟩] ∧
      TraceEvent.retold (TraceEvent.told 0
        (pairThere.world.journal.events ++ innerRefused.world.journal.events)) =
          [⟨0, 2⟩, ⟨0, 0⟩, ⟨0, 1⟩] := by
  have traced : innerRefused.Traced pairThere.world.journal.events :=
    ((Moment.Traced.start.begin rfl pairMade).begin rfl innerReplaced).run 7
  exact ⟨traced, by decide +kernel, by decide +kernel⟩

end Observables
