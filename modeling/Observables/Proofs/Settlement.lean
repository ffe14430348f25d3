import Observables.Proofs.Departure
import Observables.Proofs.Nesting
import Observables.Proofs.Scopes
import Observables.Proofs.Conservation

/-!
# Teardowns of elements are settled

In a calm and orderly script that leaves keys and teardowns to its lists, a
teardown is bound to a key only while the element of the key is announced.
So what is pending waits for the key of an element that is in its list, or of
one whose removal or announcement has not come to its end. When an action is
over nothing pends for a key that has left.
-/

namespace Observables

open Script

/-- The script leaves keys and teardowns to its lists, and replaces no list that it reads. -/
structure Ordinary (history : List Deed) : Prop where
  /-- It does not run teardowns itself. -/
  undriven : Undriven history
  /-- It does not open keys itself. -/
  unscoped : Unscoped history
  /-- It does not replace a list that it reads. -/
  orderly : Orderly history

/-- What was ordinary in the end was ordinary before. -/
theorem Ordinary.of_cons {deed : Deed} {history : List Deed}
    (ordinary : Ordinary (deed :: history)) : Ordinary history :=
  ⟨ordinary.undriven.of_cons, ordinary.unscoped.of_cons, ordinary.orderly.of_cons⟩

/-- Why teardowns may pend for a key of a realm. -/
inductive World.Awaits (world : World) (stack : List Frame) (realm : RealmRef) (key : Key) :
    Prop where
  /-- The element of the key is in its list. -/
  | present {container} (owns : world.Owns realm key container)
      (used : key ∈ (world.container container).keys.inUse) : Awaits world stack realm key
  /-- The removal of the element will run them. -/
  | departing {keys} (due : Frame.discharge realm keys ∈ stack) (inside : key ∈ keys) :
      Awaits world stack realm key
  /-- The end of the announcement of the element will run them. -/
  | arriving {container} (due : Frame.settle container key ∈ stack)
      (belongs : world.realmOf container = realm) : Awaits world stack realm key

/-- Whatever pends has its reason. -/
def World.Settled (world : World) (stack : List Frame) : Prop :=
  ∀ realm key, (world.realm realm).teardowns.pending key ≠ [] → world.Awaits stack realm key

section

variable {world other : World} {rest taken put : List Frame} {deed : Deed}
  {history : List Deed}

/-- A key that is in use stays in use unless the deed takes it out. -/
theorem Turn.inUse (turn : Turn world rest taken deed other put) {container : ContainerRef}
    {key : Key} (isList : (world.container container).contents.isList = true)
    (used : key ∈ (world.container container).keys.inUse) :
    key ∈ (other.container container).keys.inUse ∨ key ∈ deed.departures container := by
  obtain ⟨items, keys, list⟩ := Contents.exists_list isList
  rw [turn.keys (World.lt_size_of_isList isList)]
  have before := used
  simp only [Container.keys, list] at before
  cases turn with
  | @inserted _ _ target position item =>
    refine .inl ?_
    simp only [Deed.onContainer]
    split
    · simp only [Container.keys, list]
      exact (KeySequence.mem_inUse_allocate position key).mpr (.inr before)
    · exact used
  | @removed _ _ target position =>
    by_cases here : container = target
    · subst here
      obtain ⟨place, there⟩ := List.mem_iff_getElem?.mp before
      by_cases same : place = position
      · refine .inr ?_
        simp only [Deed.departures, if_true, Container.keys, list]
        exact Option.mem_toList.mpr (same ▸ there)
      · refine .inl ?_
        simp only [Deed.onContainer, if_true, Container.keys, list]
        exact List.mem_eraseIdx_iff_getElem?.mpr ⟨place, same, there⟩
    · simp only [Deed.onContainer, if_neg here]
      exact .inl used
  | @replaced target | @rekeyed target =>
    by_cases here : container = target
    · subst here
      simp only [Deed.departures, if_true]
      exact .inr used
    · simp only [Deed.onContainer, if_neg here]
      exact .inl used
  | stored =>
    refine .inl ?_
    simp only [Deed.onContainer]
    split
    · simp only [Container.keys, list]
      exact before
    · exact used
  | borrowed | setBegun | released =>
    refine .inl ?_
    simp only [Deed.onContainer]
    split
    · exact used
    · exact used
  | _ => exact .inl used

/-- What pends after a turn has pended before or is bound by it. -/
theorem Turn.pending_cases (turn : Turn world rest taken deed other put) (sound : world.Sound)
    {realm : RealmRef} {key : Key}
    (pends : (other.realm realm).teardowns.pending key ≠ []) :
    (world.realm realm).teardowns.pending key ≠ [] ∨
      ∃ teardown, deed = .registered realm (some key) teardown := by
  by_cases before : (world.realm realm).teardowns.pending key = []
  · refine .inr ?_
    have moved := turn.pending sound realm key
    rw [before, List.nil_append] at moved
    have bound : deed.accepts realm key ≠ [] := by
      rw [moved]
      exact List.append_ne_nil_of_right_ne_nil _ pends
    unfold Deed.accepts at bound
    split at bound
    · split at bound
      · next same =>
        obtain ⟨rfl, rfl⟩ := same
        exact ⟨_, rfl⟩
      · exact absurd rfl bound
    · exact absurd rfl bound
  · exact .inl before

/-- The innermost open key of a realm has its frame on the stack. -/
theorem World.Scoped.mem_of_activeKey? {stack : List Frame} (chain : world.Scoped stack)
    {realm : RealmRef} {key : Key} (active : (world.realm realm).activeKey? = some key) :
    Frame.scope realm key ∈ stack := by
  have inside : key ∈ (world.realm realm).active := List.mem_of_mem_head? active
  rw [chain.active realm] at inside
  obtain ⟨frame, there, opens⟩ := List.mem_flatMap.mp inside
  cases frame with
  | scope other opened =>
    simp only [Frame.opens] at opens
    split at opens
    · next same =>
      rw [same, List.mem_singleton.mp opens]
      exact there
    · cases opens
  | _ => cases opens

/-- A discharge goes on until no teardowns pend for its keys. -/
theorem Turn.discharge (turn : Turn world rest taken deed other put) (sound : world.Sound)
    {realm : RealmRef} {key : Key} {keys : List Key} (due : Frame.discharge realm keys ∈ taken)
    (unbroken : deed ≠ .abandoned (.discharge realm keys)) (inside : key ∈ keys) :
    ∃ above left, put = above ++ [.discharge realm left] ∧
      (key ∈ left ∨ (other.realm realm).teardowns.pending key = []) := by
  have after := turn.teardowns sound realm
  cases turn with
  | quiet spent | bound spent | refused spent | listMade spent | cellMade spent
  | realmOpened spent | drawn spent | subscribed spent | unsubscribed spent | opened spent
  | ranAsked spent | borrowed spent | setBegun spent | setShielded spent | inserted spent
  | removed spent =>
    cases spent _ due
  | dropped spent =>
    cases keys with
    | nil => cases inside
    | cons => cases spent _ due
  | dischargedEmpty empty =>
    cases List.mem_singleton.mp due
    refine ⟨[], _, rfl, ?_⟩
    rcases List.mem_cons.mp inside with same | inside
    · subst same
      refine .inr ?_
      have same : (other.realm realm).teardowns = (world.realm realm).teardowns := after
      rw [same, TeardownTable.pending, empty]
      rfl
    · exact .inl inside
  | ranDischarged =>
    cases List.mem_singleton.mp due
    refine ⟨[_, _], _, rfl, ?_⟩
    rcases List.mem_cons.mp inside with same | inside
    · subst same
      refine .inr ?_
      rw [after, Deed.onTeardowns, if_pos rfl, TeardownTable.pending_erase, if_pos rfl]
    · exact .inl inside
  | abandoned =>
    cases List.mem_singleton.mp due
    exact absurd rfl unbroken
  | _ => cases List.mem_singleton.mp due

/-- While teardowns pend for an added element, it is settled only if it is in its list. -/
theorem Turn.arriving (turn : Turn world rest taken deed other put) (sound : world.Sound)
    {container : ContainerRef} {key : Key}
    (before : (world.realm (world.realmOf container)).teardowns.pending key ≠ [])
    (pends : (other.realm (world.realmOf container)).teardowns.pending key ≠ [])
    (due : Frame.settle container key ∈ taken)
    (unbroken : deed ≠ .abandoned (.settle container key)) :
    key ∈ (world.container container).keys.inUse := by
  have after := turn.teardowns sound (world.realmOf container)
  cases turn with
  | quiet spent | bound spent | refused spent | listMade spent | cellMade spent
  | realmOpened spent | drawn spent | subscribed spent | unsubscribed spent | opened spent
  | ranAsked spent | borrowed spent | setBegun spent | setShielded spent | inserted spent
  | removed spent | dropped spent =>
    cases spent _ due
  | settled found =>
    cases List.mem_singleton.mp due
    by_contra absent
    rw [KeySequence.positionOf?, List.idxOf?_eq_none_iff.mpr absent] at found
    cases found
  | settledEmpty _ empty =>
    cases List.mem_singleton.mp due
    exact absurd (by rw [TeardownTable.pending, empty]; rfl) before
  | ranSettled =>
    cases List.mem_singleton.mp due
    refine absurd ?_ pends
    rw [after, Deed.onTeardowns, if_pos rfl, TeardownTable.pending_erase, if_pos rfl]
  | abandoned =>
    cases List.mem_singleton.mp due
    exact absurd rfl unbroken
  | _ => cases List.mem_singleton.mp due

/-- A turn that takes keys out of a list discharges them before anything else, and then tells of
the change, unless it replaces the keys of a list that is read. -/
theorem Turn.departing (turn : Turn world rest taken deed other put) {container : ContainerRef}
    (fills : ∀ released allotted, deed ≠ .rekeyed container released allotted) {key : Key}
    (departs : key ∈ deed.departures container) :
    ∃ keys tail, put = .discharge (world.realmOf container) keys ::
      .notify container .changed :: tail ∧ key ∈ keys := by
  cases turn with
  | removed | replaced =>
    simp only [Deed.departures] at departs
    split at departs
    · next here =>
      subst here
      exact ⟨_, _, rfl, departs⟩
    · cases departs
  | rekeyed =>
    simp only [Deed.departures] at departs
    split at departs
    · next here =>
      subst here
      exact absurd rfl (fills _ _)
    · cases departs
  | _ => cases departs

/-- What pends for a key that no action has opened stays settled, if the turn loses no rest of an
operation that would settle it. -/
theorem Turn.awaits (turn : Turn world rest taken deed other put) (sound : world.Sound)
    (chain : world.Scoped (taken ++ rest)) (nested : world.Nested history (taken ++ rest))
    (added : ∀ container key, Frame.settle container key ∈ taken ++ rest →
      world.Owns (world.realmOf container) key container)
    {realm : RealmRef} {key : Key} (unscoped : .opened .asked realm key ∉ history)
    (discharges : ∀ keys, key ∈ keys → deed ≠ .abandoned (.discharge realm keys))
    (settles : ∀ container, world.Owns realm key container →
      deed ≠ .abandoned (.settle container key))
    (fills : ∀ container, world.Owns realm key container → ∀ released allotted,
      deed ≠ .rekeyed container released allotted)
    (settled : (world.realm realm).teardowns.pending key ≠ [] →
      world.Awaits (taken ++ rest) realm key)
    (pends : (other.realm realm).teardowns.pending key ≠ []) :
    other.Awaits (put ++ rest) realm key := by
  have arrives {container : ContainerRef} (due : Frame.settle container key ∈ put ++ rest)
      (isList : (world.container container).contents.isList = true)
      (belongs : world.realmOf container = realm) : other.Awaits (put ++ rest) realm key :=
    .arriving due ((turn.realmOf (World.lt_size_of_isList isList)).trans belongs)
  have stays {container : ContainerRef} (owns : world.Owns realm key container)
      (used : key ∈ (world.container container).keys.inUse) :
      other.Awaits (put ++ rest) realm key := by
    rcases turn.inUse owns.isList used with still | departs
    · exact .present (turn.owns owns) still
    · obtain ⟨keys, tail, rfl, inside⟩ := turn.departing (fills _ owns) departs
      rw [owns.realm]
      exact .departing List.mem_cons_self inside
  rcases turn.pending_cases sound pends with before | ⟨teardown, rfl⟩
  · rcases settled before with ⟨owns, used⟩ | ⟨due, inside⟩ | @⟨container, due, belongs⟩
    · exact stays owns used
    · rcases List.mem_append.mp due with due | due
      · obtain ⟨above, left, rfl, still⟩ := turn.discharge sound due (discharges _ inside) inside
        have further : Frame.discharge realm left ∈ above ++ [.discharge realm left] :=
          List.mem_append_right _ List.mem_cons_self
        exact .departing (List.mem_append_left _ further) (still.resolve_right pends)
      · exact .departing (List.mem_append_right _ due) inside
    · have owns := added _ _ due
      subst belongs
      rcases List.mem_append.mp due with due | due
      · exact stays owns (turn.arriving sound before pends due (settles _ owns))
      · exact arrives (List.mem_append_right _ due) owns.isList rfl
  · cases turn with
    | bound spent _ _ active =>
      have inside := chain.mem_of_activeKey? active
      obtain ⟨container, due, isList, belongs⟩ := (nested.scope inside).resolve_right unscoped
      rcases List.mem_append.mp due with due | due
      · cases spent _ due
      · exact arrives (List.mem_append_right _ due) isList belongs

/-- Every turn of an ordinary script in which no rest of an operation is lost keeps
what pends settled. -/
theorem World.Settled.turn (settled : world.Settled (taken ++ rest))
    (held : world.Held (taken ++ rest) history) (marked : world.Marked (taken ++ rest) history)
    (chain : world.Scoped (taken ++ rest)) (nested : world.Nested history (taken ++ rest))
    (unscoped : Unscoped history) (orderly : Orderly history)
    (unbroken : ∀ frame : Frame, frame.isOwn = true → deed ≠ .abandoned frame)
    (turn : Turn world rest taken deed other put) : other.Settled (put ++ rest) := by
  intro realm key pends
  have added (container : ContainerRef) (key : Key)
      (due : Frame.settle container key ∈ taken ++ rest) :
      world.Owns (world.realmOf container) key container := by
    obtain ⟨isList, allotted⟩ := marked.frames _ due
    exact ⟨isList, rfl, allotted⟩
  exact turn.awaits held.sound chain nested added (unscoped realm key)
    (fun _ _ => unbroken _ rfl) (fun _ _ => unbroken _ rfl)
    (fun _ _ => turn.not_rekeyed held orderly _) (settled realm key) pends

/-- What a list has given out in a world it has given out in a like one. -/
theorem World.Owns.alike {realm : RealmRef} {key : Key} {container : ContainerRef}
    (owns : world.Owns realm key container) (same : world.Alike other) :
    other.Owns realm key container := by
  refine ⟨?_, ?_, ?_⟩
  · rw [same.container]
    exact owns.isList
  · rw [World.realmOf, same.container]
    exact owns.realm
  · rw [same.container]
    exact owns.allotted

/-- What has its reason to pend in a world has it in a like one. -/
theorem World.Awaits.alike {stack : List Frame} {realm : RealmRef} {key : Key}
    (awaits : world.Awaits stack realm key) (same : world.Alike other) :
    other.Awaits stack realm key := by
  cases awaits with
  | @present container owns used =>
    refine .present (owns.alike same) ?_
    rw [same.container]
    exact used
  | departing due inside => exact .departing due inside
  | arriving due belongs =>
    refine .arriving due ?_
    rw [World.realmOf, same.container]
    exact belongs

/-- What pends is settled in a world if it is settled in a like one. -/
theorem World.Settled.alike {stack : List Frame} (settled : world.Settled stack)
    (same : world.Alike other) : other.Settled stack := by
  intro realm key pends
  rw [same.realm] at pends
  exact (settled realm key pends).alike same

end

/-- What is known of the world, the stack and the history of an ordinary script. -/
structure World.Ordered (world : World) (stack : List Frame) (history : List Deed) : Prop where
  /-- References, readers and replacements are as they should be. -/
  held : world.Held stack history
  /-- Keys stand as the frames need them. -/
  marked : world.Marked stack history
  /-- Keys are open as long as their frames are on the stack. -/
  chain : world.Scoped stack
  /-- Every frame lies on the others as it may. -/
  nested : world.Nested history stack

namespace World.Settled

/-- What pends stays settled whenever an ordinary script runs and no rest of an
operation is lost. -/
theorem preserved :
    Preserved (fun world stack history => Ordinary history → world.Ordered stack history)
      fun world stack history => Ordinary history → Unbroken history → world.Settled stack where
  first tracing _ _ realm key pends := by
    have blank := World.field_start Realm.teardowns rfl tracing realm
    rw [blank] at pends
    exact absurd rfl pends
  alike same settled ordinary unbroken := (settled ordinary unbroken).alike same
  turn known settled _ turn ordinary unbroken := by
    have ordered := known ordinary.of_cons
    refine (settled ordinary.of_cons unbroken.of_cons).turn ordered.held ordered.marked
      ordered.chain ordered.nested ordinary.unscoped.of_cons ordinary.orderly.of_cons
      (fun frame own same => ?_) turn
    exact unbroken frame own (same ▸ List.mem_cons_self)

end World.Settled

namespace Moment.IsReached

/-- The world and the stack are in order at every moment of an ordinary script. -/
theorem ordered {moment : Moment} (reached : moment.IsReached)
    (ordinary : Ordinary moment.history) :
    moment.world.Ordered moment.machine.stack moment.history :=
  ⟨reached.held, reached.marked ordinary.undriven, reached.scopes, reached.nested⟩

/-- What pends is settled at every moment of a calm and ordinary script. -/
theorem settled {moment : Moment} (reached : moment.IsReached)
    (ordinary : Ordinary moment.history) (calm : Calm moment.history) :
    moment.world.Settled moment.machine.stack := by
  have unbroken : Unbroken moment.history := reached.unbroken calm
  refine World.Settled.preserved.reached (fun reached => reached.ordered) ?_ reached ordinary
    unbroken
  intro world other stack history same known ordinary
  have ordered := known ordinary
  exact ⟨ordered.held.alike same, World.Marked.preserved.alike same (fun _ => ordered.marked)
    ordinary.undriven, ordered.chain.alike same,
    World.Nested.preserved.alike same ordered.nested⟩

/-- When an action of a calm and ordinary script is over, what pends waits for keys of
elements that are in their lists. -/
theorem present {moment : Moment} (reached : moment.IsReached)
    (ordinary : Ordinary moment.history) (calm : Calm moment.history)
    (finished : moment.machine.isFinished = true) {realm : RealmRef} {key : Key}
    (pends : (moment.world.realm realm).teardowns.pending key ≠ []) :
    ∃ container, moment.world.Owns realm key container ∧
      key ∈ (moment.world.container container).keys.inUse := by
  have empty : moment.machine.stack = [] := Machine.stack_eq_nil finished
  have settled := reached.settled ordinary calm
  rw [empty] at settled
  cases settled realm key pends with
  | present owns used => exact ⟨_, owns, used⟩
  | departing due => cases due
  | arriving due => cases due

end Moment.IsReached

end Observables
