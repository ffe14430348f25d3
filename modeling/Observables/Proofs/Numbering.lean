import Observables.Proofs.Reading

/-!
# Numbers of lists and of their keys

Lists of one realm have different numbers, and a list numbers its keys so that
none comes twice. A key and a realm therefore name one element of one list, and
a key that has left its list stays away from it.
-/

namespace Observables

namespace Deed

/-- What a deed does to the keys of a list: nothing, or one change of them. -/
theorem keys_onContainer (container : ContainerRef) (deed : Deed) (held : Container) :
    (deed.onContainer container held).keys = held.keys ∨
      (∃ position, (deed.onContainer container held).keys = held.keys.allocate position) ∨
      (∃ position, (deed.onContainer container held).keys = held.keys.release position) ∨
      ∃ count, (deed.onContainer container held).keys = held.keys.releaseAll.fill count := by
  rcases held with ⟨realm, surface, contents, borrows, changes, additions, removals⟩
  cases contents with
  | cell value =>
    refine .inl ?_
    cases deed <;> simp only [onContainer] <;> split <;> rfl
  | list items keys =>
    cases deed with
    | inserted other position _ item =>
      simp only [onContainer]
      split
      · exact .inr (.inl ⟨position, rfl⟩)
      · exact .inl rfl
    | removed other position _ item =>
      simp only [onContainer]
      split
      · exact .inr (.inr (.inl ⟨position, rfl⟩))
      · exact .inl rfl
    | replaced other _ allotted items =>
      simp only [onContainer]
      split
      · exact .inr (.inr (.inr ⟨items.length, rfl⟩))
      · exact .inl rfl
    | rekeyed other _ allotted =>
      simp only [onContainer]
      split
      · exact .inr (.inr (.inr ⟨allotted.length, rfl⟩))
      · exact .inl rfl
    | _ =>
      refine .inl ?_
      simp only [onContainer] <;> split <;> rfl

section

variable {container : ContainerRef} {held : Container}

/-- An insertion allots the key of a list that goes to its position. -/
theorem keys_inserted (isList : held.contents.isList = true) (position : Nat) (key : Key)
    (item : Value) : ((Deed.inserted container position key item).onContainer container held).keys =
      held.keys.allocate position := by
  rcases held with ⟨realm, surface, contents, borrows, changes, additions, removals⟩
  cases contents with
  | cell value => cases isList
  | list items keys =>
    simp only [onContainer, if_true, Container.keys, Contents.insert, Contents.keys]

/-- A removal releases the key of a list at its position. -/
theorem keys_removed (isList : held.contents.isList = true) (position : Nat) (released : List Key)
    (item : Value) :
    ((Deed.removed container position released item).onContainer container held).keys =
      held.keys.release position := by
  rcases held with ⟨realm, surface, contents, borrows, changes, additions, removals⟩
  cases contents with
  | cell value => cases isList
  | list items keys =>
    simp only [onContainer, if_true, Container.keys, Contents.remove, Contents.keys]

/-- A replacement releases all keys of a list and allots one for each new element. -/
theorem keys_replaced (isList : held.contents.isList = true) (released allotted : List Key)
    (items : List Value) :
    ((Deed.replaced container released allotted items).onContainer container held).keys =
      held.keys.releaseAll.fill items.length := by
  rcases held with ⟨realm, surface, contents, borrows, changes, additions, removals⟩
  cases contents with
  | cell value => cases isList
  | list olds keys =>
    simp only [onContainer, if_true, Container.keys, Contents.replaceKeys, Contents.replaceItems,
      Contents.keys]

end

/-- A deed leaves keys that follow those before. -/
theorem follows_onContainer (container : ContainerRef) (deed : Deed) (held : Container) :
    (deed.onContainer container held).keys.Follows held.keys := by
  obtain same | ⟨_, same⟩ | ⟨_, same⟩ | ⟨count, same⟩ := deed.keys_onContainer container held
  · rw [same]
    exact .refl _
  · rw [same]
    exact held.keys.follows_allocate _
  · rw [same]
    exact held.keys.follows_release _
  · rw [same]
    exact (held.keys.releaseAll.follows_fill count).trans held.keys.follows_releaseAll

/-- A deed leaves keys that are proper if those before were. -/
theorem proper_onContainer (container : ContainerRef) (deed : Deed) {held : Container}
    (proper : held.keys.Proper) : (deed.onContainer container held).keys.Proper := by
  obtain same | ⟨_, same⟩ | ⟨_, same⟩ | ⟨count, same⟩ := deed.keys_onContainer container held
  · rw [same]
    exact proper
  · rw [same]
    exact proper.allocate _
  · rw [same]
    exact proper.release _
  · rw [same]
    exact (KeySequence.Proper.releaseAll held.keys).fill count

end Deed

/-- Lists are numbered apart and number their keys apart. -/
structure World.Numbered (world : World) : Prop where
  /-- The keys of a list are its own and different. -/
  proper : ∀ container, (world.container container).keys.Proper
  /-- The number of a list has been drawn from the supply of its realm. -/
  drawn : ∀ container, (world.container container).contents.isList = true →
    (world.container container).keys.container < world.nextListId (world.realmOf container)
  /-- Lists of one realm have different numbers. -/
  apart : ∀ first second, (world.container first).contents.isList = true →
    (world.container second).contents.isList = true →
    world.realmOf first = world.realmOf second →
    (world.container first).keys.container = (world.container second).keys.container →
    first = second

section

variable {world other : World} {rest taken put : List Frame} {deed : Deed}

/-- A turn leaves the keys of a list such that they follow those before. -/
theorem Turn.follows (turn : Turn world rest taken deed other put) {container : ContainerRef}
    (inside : container < world.containers.size) :
    (other.container container).keys.Follows (world.container container).keys := by
  have same : (other.container container).keys =
      (deed.onContainer container (world.container container)).keys :=
    congrArg (·.keys) (turn.container inside)
  rw [same]
  exact deed.follows_onContainer container _

/-- What is no list has the keys of an empty one. -/
theorem Container.keys_of_not_isList {held : Container} (cell : held.contents.isList = false) :
    held.keys = .empty 0 := by
  rcases held with ⟨_, _, contents, _, _, _, _⟩
  cases contents with
  | cell => rfl
  | list => cases cell

/-- A list that a turn makes has the number that was the next in its realm. -/
theorem Turn.newList (turn : Turn world rest taken deed other put) (sound : world.Sound)
    {container : ContainerRef} (beyond : world.containers.size ≤ container)
    (isList : (other.container container).contents.isList = true) :
    container = world.containers.size ∧ ∃ count,
      (other.container container).keys =
        .ofLength (world.nextListId (other.realmOf container)) count ∧
      other.nextListId (other.realmOf container) =
        world.nextListId (other.realmOf container) + 1 := by
  obtain ⟨last, _, made⟩ := turn.made sound beyond (World.lt_size_of_isList isList)
  obtain ⟨items, _, contents, next⟩ := made isList
  exact ⟨last, items.length, congrArg Contents.keys contents, next⟩

/-- A sequence that starts with some keys belongs to its list. -/
theorem KeySequence.container_ofLength (container length : Nat) :
    (KeySequence.ofLength container length).container = container :=
  container_fill _ _

namespace World.Numbered

/-- Every turn keeps numbers apart. -/
theorem turn (numbered : world.Numbered) (sound : world.Sound)
    (turn : Turn world rest taken deed other put) : other.Numbered where
  proper container := by
    rcases Nat.lt_or_ge container world.containers.size with old | beyond
    · have same : (other.container container).keys =
          (deed.onContainer container (world.container container)).keys :=
        congrArg (·.keys) (turn.container old)
      rw [same]
      exact deed.proper_onContainer container (numbered.proper container)
    · cases isList : (other.container container).contents.isList with
      | false =>
        rw [Container.keys_of_not_isList isList]
        exact .empty 0
      | true =>
        obtain ⟨_, count, keys, _⟩ := turn.newList sound beyond isList
        rw [keys]
        exact (KeySequence.Proper.empty _).fill count
  drawn container isList := by
    rcases Nat.lt_or_ge container world.containers.size with old | beyond
    · rw [(turn.follows old).container, turn.realmOf old]
      rw [turn.isList old] at isList
      exact Nat.lt_of_lt_of_le (numbered.drawn container isList)
        (turn.supplies sound (sound.realmOf container)).2
    · obtain ⟨_, count, keys, next⟩ := turn.newList sound beyond isList
      rw [keys, KeySequence.container_ofLength, next]
      exact Nat.lt_succ_self _
  apart first second firstList secondList sameRealm sameNumber := by
    -- A list that has just been made has a number that no older list has drawn.
    have fresh (old new : ContainerRef) (inside : old < world.containers.size)
        (beyond : world.containers.size ≤ new)
        (oldList : (other.container old).contents.isList = true)
        (newList : (other.container new).contents.isList = true)
        (sameRealm : other.realmOf old = other.realmOf new) :
        (other.container old).keys.container ≠ (other.container new).keys.container := by
      obtain ⟨_, count, keys, _⟩ := turn.newList sound beyond newList
      rw [keys, KeySequence.container_ofLength, (turn.follows inside).container, ← sameRealm,
        turn.realmOf inside]
      rw [turn.isList inside] at oldList
      exact Nat.ne_of_lt (numbered.drawn old oldList)
    rcases Nat.lt_or_ge first world.containers.size with firstOld | firstNew
    · rcases Nat.lt_or_ge second world.containers.size with secondOld | secondNew
      · rw [turn.isList firstOld] at firstList
        rw [turn.isList secondOld] at secondList
        rw [turn.realmOf firstOld, turn.realmOf secondOld] at sameRealm
        rw [(turn.follows firstOld).container, (turn.follows secondOld).container] at sameNumber
        exact numbered.apart first second firstList secondList sameRealm sameNumber
      · exact absurd sameNumber
          (fresh first second firstOld secondNew firstList secondList sameRealm)
    · rcases Nat.lt_or_ge second world.containers.size with secondOld | secondNew
      · exact absurd sameNumber.symm
          (fresh second first secondOld firstNew secondList firstList sameRealm.symm)
      · rw [(turn.newList sound firstNew firstList).1, (turn.newList sound secondNew secondList).1]

/-- Alike worlds are numbered alike. -/
theorem alike (numbered : world.Numbered) (same : world.Alike other) : other.Numbered := by
  refine ⟨fun container => ?_, fun container isList => ?_, fun first second => ?_⟩
  · rw [same.container]
    exact numbered.proper container
  · rw [same.container] at isList
    rw [same.container, World.nextListId, World.realmOf, same.container, same.realm]
    exact numbered.drawn container isList
  · simp only [World.realmOf, same.container]
    exact numbered.apart first second

/-- Numbers are apart whenever a script runs. -/
theorem preserved :
    Preserved (fun world _ _ => world.Sound) fun world _ _ => world.Numbered where
  first tracing := by
    refine ⟨fun container => .empty 0, fun container isList => ?_, fun first _ isList => ?_⟩
    · cases isList
    · cases isList
  alike same numbered := numbered.alike same
  turn sound numbered _ turn := numbered.turn sound turn

end World.Numbered

end

/-- Numbers are apart at every moment. -/
theorem Moment.IsReached.numbered {moment : Moment} (reached : moment.IsReached) :
    moment.world.Numbered :=
  World.Numbered.preserved.reached (fun reached => reached.held.sound)
    (fun same sound => sound.alike same) reached

end Observables
