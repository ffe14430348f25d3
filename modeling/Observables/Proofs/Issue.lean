import Observables.Proofs.Alignment
import Mathlib.Data.List.Basic
import Mathlib.Data.List.Nodup

/-!
# Keys are given out once

The history of a run records which keys each list has given out: when it was
made, at an insertion and at every replacement. What a list has given out is
at any moment what its counter says, so no key of a realm is given out twice,
and a key that has left its list is never met again. The written form of a key
says which key it is. Counters are unbounded here, so that they run out is not
considered.
-/

namespace Observables

namespace Contents

/-- A removal gives out no key. -/
theorem given_remove (contents : Contents) (position : Nat) :
    (contents.remove position).keys.given = contents.keys.given := by
  cases contents with
  | cell => rfl
  | list => rfl

/-- Storing a value gives out no key. -/
theorem given_store (contents : Contents) (value : Value) :
    (contents.store value).keys.given = contents.keys.given := by
  cases contents with
  | cell => rfl
  | list => rfl

end Contents

namespace Key

/-- A decimal number has no colon. -/
theorem colon_notMem_toDigits (number : Nat) : ':' ∉ Nat.toDigits 10 number := by
  intro inside
  have digit := Nat.isDigit_of_mem_toDigits (by decide) (by decide) inside
  cases digit

/-- The written form of a key, character by character. -/
theorem toList_text (key : Key) :
    key.text.toList = Nat.toDigits 10 key.container ++ ':' :: Nat.toDigits 10 key.seq := by
  simp only [text, String.toList_append, Nat.toString_eq_repr, Nat.toList_repr,
    List.append_assoc]
  rfl

/-- Different keys are written differently. -/
theorem text_injective : Function.Injective Key.text := by
  intro left right same
  have characters := congrArg String.toList same
  rw [toList_text, toList_text] at characters
  have parts := (List.append_cons_inj_of_notMem (colon_notMem_toDigits _)
    (colon_notMem_toDigits _)).mp characters
  have number {first second : Nat}
      (written : Nat.toDigits 10 first = Nat.toDigits 10 second) : first = second :=
    calc first
      _ = Nat.ofDigitChars 10 (Nat.toDigits 10 first) 0 := Nat.ofDigitChars_ten_toDigits.symm
      _ = Nat.ofDigitChars 10 (Nat.toDigits 10 second) 0 := by rw [written]
      _ = second := Nat.ofDigitChars_ten_toDigits
  rcases left with ⟨container, seq⟩
  rcases right with ⟨other, place⟩
  rw [Key.mk.injEq]
  exact ⟨number parts.1, number parts.2.2⟩

end Key

namespace Deed

/-- The keys that a deed gives out, each with the list that gives it out. -/
def issues : Deed → List (ContainerRef × Key)
  | .listMade container keys _ => keys.map (container, ·)
  | .inserted container _ key _ => [(container, key)]
  | .replaced container _ allotted _ => allotted.map (container, ·)
  | .rekeyed container _ allotted => allotted.map (container, ·)
  | _ => []

end Deed

/-- The keys that lists have given out in the course of a history, in the order of time. -/
def issues (history : List Deed) : List (ContainerRef × Key) :=
  history.reverse.flatMap Deed.issues

/-- The part of a list of keys that one list has given out. -/
def issuedBy (container : ContainerRef) (issued : List (ContainerRef × Key)) : List Key :=
  (issued.filter fun issue => issue.1 = container).map (·.2)

/-- The latest deed comes last. -/
theorem issues_cons (deed : Deed) (history : List Deed) :
    issues (deed :: history) = issues history ++ deed.issues := by
  rw [issues, List.reverse_cons, List.flatMap_append, List.flatMap_singleton]
  rfl

section

variable {container other : ContainerRef}

theorem issuedBy_append (first second : List (ContainerRef × Key)) :
    issuedBy container (first ++ second) =
      issuedBy container first ++ issuedBy container second := by
  rw [issuedBy, List.filter_append, List.map_append]
  rfl

/-- All of what one list gives out is given out by it. -/
theorem issuedBy_map_self (keys : List Key) :
    issuedBy container (keys.map (container, ·)) = keys := by
  rw [issuedBy, List.filter_map]
  simp [Function.comp_def]

/-- Nothing of what one list gives out is given out by another. -/
theorem issuedBy_map_of_ne (apart : container ≠ other) (keys : List Key) :
    issuedBy container (keys.map (other, ·)) = [] := by
  rw [issuedBy, List.filter_map]
  simp [Function.comp_def, Ne.symm apart]

/-- A key is given out by a list if the two stand together. -/
theorem mem_issuedBy (issued : List (ContainerRef × Key)) (key : Key) :
    key ∈ issuedBy container issued ↔ (container, key) ∈ issued := by
  simp [issuedBy]

end

section

variable {world next : World} {rest taken put : List Frame} {deed : Deed} {history : List Deed}

/-- The keys of a container that exists are given out as the deed says. -/
theorem Turn.given_of_lt (turn : Turn world rest taken deed next put)
    (held : world.Held (taken ++ rest) history) {container : ContainerRef}
    (inside : container < world.containers.size) :
    (next.container container).keys.given =
      (world.container container).keys.given ++ issuedBy container deed.issues := by
  have same : (next.container container).keys =
      (deed.onContainer container (world.container container)).keys :=
    congrArg (·.keys) (turn.container inside)
  rw [same]
  cases turn with
  | @inserted _ _ target position item _ _ _ isList =>
    by_cases here : container = target
    · subst here
      have issued : issuedBy container (Deed.issues (.inserted container position
          (world.container container).keys.freshKey item)) =
          [(world.container container).keys.freshKey] := issuedBy_map_self [_]
      rw [issued, Deed.keys_inserted isList]
      exact KeySequence.given_allocate _ position
    · have issued : issuedBy container (Deed.issues (.inserted target position
          (world.container target).keys.freshKey item)) = [] := issuedBy_map_of_ne here [_]
      rw [issued, List.append_nil]
      simp only [Deed.onContainer, if_neg here]
  | @replaced target items =>
    by_cases here : container = target
    · subst here
      rw [Deed.keys_replaced (held.lists container List.mem_cons_self)]
      simp only [Deed.issues, issuedBy_map_self]
      exact KeySequence.given_fill_releaseAll _ items.length
    · simp only [Deed.issues, issuedBy_map_of_ne here, List.append_nil, Deed.onContainer,
        if_neg here]
  | @rekeyed target count =>
    by_cases here : container = target
    · subst here
      obtain ⟨olds, keys, list⟩ := Contents.exists_list (held.lists container List.mem_cons_self)
      simp only [Deed.issues, issuedBy_map_self, Deed.onContainer, if_true, Container.keys, list,
        KeySequence.length_inUse_fill_releaseAll]
      exact keys.given_fill_releaseAll count
    · simp only [Deed.issues, issuedBy_map_of_ne here, List.append_nil, Deed.onContainer,
        if_neg here]
  | listMade =>
    have apart : container ≠ world.containers.size := Nat.ne_of_lt inside
    simp only [Deed.issues, issuedBy_map_of_ne apart, List.append_nil, Deed.onContainer]
  | removed =>
    refine Eq.trans ?_ (List.append_nil _).symm
    simp only [Deed.onContainer]
    split
    · exact Contents.given_remove _ _
    · rfl
  | stored =>
    refine Eq.trans ?_ (List.append_nil _).symm
    simp only [Deed.onContainer]
    split
    · exact Contents.given_store _ _
    · rfl
  | borrowed | setBegun | released =>
    refine Eq.trans ?_ (List.append_nil _).symm
    simp only [Deed.onContainer]
    split
    · rfl
    · rfl
  | _ => exact (List.append_nil _).symm

/-- What gives out a key is a list. -/
theorem Turn.isList_of_issues (turn : Turn world rest taken deed next put)
    (held : world.Held (taken ++ rest) history) {container : ContainerRef} {key : Key}
    (issued : (container, key) ∈ deed.issues) :
    (next.container container).contents.isList = true := by
  have still (isList : (world.container container).contents.isList = true) :
      (next.container container).contents.isList = true :=
    (turn.isList (World.lt_size_of_isList isList)).trans isList
  cases turn with
  | inserted _ _ isList =>
    obtain ⟨rfl, _⟩ := Prod.mk.inj (List.mem_singleton.mp issued)
    exact still isList
  | replaced =>
    obtain ⟨_, _, same⟩ := List.mem_map.mp issued
    obtain ⟨rfl, _⟩ := Prod.mk.inj same
    exact still (held.lists _ List.mem_cons_self)
  | rekeyed =>
    obtain ⟨_, _, same⟩ := List.mem_map.mp issued
    obtain ⟨rfl, _⟩ := Prod.mk.inj same
    exact still (held.lists _ List.mem_cons_self)
  | @listMade _ _ name realm _ _ _ _ _ _ alike =>
    obtain ⟨_, _, same⟩ := List.mem_map.mp issued
    obtain ⟨rfl, _⟩ := Prod.mk.inj same
    have row := World.container_makeContainer_self (world.takeListId realm) name
    rw [alike.container]
    exact congrArg (·.contents.isList) (row _)
  | _ => cases issued

/-- What a deed gives out of a list is what its counter moves on by. -/
theorem Turn.given (turn : Turn world rest taken deed next put)
    (held : world.Held (taken ++ rest) history) (container : ContainerRef) :
    (next.container container).keys.given =
      (world.container container).keys.given ++ issuedBy container deed.issues := by
  rcases Nat.lt_or_ge container world.containers.size with inside | beyond
  · exact turn.given_of_lt held inside
  · have blank : (world.container container).contents.isList = false := by
      rw [World.container, Table.entry_of_size_le beyond]
      rfl
    rw [Container.keys_of_not_isList blank]
    cases isList : (next.container container).contents.isList with
    | false =>
      rw [Container.keys_of_not_isList isList]
      have nothing : issuedBy container deed.issues = [] := by
        refine List.eq_nil_iff_forall_not_mem.mpr fun key inside => ?_
        have given := turn.isList_of_issues held ((mem_issuedBy _ key).mp inside)
        rw [isList] at given
        cases given
      rw [nothing, List.append_nil]
    | true =>
      obtain ⟨_, _, made⟩ := turn.made held.sound beyond (World.lt_size_of_isList isList)
      obtain ⟨items, deed, contents, _⟩ := made isList
      rw [deed, Container.keys, contents]
      simp only [Deed.issues, issuedBy_map_self]
      exact KeySequence.given_ofLength _ _

end

/-- What the history says about the keys given out is what the lists say. -/
def World.Issued (world : World) (history : List Deed) : Prop :=
  ∀ container, issuedBy container (issues history) = (world.container container).keys.given

/-- What lists have given out agrees with the history whenever a script runs. -/
theorem World.Issued.preserved :
    Preserved World.Held fun world _ history => world.Issued history where
  first tracing container := rfl
  alike same issued container := by
    rw [same.container]
    exact issued container
  turn held issued _ turn container := by
    rw [issues_cons, issuedBy_append, issued, turn.given held]

namespace Moment

variable {moment later : Moment}

/-- What lists have given out agrees with the history at every moment. -/
theorem IsReached.issued (reached : moment.IsReached) : moment.world.Issued moment.history :=
  World.Issued.preserved.reached (fun reached => reached.held) (fun same held => held.alike same)
    reached

/-- The keys that the lists of a realm have given out, in the order of time. -/
def issuedIn (moment : Moment) (realm : RealmRef) : List Key :=
  ((issues moment.history).filter fun issue => moment.world.realmOf issue.1 = realm).map (·.2)

/-- A list has given out a key if the history says so. -/
theorem IsReached.mem_issues (reached : moment.IsReached) (container : ContainerRef) (key : Key) :
    (container, key) ∈ issues moment.history ↔
      (moment.world.container container).keys.Allotted key := by
  rw [← mem_issuedBy, reached.issued container, KeySequence.mem_given]

/-- No list gives out a key twice. -/
theorem IsReached.nodup_issues (reached : moment.IsReached) : (issues moment.history).Nodup := by
  refine List.nodup_iff_count_le_one.mpr fun issue => ?_
  have single : (issuedBy issue.1 (issues moment.history)).Nodup := by
    rw [reached.issued]
    exact KeySequence.nodup_given _
  have once := List.nodup_iff_count_le_one.mp single.of_map issue
  rwa [List.count_filter (by simp)] at once

/-- Only lists have given out keys. -/
theorem isList_of_allotted {container : ContainerRef} {key : Key}
    (allotted : (moment.world.container container).keys.Allotted key) :
    (moment.world.container container).contents.isList = true := by
  cases isList : (moment.world.container container).contents.isList with
  | true => rfl
  | false =>
    rw [Container.keys_of_not_isList isList] at allotted
    exact absurd allotted.2 (Nat.not_lt_zero _)

/-- Two lists of one realm give out no key in common. -/
theorem IsReached.eq_of_allotted (reached : moment.IsReached) {first second : ContainerRef}
    {key : Key} (one : (moment.world.container first).keys.Allotted key)
    (other : (moment.world.container second).keys.Allotted key)
    (realm : moment.world.realmOf first = moment.world.realmOf second) : first = second :=
  reached.numbered.apart first second (isList_of_allotted one) (isList_of_allotted other) realm
    (one.1.symm.trans other.1)

/-- No key is given out twice in a realm. -/
theorem IsReached.nodup_issuedIn (reached : moment.IsReached) (realm : RealmRef) :
    (moment.issuedIn realm).Nodup := by
  refine (reached.nodup_issues.filter _).map_on fun one first other second same => ?_
  obtain ⟨oneIssued, oneRealm⟩ := List.mem_filter.mp first
  obtain ⟨otherIssued, otherRealm⟩ := List.mem_filter.mp second
  have oneAllotted := (reached.mem_issues one.1 one.2).mp oneIssued
  have otherAllotted := (reached.mem_issues other.1 other.2).mp otherIssued
  rw [← same] at otherAllotted
  have realms : moment.world.realmOf one.1 = moment.world.realmOf other.1 := by
    rw [of_decide_eq_true oneRealm, of_decide_eq_true otherRealm]
  exact Prod.ext (reached.eq_of_allotted oneAllotted otherAllotted realms) same

/-- From one moment to the next the keys of a list follow those before, in the same realm. -/
theorem Next.follows (next : moment.Next later) {container : ContainerRef}
    (inside : container < moment.world.containers.size) :
    (later.world.container container).keys.Follows (moment.world.container container).keys ∧
      later.world.realmOf container = moment.world.realmOf container ∧
      container < later.world.containers.size := by
  obtain ⟨world, rest, taken, put, deed, same, _, _, _, _, turn⟩ := next.exists_turn
  have still : container < world.containers.size := by
    rw [same.containers]
    exact inside
  have realm : world.realmOf container = moment.world.realmOf container := by
    rw [World.realmOf, same.container]
    rfl
  refine ⟨?_, (turn.realmOf still).trans realm, Nat.lt_of_lt_of_le still turn.size_le⟩
  rw [← same.container]
  exact turn.follows still

/-- In the course of a run the keys of a list follow those before, in the same realm. -/
theorem Leads.follows (leads : moment.Leads later) {container : ContainerRef}
    (inside : container < moment.world.containers.size) :
    (later.world.container container).keys.Follows (moment.world.container container).keys ∧
      later.world.realmOf container = moment.world.realmOf container := by
  have all : (later.world.container container).keys.Follows
        (moment.world.container container).keys ∧
      later.world.realmOf container = moment.world.realmOf container ∧
      container < later.world.containers.size := by
    induction leads with
    | refl => exact ⟨.refl _, rfl, inside⟩
    | tail _ last ih =>
      obtain ⟨follows, realm, still⟩ := ih
      obtain ⟨further, same, there⟩ := last.follows still
      exact ⟨further.trans follows, same.trans realm, there⟩
  exact ⟨all.1, all.2.1⟩

/-- A key that has left its list is in no list of the realm at any later moment. -/
theorem IsReached.not_mem_of_departed (reached : moment.IsReached) (leads : moment.Leads later)
    {container other : ContainerRef} {key : Key}
    (departed : (moment.world.container container).keys.Departed key)
    (realm : later.world.realmOf other = moment.world.realmOf container) :
    key ∉ (later.world.container other).keys.inUse := by
  intro inside
  have there := World.lt_size_of_isList (isList_of_allotted departed.1)
  obtain ⟨follows, same⟩ := leads.follows there
  have gone := follows.departed departed
  have onward := reached.leads leads
  have held := (onward.numbered.proper other).allotted key inside
  have one := onward.eq_of_allotted held gone.1 (realm.trans same.symm)
  rw [one] at inside
  exact gone.2 inside

/-- A list that is asked at the moment for the key at some position answers with the text. -/
def ShowsKey (moment : Moment) (container : ContainerRef) (text : String) : Prop :=
  ∃ (machine : Machine) (position : Expression) (place : Nat), machine.world = moment.world ∧
    (machine.evaluate position).position? = some place ∧
    (machine.operate container (.keyAt position)).focus = .resume (.value (.text text))

/-- The text that a list answers with is the written form of a key in use. -/
theorem ShowsKey.exists_key {container : ContainerRef} {text : String}
    (answered : moment.ShowsKey container text) :
    ∃ key ∈ (moment.world.container container).keys.inUse, key.text = text := by
  obtain ⟨machine, position, place, world, found, answers⟩ := answered
  simp only [Machine.operate, Machine.atPosition, found, Machine.answer, world] at answers
  cases there : (moment.world.container container).keys.keyAt? place with
  | none =>
    rw [there] at answers
    cases answers
  | some key =>
    rw [there] at answers
    cases answers
    exact ⟨key, List.mem_of_getElem? there, rfl⟩

/-- Two lists of a realm that answer with the same text have named the same key, and it was
given out once. -/
theorem IsReached.eq_of_showsKey (reached : moment.IsReached) (leads : moment.Leads later)
    {first second : ContainerRef} {text : String} (early : moment.ShowsKey first text)
    (late : later.ShowsKey second text)
    (realm : later.world.realmOf second = moment.world.realmOf first) :
    first = second ∧ ∃ key, key.text = text ∧
      key ∈ (moment.world.container first).keys.inUse ∧
      key ∈ (later.world.container second).keys.inUse ∧
      (issues later.history).count (first, key) = 1 := by
  obtain ⟨key, before, written⟩ := early.exists_key
  obtain ⟨other, after, again⟩ := late.exists_key
  have same : other = key := Key.text_injective (again.trans written.symm)
  rw [same] at after
  have onward := reached.leads leads
  have given := (reached.numbered.proper first).allotted key before
  obtain ⟨follows, kept⟩ := leads.follows (World.lt_size_of_isList (isList_of_allotted given))
  have still := follows.allotted given
  have held := (onward.numbered.proper second).allotted key after
  have one := onward.eq_of_allotted still held (kept.trans realm.symm)
  have issued := (onward.mem_issues first key).mpr still
  exact ⟨one, key, written, before, after,
    List.count_eq_one_of_mem onward.nodup_issues issued⟩

end Moment

/-- Of any two moments of a run, the later of which may be the same,

* no key is given out twice by the lists of a realm, whether to the elements that a list starts
  with, by an insertion or by a replacement;
* the keys in use in a list are different, bear the number of the list and have been given out
  in its realm;
* a key that a list has given out and does not use any more is in no list of its realm later;
* different keys are written differently, and two lists of a realm that answer with the same
  text, the one early and the other late, are one list, which has given out the key of that text
  once. -/
theorem keys_are_never_reused {moment later : Moment} (reached : moment.IsReached)
    (leads : moment.Leads later) :
    (∀ realm, (moment.issuedIn realm).Nodup) ∧
    (∀ container, let keys := (moment.world.container container).keys
      keys.inUse.Nodup ∧ ∀ key ∈ keys.inUse, key.container = keys.container ∧
        key ∈ moment.issuedIn (moment.world.realmOf container)) ∧
    (∀ container other key, (container, key) ∈ issues moment.history →
      key ∉ (moment.world.container container).keys.inUse →
      later.world.realmOf other = moment.world.realmOf container →
      key ∉ (later.world.container other).keys.inUse) ∧
    Function.Injective Key.text ∧
    ∀ first second text, moment.ShowsKey first text → later.ShowsKey second text →
      later.world.realmOf second = moment.world.realmOf first →
      first = second ∧ ∃ key, key.text = text ∧
        key ∈ (moment.world.container first).keys.inUse ∧
        key ∈ (later.world.container second).keys.inUse ∧
        (issues later.history).count (first, key) = 1 := by
  refine ⟨reached.nodup_issuedIn, fun container => ?_, fun container other key issued unused => ?_,
    Key.text_injective, fun first second text => reached.eq_of_showsKey leads⟩
  · have proper := reached.numbered.proper container
    refine ⟨proper.nodup, fun key inside => ?_⟩
    have allotted := proper.allotted key inside
    have issued := (reached.mem_issues container key).mpr allotted
    have here : (container, key) ∈ (issues moment.history).filter fun issue =>
        moment.world.realmOf issue.1 = moment.world.realmOf container :=
      List.mem_filter.mpr ⟨issued, decide_eq_true rfl⟩
    exact ⟨allotted.1, List.mem_map_of_mem here⟩
  · have allotted := (reached.mem_issues container key).mp issued
    exact reached.not_mem_of_departed leads ⟨allotted, unused⟩

/-- An action that removes the first element of the list L. -/
def firstRemoved : Script.Action :=
  ⟨"remove", none, some (.literal (.text "L")), .operate (.removeAt (.literal (.int 0)))⟩

/-- After the first of the two elements of the list L has been removed. -/
def firstGone : Moment := (((Moment.start false).begin pairMade).begin firstRemoved).run 8

/-- The key of an element that has been removed is not given to the next one. -/
theorem keys_are_never_reused_insertion :
    let later := firstGone.begin thirdInserted
    firstGone.IsReached ∧ firstGone.Leads later ∧ (0, ⟨0, 0⟩) ∈ issues firstGone.history ∧
      later.issuedIn 0 = [⟨0, 0⟩, ⟨0, 1⟩, ⟨0, 2⟩] ∧
      ⟨0, 0⟩ ∉ (later.world.container 0).keys.inUse := by
  intro later
  have made := (Moment.IsReached.start false).begin rfl pairMade
  have reached : firstGone.IsReached := (made.begin rfl firstRemoved).run 8
  have leads : firstGone.Leads later := .single (.begin rfl thirdInserted)
  have issued : (0, ⟨0, 0⟩) ∈ issues firstGone.history := List.mem_cons_self
  have unused : ⟨0, 0⟩ ∉ (firstGone.world.container 0).keys.inUse := by
    have used : (firstGone.world.container 0).keys.inUse = [⟨0, 1⟩] := rfl
    simp [used]
  have gone := (keys_are_never_reused reached leads).2.2.1 0 0 ⟨0, 0⟩ issued unused rfl
  exact ⟨reached, leads, issued, rfl, gone⟩

end Observables
