import Observables.Proofs.Alignment
import Observables.Proofs.Delivery
import Observables.Proofs.Nesting

/-!
# What subscribers are owed

A change of a container owes one call to every subscription that is told about
it. What is owed lies on the stack: in notices that are still to go out, in
elements that are still to be announced, and in dispatches that the
subscription waits in. Each turn of a machine moves what is owed, adds what a
change makes due, and pays with calls. Where no subscriber and no teardown
fails nothing owed is lost, so between two actions the calls of a subscription
are as many as the changes that it is told about, however deep they are nested.
-/

namespace Observables

open Script

/-- The deed is one that the subscriptions of the channel are told about. -/
def Deed.affects (container : ContainerRef) (channel : Channel) : Deed → Bool
  | .stored other _ | .replaced other _ _ _ => other = container ∧ channel = .change
  | .inserted other _ _ _ => other = container ∧ channel ≠ .removed
  | .removed other _ _ _ => other = container ∧ channel ≠ .added
  | _ => false

namespace Contents

variable {contents : Contents} {position : Nat}

@[simp] theorem items_store (value : Value) : (contents.store value).items = contents.items := by
  cases contents <;> rfl

@[simp] theorem items_replaceKeys (count : Nat) :
    (contents.replaceKeys count).items = contents.items := by
  cases contents <;> rfl

end Contents

/-- How many calls a frame still owes to a subscription. -/
def Frame.owes (made : Enrolment) : Frame → Nat
  | .notify container notice =>
    if container = made.container ∧ notice.channel = made.channel then 1 else 0
  | .announce container _ _ _ =>
    if container = made.container ∧ Channel.added = made.channel then 1 else 0
  | .dispatch _ _ waiting => waiting.count made.subscription
  | _ => 0

/-- How many calls the frames still owe to a subscription. -/
def owed (made : Enrolment) : List Frame → Nat
  | [] => 0
  | frame :: frames => frame.owes made + owed made frames

section

variable {made : Enrolment}

@[simp] theorem owed_nil : owed made [] = 0 := rfl

@[simp] theorem owed_cons (frame : Frame) (frames : List Frame) :
    owed made (frame :: frames) = frame.owes made + owed made frames := rfl

@[simp] theorem owed_append (first second : List Frame) :
    owed made (first ++ second) = owed made first + owed made second := by
  induction first with
  | nil => rw [List.nil_append, owed_nil, Nat.zero_add]
  | cons frame first ih => rw [List.cons_append, owed_cons, owed_cons, ih, Nat.add_assoc]

/-- Frames that can be dropped owe nothing. -/
theorem Spent.owed {frames : List Frame} (spent : Spent frames) : owed made frames = 0 := by
  induction frames with
  | nil => rfl
  | cons frame frames ih =>
    have first := spent frame List.mem_cons_self
    have none : frame.owes made = 0 := by
      cases frame with
      | notify | announce => cases first
      | dispatch container notice waiting =>
        cases waiting with
        | nil => rfl
        | cons => cases first
      | _ => rfl
    rw [owed_cons, none, ih fun frame inside => spent frame (List.mem_cons_of_mem _ inside)]

end

section

variable {world other : World} {rest taken put : List Frame} {deed : Deed} {history : List Deed}
  {made : Enrolment}

/-- A notice reaches each subscription of its channel once, and no other one. -/
theorem World.Enrolled.count_snapshot (enrolment : world.Enrolled history)
    (known : made ∈ enrolled history) (active : made.isEnded history = false)
    (container : ContainerRef) (channel : Channel) :
    ((world.container container).registry channel).snapshot.count made.subscription =
      if container = made.container ∧ channel = made.channel then 1 else 0 := by
  have nodup := enrolment.nodup_snapshot container channel
  have member : made.subscription ∈ ((world.container container).registry channel).snapshot ↔
      container = made.container ∧ channel = made.channel := by
    rw [enrolment.snapshot, List.mem_map]
    constructor
    · rintro ⟨other, listed, same⟩
      obtain ⟨there, rfl, rfl, _⟩ := mem_registered.mp listed
      rw [enrolment.eq_of_subscription there known same]
      exact ⟨rfl, rfl⟩
    · rintro ⟨rfl, rfl⟩
      exact ⟨made, mem_registered.mpr ⟨known, rfl, rfl, active⟩, rfl⟩
  split
  · next here => exact List.count_eq_one_of_mem nodup (member.mpr here)
  · next elsewhere => exact List.count_eq_zero_of_not_mem fun inside => elsewhere (member.mp inside)

/-- With each turn the calls that are owed to a registered subscription grow by those that the
deed makes due and shrink by those that it makes, unless a frame is lost that owes some. -/
theorem Turn.account (turn : Turn world rest taken deed other put)
    (enrolment : world.Enrolled history) (known : made ∈ enrolled history)
    (active : made.isEnded history = false)
    (kept : ∀ frame : Frame, deed = .abandoned frame → frame.owes made = 0) :
    owed made put + deed.tells.count made.subscription =
      owed made taken + if deed.affects made.container made.channel then 1 else 0 := by
  have callee (body : List Action) (surface : Surface) (locals : Variables) :
      owed made (called body surface locals) = 0 :=
    (plain_called body surface locals).spent.owed
  have setter (body : List Action) (result : Expression) (surface : Surface)
      (locals : Variables) : owed made (invoked body result surface locals) = 0 :=
    (plain_invoked body result surface locals).spent.owed
  -- Only notices, announcements and dispatches owe calls, so most turns move nothing.
  cases turn with
  | dropped spent => simp [Deed.tells, Deed.affects, spent.owed]
  | quiet spent plain | bound spent plain | refused spent plain | listMade spent plain
  | cellMade spent plain | realmOpened spent plain | drawn spent plain
  | subscribed spent plain | unsubscribed spent plain | opened spent plain | ranAsked spent plain
  | setShielded spent plain | setBegun spent plain =>
    simp [Deed.tells, Deed.affects, Frame.owes, spent.spent.owed, plain.spent.owed, setter]
  | borrowed spent plain _ inner =>
    simp [Deed.tells, Deed.affects, Frame.owes, spent.spent.owed, plain.spent.owed,
      inner.spent.owed, setter]
  | settled | settledEmpty | dischargedEmpty | closed | released | ranSettled | ranDischarged
  | rekeyed | tornDown =>
    simp [Deed.tells, Deed.affects, Frame.owes, callee]
  | announced => rfl
  | notified =>
    simp [Deed.tells, Deed.affects, Frame.owes, enrolment.count_snapshot known active]
  | @passed container notice subscription waiting _ off =>
    have other : subscription ≠ made.subscription := by
      rintro rfl
      have ended := (enrolment.callback?_eq_none_iff known).mp off
      rw [active] at ended
      cases ended
    simp [Deed.tells, Deed.affects, Frame.owes, List.count_cons_of_ne other]
  | @told container notice subscription waiting =>
    simp [Deed.tells, Deed.affects, Frame.owes, callee, List.count_cons]
  | @inserted _ _ container _ _ _ spent plain =>
    by_cases here : container = made.container
    · cases channel : made.channel with
      | _ => simp [Deed.tells, Deed.affects, Frame.owes, Notice.channel, spent.spent.owed,
          plain.spent.owed, here, channel]
    · simp [Deed.tells, Deed.affects, Frame.owes, spent.spent.owed, plain.spent.owed, here]
  | @removed _ _ container _ _ _ _ spent plain =>
    by_cases here : container = made.container
    · cases channel : made.channel with
      | _ => simp [Deed.tells, Deed.affects, Frame.owes, Notice.channel, spent.spent.owed,
          plain.spent.owed, here, channel]
    · simp [Deed.tells, Deed.affects, Frame.owes, spent.spent.owed, plain.spent.owed, here]
  | @stored container | @replaced container =>
    by_cases here : container = made.container
    · cases channel : made.channel with
      | _ => simp [Deed.tells, Deed.affects, Frame.owes, Notice.channel, here, channel]
    · simp [Deed.tells, Deed.affects, Frame.owes, here]
  | @abandoned frame =>
    simp [Deed.tells, Deed.affects, kept frame rfl]

end

namespace Moment

variable {first later : Moment} {recent : List Deed} {made : Enrolment}

/-- From one moment to the next the calls that are owed to a registered subscription grow by
those that the deed makes due and shrink by those that it makes. -/
theorem Next.account {before after : Moment} (last : before.Next after) {deed : Deed}
    (latest : after.history = deed :: before.history) (reached : before.IsReached)
    (unbroken : Unbroken (deed :: recent)) (calm : Calm (deed :: recent))
    (known : made ∈ enrolled before.history) (active : made.isEnded before.history = false) :
    owed made after.machine.stack + deed.tells.count made.subscription =
      owed made before.machine.stack +
        if deed.affects made.container made.channel then 1 else 0 := by
  have kept (frame : Frame) (lost : deed = .abandoned frame) : frame.owes made = 0 := by
    have inside : Deed.abandoned frame ∈ deed :: recent := by
      rw [lost]
      exact List.mem_cons_self
    cases frame with
    | notify => exact absurd inside (unbroken _ rfl)
    | announce => exact absurd inside (unbroken _ rfl)
    | dispatch => exact absurd inside (calm.dispatches _ _ _)
    | _ => rfl
  obtain ⟨world, rest, taken, put, same, stack, above, turn⟩ := last.turn latest
  have moved := turn.account (reached.enrolled.alike same) known active kept
  rw [stack, above, owed_append, owed_append]
  omega

/-- A subscription that is registered at both ends of a stretch is so before its last deed. -/
theorem Stretch.stays {before after : Moment} (earlier : first.Stretch recent before) {deed : Deed}
    (latest : after.history = deed :: before.history) (known : made ∈ enrolled first.history)
    (active : made.isEnded after.history = false) :
    made ∈ enrolled before.history ∧ made.isEnded before.history = false := by
  refine ⟨(enrolled_suffix earlier.leads.history_suffix).subset known, ?_⟩
  rw [latest] at active
  exact Enrolment.isEnded_suffix (List.suffix_cons _ _) active

/-- On a calm stretch the calls that are owed to a subscription grow by those that the changes
make due and shrink by those that are made. -/
theorem Stretch.account (stretch : first.Stretch recent later) (reached : first.IsReached)
    (unbroken : Unbroken recent) (calm : Calm recent) (known : made ∈ enrolled first.history)
    (active : made.isEnded later.history = false) :
    owed made later.machine.stack + (recent.flatMap Deed.tells).count made.subscription =
      owed made first.machine.stack +
        recent.countP (Deed.affects made.container made.channel) := by
  induction stretch with
  | refl => rfl
  | @next recent before after deed earlier last latest ih =>
    obtain ⟨there, present⟩ := earlier.stays latest known active
    have account := ih unbroken.of_cons calm.of_cons present
    have moved := last.account latest (reached.leads earlier.leads) unbroken calm there present
    rw [List.flatMap_cons, List.count_append, List.countP_cons]
    omega

end Moment

/-- An action that removes the first element of the list L, but only once. -/
def firstRemovedOnce : Script.Action :=
  ⟨"limit", none, none, .limit (.literal (.text "once")) 1
    [⟨"remove", none, some (.literal (.text "L")), .operate (.removeAt (.literal (.int 0)))⟩]⟩

/-- The list L with a subscriber on each channel, one of which removes an element once. -/
def watched : Moment :=
  ((((((Moment.start false).begin pairMade).begin
    (subscribing "L" "c" (some .change) [firstRemovedOnce])).run 1).begin
    (subscribing "L" "a" (some .added) [])).run 1).begin
    (subscribing "L" "r" (some .removed) []) |>.run 1

/-- After an insertion, inside which an element is removed. -/
def watchedAfter : Moment := (watched.begin thirdInserted).run 40

/-- On the way of the insertion no subscriber and no teardown fails. -/
theorem watched_stretch :
    watched.IsReached ∧ watched.Stretch (watchedAfter.history.take 41) watchedAfter ∧
      Calm (watchedAfter.history.take 41) := by
  have changes := ((Moment.IsReached.start false).begin rfl pairMade).begin rfl
    (subscribing "L" "c" (some .change) [firstRemovedOnce])
  have additions := (changes.run 1).begin rfl (subscribing "L" "a" (some .added) [])
  have reached : watched.IsReached :=
    ((additions.run 1).begin rfl (subscribing "L" "r" (some .removed) [])).run 1
  have leads : watched.Leads watchedAfter :=
    .head (.begin rfl thirdInserted) ((watched.begin thirdInserted).leads_run 40)
  obtain ⟨recent, stretch⟩ := leads.exists_stretch
  have history := stretch.history
  have before : watched.history.length = 7 := rfl
  have after : watchedAfter.history.length = 48 := rfl
  have length : recent.length = 41 := by
    rw [history, List.length_append] at after
    omega
  have known : recent = watchedAfter.history.take 41 := by
    rw [history, ← length, List.take_left]
  rw [known] at stretch
  exact ⟨reached, stretch, Calm.of_all rfl⟩

end Observables
