import Observables.Proofs.Course
import Observables.Proofs.Placement
import Observables.Proofs.Chain
import Observables.Proofs.Convergence

/-!
# Additions that are told before removals

An insertion owes a call to every add subscription, and a removal owes one to
every remove subscription. The call that a subscription is owed stays on the
stack until it is made. So an add subscription has been told of an element by
the time at which the element is removed, unless the removal happens under the
announcement itself: in a change subscriber that is told of the insertion, or
in an add subscriber that is told of the element before. In these two cases the
removal is told first, and the add subscription is told of an element that has
left the list.
-/

namespace Observables

open Script

/-- A subscription is owed the call of a notice by frames that lie on a base. -/
def Pends (list : ContainerRef) (notice : Notice) (subscription : SubscriptionRef)
    (base stack : List Frame) : Prop :=
  ∃ above, stack = above ++ .notify list notice :: base ∨
    ∃ waiting, subscription ∈ waiting ∧ stack = above ++ .dispatch list notice waiting :: base

/-- Where a call is owed the stack is higher than the base. -/
theorem Pends.above {list : ContainerRef} {notice : Notice} {subscription : SubscriptionRef}
    {base stack : List Frame} (pends : Pends list notice subscription base stack) :
    base.length < stack.length := by
  obtain ⟨above, rfl | ⟨waiting, _, rfl⟩⟩ := pends
  · rw [List.length_append, List.length_cons]
    omega
  · rw [List.length_append, List.length_cons]
    omega

/-- Neither the rest of an operation nor a call of callbacks has been lost. -/
def Intact (history : List Deed) : Prop :=
  ∀ frame : Frame, frame.isOwn = true ∨ frame.isCaller = true → Deed.abandoned frame ∉ history

/-- What was intact in the end was intact before. -/
theorem Intact.of_cons {deed : Deed} {history : List Deed} (intact : Intact (deed :: history)) :
    Intact history :=
  fun frame kind inside => intact frame kind (List.mem_cons_of_mem _ inside)

/-- A part of what is intact is intact. -/
theorem Intact.mono {part whole : List Deed} (intact : Intact whole) (subset : part ⊆ whole) :
    Intact part :=
  fun frame kind inside => intact frame kind (subset inside)

namespace Moment

/-- Between two moments a subscription is called by a dispatch that lies on a base, and nothing
under the dispatch is touched before. -/
def Calls (first : Moment) (list : ContainerRef) (notice : Notice) (subscription : SubscriptionRef)
    (base : List Frame) (later : Moment) : Prop :=
  ∃ early call called late waiting,
    first.Course (fun moment _ => base.length < moment.machine.stack.length) early call ∧
    call.machine.stack = .dispatch list notice (subscription :: waiting) :: base ∧
    call.Next called ∧
    called.history = .told list notice subscription :: call.history ∧
    called.Stretch late later

variable {first before after later : Moment} {recent : List Deed} {deed : Deed}
  {list : ContainerRef} {notice : Notice} {made : Enrolment} {base : List Frame}

/-- On a calm stretch nothing that has begun is lost. -/
theorem Stretch.intact (stretch : first.Stretch recent later) (reached : first.IsReached)
    (safe : first.IsSafe) (calm : Calm recent) : Intact recent := by
  have unbroken := (stretch.unbroken reached safe calm).2
  rintro frame (own | caller)
  · exact unbroken frame own
  · cases frame with
    | dispatch => exact calm.dispatches _ _ _
    | teardown => exact calm.teardowns _ _ _
    | _ => cases caller

/-- A call that is owed is owed or made by the next step. -/
theorem Next.pends (last : before.Next after) (latest : after.history = deed :: before.history)
    (reached : before.IsReached) (known : made ∈ registered list notice.channel before.history)
    (intact : Intact [deed])
    (pends : Pends list notice made.subscription base before.machine.stack) :
    Pends list notice made.subscription base after.machine.stack ∨
      (deed = .told list notice made.subscription ∧ ∃ waiting, before.machine.stack =
        .dispatch list notice (made.subscription :: waiting) :: base) := by
  have enrolment := reached.enrolled
  obtain ⟨enrolled, _, _, active⟩ := mem_registered.mp known
  cases last with
  | begin finished action =>
    obtain ⟨above, stack | ⟨waiting, _, stack⟩⟩ := pends
    · rw [Machine.stack_eq_nil finished] at stack
      simp at stack
    · rw [Machine.stack_eq_nil finished] at stack
      simp at stack
  | step busy =>
    have done : before.machine.deed = deed := List.head_eq_of_cons_eq latest
    obtain ⟨above, due⟩ := pends
    cases above with
    | cons frame above =>
      left
      rcases due with stack | ⟨waiting, waits, stack⟩
      · obtain ⟨put, next, _⟩ := Machine.step_turns (stack.trans (List.cons_append ..))
        exact ⟨put ++ above, .inl (next.trans (List.append_assoc ..).symm)⟩
      · obtain ⟨put, next, _⟩ := Machine.step_turns (stack.trans (List.cons_append ..))
        exact ⟨put ++ above, .inr ⟨waiting, waits, next.trans (List.append_assoc ..).symm⟩⟩
    | nil =>
      -- What is owed is innermost, so it goes out or has its turn, since no failure reaches it.
      have resumes {frame : Frame} (top : before.machine.stack = frame :: base)
          (kind : frame.isOwn = true ∨ frame.isCaller = true)
          (lost : Machine.unwindDeed frame = .abandoned frame) :
          ∃ reply, before.machine.focus = .resume reply := by
        cases focus : before.machine.focus with
        | resume reply => exact ⟨reply, rfl⟩
        | unwind failure =>
          simp only [Machine.deed, top, focus, lost] at done
          exact absurd (done ▸ List.mem_singleton_self _) (intact frame kind)
      rcases due with top | ⟨waiting, waits, top⟩
      · rw [List.nil_append] at top
        obtain ⟨reply, focus⟩ := resumes top (.inl rfl) rfl
        have next : before.step.machine.stack = .dispatch list notice
            ((before.world.container list).registry notice.channel).snapshot :: base := by
          show before.machine.step.stack = _
          rw [Machine.step_of_resume top focus]
          rfl
        refine .inl ⟨[], .inr ⟨_, ?_, next⟩⟩
        rw [enrolment.snapshot]
        exact List.mem_map_of_mem known
      · rw [List.nil_append] at top
        obtain ⟨reply, focus⟩ := resumes top (.inr rfl) rfl
        cases waiting with
        | nil => cases waits
        | cons subscription waiting =>
          obtain ⟨⟨inner, next⟩, tells⟩ := step_turning top focus
          by_cases mine : subscription = made.subscription
          · subst mine
            have on : before.world.callback? made.subscription ≠ none := by
              rw [Ne, enrolment.callback?_eq_none_iff enrolled, active]
              simp
            refine .inr ⟨?_, waiting, top⟩
            rw [← done]
            cases callback : before.machine.world.callback? made.subscription with
            | none => exact absurd callback on
            | some callback =>
              simp only [Machine.deed, top, focus, Machine.resumeDeed, callback]
          · have still := (List.mem_cons.mp waits).resolve_left (Ne.symm mine)
            exact .inl ⟨inner, .inr ⟨waiting, still, next⟩⟩

/-- On an intact stretch a call that is owed stays so or is made. -/
theorem Stretch.serves (stretch : first.Stretch recent later) (reached : first.IsReached)
    (known : made ∈ registered list notice.channel first.history)
    (active : made.isEnded later.history = false) (intact : Intact recent)
    (pends : Pends list notice made.subscription base first.machine.stack) :
    (Pends list notice made.subscription base later.machine.stack ∧
        first.Course (fun moment _ => base.length < moment.machine.stack.length) recent later) ∨
      first.Calls list notice made.subscription base later := by
  induction stretch with
  | refl => exact .inl ⟨pends, .refl⟩
  | @next recent before after deed earlier last latest ih =>
    have still : made.isEnded before.history = false := by
      rw [latest] at active
      exact Enrolment.isEnded_suffix (List.suffix_cons _ _) active
    rcases ih still intact.of_cons with ⟨pends, course⟩ | ⟨early, call, called, late, waiting,
      course, top, turn, told, onward⟩
    · have midway : before.IsReached := reached.leads earlier.leads
      obtain ⟨enrolled, here, channel, _⟩ := mem_registered.mp known
      have present : made ∈ registered list notice.channel before.history :=
        mem_registered.mpr ⟨(enrolled_suffix earlier.leads.history_suffix).subset enrolled, here,
          channel, still⟩
      have high : decide (base.length < before.machine.stack.length) = true :=
        decide_eq_true pends.above
      rcases last.pends latest midway present (intact.mono (by simp)) pends with
        pends | ⟨told, waiting, top⟩
      · exact .inl ⟨pends, course.next last latest high⟩
      · subst told
        exact .inr ⟨recent, before, after, [], waiting, course, top, last, latest, .refl⟩
    · exact .inr ⟨early, call, called, deed :: late, waiting, course, top, turn, told,
        onward.next last latest⟩

/-- On an intact stretch an element that is to be announced stays so or its announcement begins. -/
theorem Stretch.announces (stretch : first.Stretch recent later) (intact : Intact recent)
    {key : Key} {item : Value} {position : Nat} {above : List Frame}
    (stack : first.machine.stack = above ++ .announce list key item position :: base) :
    (∃ above, later.machine.stack = above ++ .announce list key item position :: base) ∨
      ∃ early begun late realm, first.Stretch early begun ∧ begun.Stretch late later ∧
        recent = late ++ early ∧
        begun.machine.stack = .notify list (.added item position) :: .scope realm key :: base := by
  induction stretch with
  | refl => exact .inl ⟨above, stack⟩
  | @next recent before after deed earlier last latest ih =>
    rcases ih intact.of_cons with
      ⟨above, stack⟩ | ⟨early, begun, late, realm, one, two, whole, begins⟩
    · cases last with
      | begin finished action =>
        rw [Machine.stack_eq_nil finished] at stack
        simp at stack
      | step busy =>
        cases above with
        | cons frame above =>
          obtain ⟨put, next, _⟩ := Machine.step_turns (stack.trans (List.cons_append ..))
          exact .inl ⟨put ++ above, next.trans (List.append_assoc ..).symm⟩
        | nil =>
          rw [List.nil_append] at stack
          cases focus : before.machine.focus with
          | resume reply =>
            have next : before.step.machine.stack = .notify list (.added item position) ::
                .scope (before.world.realmOf list) key :: base := by
              show before.machine.step.stack = _
              rw [Machine.step_of_resume stack focus]
              rfl
            exact .inr ⟨_, before.step, [], _, earlier.next (.step busy) latest, .refl, rfl, next⟩
          | unwind failure =>
            have done : before.machine.deed = deed := List.head_eq_of_cons_eq latest
            simp only [Machine.deed, stack, focus, Machine.unwindDeed] at done
            have kept := intact (.announce list key item position) (.inl rfl)
            rw [done] at kept
            exact absurd List.mem_cons_self kept
    · refine .inr ⟨early, begun, deed :: late, realm, one, two.next last latest, ?_, begins⟩
      rw [whole, List.cons_append]

end Moment

/-- A frame that lies on others is to tell a subscription of an element that was added, or is to
announce the element. -/
def Frame.Heralds (list : ContainerRef) (key : Key) (subscription : SubscriptionRef)
    (frame : Frame) (beneath : List Frame) : Prop :=
  match frame with
  | .announce other named _ _ => other = list ∧ named = key
  | .notify other (.added _ _) =>
    other = list ∧ ∃ realm further, beneath = .scope realm key :: further
  | .dispatch other (.added _ _) waiting =>
    other = list ∧ subscription ∈ waiting ∧ ∃ realm further, beneath = .scope realm key :: further
  | _ => False

/-- A subscription is still to be told of an element that was added. -/
def Unannounced (list : ContainerRef) (key : Key) (subscription : SubscriptionRef) :
    List Frame → Prop
  | [] => False
  | frame :: beneath =>
    frame.Heralds list key subscription beneath ∨ Unannounced list key subscription beneath

/-- The change subscriptions are being told that an element was added, and its announcement is
still to come. -/
def UnderChange (list : ContainerRef) (key : Key) (stack : List Frame) : Prop :=
  ∃ above waiting item position below, stack =
    above ++ .dispatch list .changed waiting :: .announce list key item position :: below

/-- An element is being announced, and a subscription still waits for its turn. -/
def UnderEarlier (list : ContainerRef) (key : Key) (subscription : SubscriptionRef)
    (stack : List Frame) : Prop :=
  ∃ above waiting item position realm below, subscription ∈ waiting ∧
    stack = above ++ .dispatch list (.added item position) waiting :: .scope realm key :: below

section

variable {list : ContainerRef} {key : Key} {subscription : SubscriptionRef}
  {world other : World} {rest taken put stack : List Frame} {deed : Deed}

/-- Frames of bodies announce nothing. -/
theorem Unannounced.of_inner {frames : List Frame}
    (unannounced : Unannounced list key subscription (frames ++ stack)) (inner : Inner frames) :
    Unannounced list key subscription stack := by
  induction frames with
  | nil => exact unannounced
  | cons frame frames ih =>
    obtain ⟨own, caller⟩ := inner frame List.mem_cons_self
    refine ih (unannounced.resolve_left fun heralds => ?_) fun frame inside =>
      inner frame (List.mem_cons_of_mem _ inside)
    cases frame with
    | announce | notify => cases own
    | dispatch => cases caller
    | _ => exact heralds

/-- Whoever is still to be told of an element was so before, unless the element is added now. -/
theorem Turn.unannounced (turn : Turn world rest taken deed other put)
    (fresh : ∀ position item, deed ≠ .inserted list position key item)
    (unannounced : Unannounced list key subscription (put ++ rest)) :
    Unannounced list key subscription (taken ++ rest) := by
  have under (later : Unannounced list key subscription rest) :
      Unannounced list key subscription (taken ++ rest) := by
    clear turn
    induction taken with
    | nil => exact later
    | cons frame taken ih => exact .inr ih
  cases turn with
  | dropped | settled | settledEmpty | closed | released | rekeyed | abandoned =>
    exact under unannounced
  | quiet spent plain | bound spent plain | refused spent plain | listMade spent plain
  | cellMade spent plain | realmOpened spent plain | drawn spent plain
  | subscribed spent plain | unsubscribed spent plain =>
    exact under (unannounced.of_inner plain.inner)
  | stored | dischargedEmpty => exact under (unannounced.resolve_left id)
  | replaced | ranSettled =>
    exact under ((unannounced.resolve_left id).resolve_left id)
  | ranDischarged =>
    exact under (((unannounced.resolve_left id).resolve_left id).resolve_left id)
  | ranAsked spent plain =>
    have further := (unannounced.resolve_left id).resolve_left id
    exact under (further.of_inner plain.inner)
  | opened spent plain =>
    have further := ((unannounced.resolve_left id).resolve_left id).resolve_left id
    exact under (further.of_inner plain.inner)
  | tornDown =>
    rw [List.append_assoc] at unannounced
    have further := unannounced.of_inner (plain_called _ _ _).inner
    exact under (further.resolve_left id)
  | borrowed spent plain _ inner =>
    exact under (unannounced.of_inner (inner_reading inner.inner plain))
  | setBegun spent plain =>
    exact under (unannounced.of_inner (inner_reading (inner_replace _) plain))
  | setShielded spent plain => exact under (unannounced.of_inner (inner_setting plain))
  | removed spent plain =>
    have further :=
      (((unannounced.resolve_left id).resolve_left id).resolve_left id).resolve_left id
    exact under (further.of_inner plain.inner)
  | @inserted _ tail target position item _ spent plain =>
    rcases unannounced.resolve_left id with ⟨rfl, rfl⟩ | further
    · exact absurd rfl (fresh position item)
    · exact under (((further.resolve_left id).resolve_left id).of_inner plain.inner)
  | announced =>
    rcases unannounced with ⟨rfl, realm, further, scope⟩ | further
    · cases scope
      exact .inl ⟨rfl, rfl⟩
    · exact under (further.resolve_left id)
  | @notified target notice =>
    rcases unannounced with heralds | further
    · cases notice with
      | added => exact .inl ⟨heralds.1, heralds.2.2⟩
      | _ => cases heralds
    · exact under further
  | @passed target notice =>
    rcases unannounced with heralds | further
    · cases notice with
      | added => exact .inl ⟨heralds.1, List.mem_cons_of_mem _ heralds.2.1, heralds.2.2⟩
      | _ => cases heralds
    · exact under further
  | @told target notice =>
    rw [List.append_assoc] at unannounced
    rcases unannounced.of_inner (plain_called _ _ _).inner with heralds | further
    · cases notice with
      | added => exact .inl ⟨heralds.1, List.mem_cons_of_mem _ heralds.2.1, heralds.2.2⟩
      | _ => cases heralds
    · exact under further

/-- Under the frame of a body, a subscription is still to be told of an element only while the
change subscriptions or earlier add subscriptions are called. -/
theorem Unannounced.cases_of_plain (unannounced : Unannounced list key subscription stack)
    (placed : Placed stack) {frame : Frame} (top : stack.head? = some frame)
    (plain : frame.isPlain = true) :
    UnderChange list key stack ∨ UnderEarlier list key subscription stack := by
  have split : ∃ above herald beneath, stack = above ++ herald :: beneath ∧
      herald.Heralds list key subscription beneath := by
    clear placed top
    induction stack with
    | nil => cases unannounced
    | cons head tail ih =>
      rcases unannounced with heralds | further
      · exact ⟨[], head, tail, rfl, heralds⟩
      · obtain ⟨above, herald, beneath, rfl, heralds⟩ := ih further
        exact ⟨head :: above, herald, beneath, rfl, heralds⟩
  obtain ⟨above, herald, beneath, rfl, heralds⟩ := split
  rcases List.eq_nil_or_concat above with rfl | ⟨higher, next, rfl⟩
  · -- The herald itself is not the frame of a body.
    obtain rfl : herald = frame := Option.some.inj top
    cases herald with
    | announce | notify | dispatch => cases plain
    | _ => cases heralds
  · simp only [List.concat_eq_append, List.append_assoc, List.singleton_append] at placed top ⊢
    have stands := placed.of_append.1
    cases herald with
    | dispatch other notice waiting =>
      cases notice with
      | added item position =>
        obtain ⟨rfl, waits, realm, further, rfl⟩ := heralds
        exact .inr ⟨higher ++ [next], waiting, item, position, realm, further, waits, by simp⟩
      | _ => cases heralds
    | notify other notice =>
      cases notice with
      | added => cases stands
      | _ => cases heralds
    | announce other named item position =>
      obtain ⟨rfl, rfl⟩ := heralds
      rcases Frame.spreads_cases stands with rfl | ⟨waiting, rfl⟩
      · -- Nothing lies on the notice of an insertion, so it would be innermost.
        rcases List.eq_nil_or_concat higher with rfl | ⟨upper, last, rfl⟩
        · cases Option.some.inj top
          cases plain
        · simp only [List.concat_eq_append, List.append_assoc, List.singleton_append] at placed
          cases placed.of_append.1
      · exact .inl ⟨higher, waiting, item, position, beneath, rfl⟩
    | _ => cases heralds

end

namespace Moment

variable {first before after later : Moment} {recent : List Deed} {deed : Deed}
  {list : ContainerRef} {key : Key} {subscription : SubscriptionRef}

/-- A list keeps what it has given out. -/
theorem Stretch.owns (stretch : first.Stretch recent later) {realm : RealmRef}
    (owns : first.world.Owns realm key list) : later.world.Owns realm key list := by
  induction stretch with
  | refl => exact owns
  | next _ last latest ih =>
    obtain ⟨world, rest, taken, put, alike, _, _, turn⟩ := last.turn latest
    exact turn.owns (ih.alike alike)

/-- Since a list gives out a key once, whoever is still to be told of its element in the end was
so before. -/
theorem Stretch.unannounced (stretch : first.Stretch recent later) {realm : RealmRef}
    (owns : first.world.Owns realm key list)
    (unannounced : Unannounced list key subscription later.machine.stack) :
    Unannounced list key subscription first.machine.stack := by
  induction stretch with
  | refl => exact unannounced
  | @next recent before after deed earlier last latest ih =>
    obtain ⟨world, rest, taken, put, alike, stack, above, turn⟩ := last.turn latest
    have allotted := ((earlier.owns owns).alike alike).allotted
    refine ih ?_
    rw [above] at unannounced
    rw [stack]
    refine turn.unannounced (fun position item inserted => ?_) unannounced
    subst inserted
    cases turn with
    | inserted => exact KeySequence.not_allotted_freshKey _ allotted

/-- One stretch goes on with another. -/
theorem Stretch.trans {between : Moment} {early late : List Deed}
    (stretch : first.Stretch early between) (further : between.Stretch late later) :
    first.Stretch (late ++ early) later := by
  induction further with
  | refl => exact stretch
  | next _ last latest ih => exact ih.next last latest

/-- A subscription that is registered on both ends of a stretch is so on the way. -/
theorem registered_between {between : Moment} {channel : Channel} {made : Enrolment}
    (known : made ∈ registered list channel first.history) (early : first.Leads between)
    (late : between.Leads later) (active : made.isEnded later.history = false) :
    made ∈ registered list channel between.history := by
  obtain ⟨enrolled, here, on, _⟩ := mem_registered.mp known
  exact mem_registered.mpr ⟨(enrolled_suffix early.history_suffix).subset enrolled, here, on,
    Enrolment.isEnded_suffix late.history_suffix active⟩

/-- An add subscription is called while the key of its element is open. -/
theorem IsReached.activeKey?_of_added {moment : Moment} (reached : moment.IsReached)
    {item : Value} {position : Nat} {waiting : List SubscriptionRef} {beneath : List Frame}
    (stack : moment.machine.stack = .dispatch list (.added item position) waiting :: beneath) :
    ∃ key below, beneath = .scope (moment.world.realmOf list) key :: below ∧
      moment.world.activeKey? = some key := by
  have nested := reached.nested
  rw [stack] at nested
  obtain ⟨_, key, below, rfl⟩ := nested.1
  refine ⟨key, _, rfl, ?_⟩
  rw [reached.scopes.activeKey?, stack]
  rfl

/-- A removal is done by the frame of a body. It discharges the keys that it takes out of the list,
and then tells of the change and of the removal. -/
theorem Next.of_removed {leaving gone : Moment} {place : Nat} {released : List Key} {value : Value}
    (leaves : leaving.Next gone) (reached : leaving.IsReached)
    (removed : gone.history = .removed list place released value :: leaving.history) :
    (∀ key ∈ released, ∃ realm, leaving.world.Owns realm key list) ∧
      (∀ frame, leaving.machine.stack.head? = some frame → frame.isPlain = true) ∧
      ∃ realm base, gone.machine.stack = .discharge realm released :: .notify list .changed ::
        .notify list (.removed place) :: base := by
  obtain ⟨world, rest, taken, put, done, alike, stack, ground, above, history, turn⟩ :=
    leaves.exists_turn
  obtain ⟨rfl, _⟩ := List.cons.inj (history.symm.trans removed)
  have numbered := reached.numbered.alike alike
  cases turn with
  | removed spent plain _ there =>
    refine ⟨fun key inside => ⟨world.realmOf list, ?_⟩, fun frame top => ?_, _, _, above⟩
    · have used := List.mem_of_getElem? (Option.mem_toList.mp inside)
      have isList := Container.isList_of_items there
      have allotted := (numbered.proper list).allotted key used
      rw [alike.container] at isList allotted
      exact ⟨isList, by rw [World.realmOf, World.realmOf, alike.container], allotted⟩
    · rw [stack] at top
      cases taken with
      | nil =>
        rw [ground rfl] at top
        cases top
      | cons next taken =>
        cases top
        exact spent _ List.mem_cons_self

/-- From the removal of an element on, an add subscription is not told of it any more, unless the
removal happens under its announcement. -/
theorem not_told_of_removed {leaving gone call called : Moment} {mid : List Deed} {place : Nat}
    {released : List Key} {value item : Value} {position : Nat} (reached : leaving.IsReached)
    (leaves : leaving.Next gone)
    (removed : gone.history = .removed list place released value :: leaving.history)
    (taken : key ∈ released) (onward : leaving.Stretch mid call) (turns : call.Next called)
    (told : called.history = .told list (.added item position) subscription :: call.history)
    (active : call.world.activeKey? = some key) :
    UnderChange list key leaving.machine.stack ∨
      UnderEarlier list key subscription leaving.machine.stack := by
  obtain ⟨owned, plain, _⟩ := leaves.of_removed reached removed
  obtain ⟨realm, owns⟩ := owned key taken
  have midway : call.IsReached := reached.leads onward.leads
  obtain ⟨_, deed⟩ := turns.eq_step told
  obtain ⟨waiting, rest, reply, callback, stack, _⟩ := Machine.told_inversion deed
  obtain ⟨other, below, beneath, open_⟩ := midway.activeKey?_of_added stack
  obtain rfl : other = key := Option.some.inj (open_.symm.trans active)
  have due : Unannounced list other subscription call.machine.stack := by
    rw [stack]
    exact .inl ⟨rfl, List.mem_cons_self, _, below, beneath⟩
  have before := onward.unannounced owns due
  cases top : leaving.machine.stack.head? with
  | none =>
    rw [List.head?_eq_none_iff.mp top] at before
    cases before
  | some frame => exact before.cases_of_plain reached.placed top (plain frame top)

/-- An insertion tells of the change and then announces the element. -/
theorem Next.of_inserted {entered : Moment} {position : Nat} {item : Value}
    (enters : before.Next entered)
    (inserted : entered.history = .inserted list position key item :: before.history) :
    ∃ base, entered.machine.stack =
      .notify list .changed :: .announce list key item position :: base := by
  obtain ⟨world, rest, taken, put, _, _, above, turn⟩ := enters.turn inserted
  cases turn with
  | inserted => exact ⟨_, above⟩

/-- On an intact stretch that begins with an insertion, an add subscription is told of the element
or is still to be told of it. -/
theorem Stretch.tells_inserted {entered leaving : Moment} {mid : List Deed} {position : Nat}
    {item : Value} {made : Enrolment} (between : entered.Stretch mid leaving)
    (reached : entered.IsReached)
    (known : made ∈ registered list .added entered.history)
    (active : made.isEnded leaving.history = false) (intact : Intact mid) {base : List Frame}
    (stack : entered.machine.stack =
      .notify list .changed :: .announce list key item position :: base) :
    Unannounced list key made.subscription leaving.machine.stack ∨
      ∃ early call called late, entered.Stretch early call ∧ call.Next called ∧
        called.history = .told list (.added item position) made.subscription :: call.history ∧
        call.world.activeKey? = some key ∧ called.Stretch late leaving := by
  have herald {above beneath : List Frame} {frame : Frame}
      (heralds : frame.Heralds list key made.subscription beneath) :
      Unannounced list key made.subscription (above ++ frame :: beneath) := by
    induction above with
    | nil => exact .inl heralds
    | cons _ _ ih => exact .inr ih
  have starts : entered.machine.stack =
      [.notify list .changed] ++ .announce list key item position :: base := stack
  rcases between.announces intact starts with
    ⟨above, still⟩ | ⟨early, begun, late, realm, one, two, rfl, begins⟩
  · rw [still]
    exact .inl (herald ⟨rfl, rfl⟩)
  · have there := registered_between known one.leads two.leads active
    have onward : begun.IsReached := reached.leads one.leads
    have part : Intact late := intact.mono (List.subset_append_left _ _)
    have due : Pends list (.added item position) made.subscription (.scope realm key :: base)
        begun.machine.stack := ⟨[], .inl begins⟩
    rcases two.serves onward there active part due with ⟨pends, _⟩ | ⟨first, call, called, last,
      waiting, course, top, turns, told, rest⟩
    · left
      obtain ⟨above, stack | ⟨waiting, waits, stack⟩⟩ := pends
      · rw [stack]
        exact herald ⟨rfl, _, _, rfl⟩
      · rw [stack]
        exact herald ⟨rfl, waits, _, _, rfl⟩
    · have midway : call.IsReached := onward.leads course.stretch.leads
      obtain ⟨other, below, beneath, active⟩ := midway.activeKey?_of_added top
      cases beneath
      exact .inr ⟨_, call, called, last, one.trans course.stretch, turns, told, active, rest⟩

end Moment

/-- Take a run of a script, between two actions of which no subscriber and no teardown fails, and
an add and a remove subscription of a list that are registered before and not ended. If an
element is put into the list and taken out of it again on the way, then

* the add subscription is told of the element after the insertion and before the removal, while
  the key of the element is open, and not any more after the removal;
* the remove subscription is told of the removal after it, by the dispatch that the removal has
  made due,

unless the removal happens under the announcement of the same element: while the change
subscriptions are being told of the insertion, or while the add subscriptions are being told
of the element and this one still waits. -/
theorem additions_are_told_before_removals
    {first before entered leaving gone later : Moment} {early mid late : List Deed}
    {list : ContainerRef} {position place : Nat} {key : Key} {item value : Value}
    {released : List Key} {adder remover : Enrolment} (reached : first.IsReached)
    (idle : first.machine.isFinished = true) (run : first.Stretch early before)
    (enters : before.Next entered)
    (inserted : entered.history = .inserted list position key item :: before.history)
    (between : entered.Stretch mid leaving) (leaves : leaving.Next gone)
    (removed : gone.history = .removed list place released value :: leaving.history)
    (taken : key ∈ released) (onward : gone.Stretch late later)
    (ended : later.machine.isFinished = true)
    (calm : Calm (late ++ .removed list place released value ::
      (mid ++ .inserted list position key item :: early)))
    (adds : adder ∈ registered list .added first.history)
    (removes : remover ∈ registered list .removed first.history)
    (stays : adder.isEnded later.history = false ∧ remover.isEnded later.history = false)
    (change : ¬ UnderChange list key leaving.machine.stack)
    (announcement : ¬ UnderEarlier list key adder.subscription leaving.machine.stack) :
    (∃ sooner call called further, entered.Stretch sooner call ∧ call.Next called ∧
      called.history = .told list (.added item position) adder.subscription :: call.history ∧
      call.world.activeKey? = some key ∧ called.Stretch further leaving) ∧
    (∀ further call called item position, leaving.Stretch further call → call.Next called →
      called.history = .told list (.added item position) adder.subscription :: call.history →
      call.world.activeKey? ≠ some key) ∧
    (∃ realm base, gone.machine.stack = .discharge realm released :: .notify list .changed ::
        .notify list (.removed place) :: base ∧
      gone.Calls list (.removed place) remover.subscription base later) := by
  have entering : first.Stretch _ entered := run.next enters inserted
  have leaving_stretch : first.Stretch _ leaving := entering.trans between
  have going : first.Stretch _ gone := leaving_stretch.next leaves removed
  have intact := (going.trans onward).intact reached (.of_isFinished idle) calm
  have entered_reached : entered.IsReached := reached.leads entering.leads
  have leaving_reached : leaving.IsReached := reached.leads leaving_stretch.leads
  have gone_reached : gone.IsReached := reached.leads going.leads
  have after_leaving : leaving.Leads later :=
    (Relation.ReflTransGen.single leaves).trans onward.leads
  have pending (due : Unannounced list key adder.subscription leaving.machine.stack) : False := by
    obtain ⟨_, plain, _⟩ := leaves.of_removed leaving_reached removed
    cases top : leaving.machine.stack.head? with
    | none =>
      rw [List.head?_eq_none_iff.mp top] at due
      cases due
    | some frame =>
      exact (due.cases_of_plain leaving_reached.placed top (plain frame top)).elim change
        announcement
  refine ⟨?_, fun further call called item position there turns told active => ?_, ?_⟩
  · obtain ⟨base, stack⟩ := enters.of_inserted inserted
    have known := Moment.registered_between adds entering.leads
      (between.leads.trans after_leaving) stays.1
    have active := Enrolment.isEnded_suffix after_leaving.history_suffix stays.1
    have part : Intact mid := intact.mono (by
      intro deed inside
      simp [inside])
    exact (between.tells_inserted entered_reached known active part stack).resolve_left pending
  · exact (Moment.not_told_of_removed leaving_reached leaves removed taken there turns told
      active).elim change announcement
  · obtain ⟨_, _, realm, base, stack⟩ := leaves.of_removed leaving_reached removed
    have known := Moment.registered_between removes going.leads onward.leads stays.2
    have part : Intact late := intact.mono (List.subset_append_left _ _)
    have due : Pends list (.removed place) remover.subscription base gone.machine.stack :=
      ⟨[.discharge realm released, .notify list .changed], .inl stack⟩
    refine ⟨realm, base, stack, (onward.serves gone_reached known stays.2 part due).resolve_left ?_⟩
    rintro ⟨still, _⟩
    have high := still.above
    rw [Machine.stack_eq_nil ended] at high
    cases high

/-- An action that removes the last element of the list L. -/
def lastPopped : Script.Action :=
  ⟨"pop", none, some (.literal (.text "L")), .operate .pop⟩

/-- An action that adds a number at the end of the list L. -/
def numberPushed (number : Int) : Script.Action :=
  ⟨"push", none, some (.literal (.text "L")), .operate (.push (.literal (.int number)))⟩

/-- An empty list with a consumer and another add subscriber, which removes what is added. -/
def swift : Moment :=
  ((((((Moment.start false).begin (emptyMade "L" none)).begin
    (subscribing "L" "a" (some .added) [])).run 1).begin
    (subscribing "L" "r" (some .removed) [])).run 1).begin
    (subscribing "L" "e" (some .added) [lastPopped]) |>.run 1

/-- The other add subscriber is about to remove the number that has just been added. -/
def swiftLeaving : Moment := (swift.begin (numberPushed 1)).run 9

/-- After the addition inside which the number was removed. -/
def swiftAfter : Moment := swiftLeaving.step.run 40

/-- A number that is removed by an add subscriber which comes after the consumer is told to the
consumer first, when it is added and then when it is removed. -/
theorem additions_are_told_before_removals_nested :
    swift.IsReached ∧ swiftAfter.machine.isFinished = true ∧
      (∃ sooner call called further, (swift.begin (numberPushed 1)).Stretch sooner call ∧
        call.Next called ∧ called.history = .told 0 (.added (.int 1) 0) 0 :: call.history ∧
        call.world.activeKey? = some ⟨0, 0⟩ ∧ called.Stretch further swiftLeaving) ∧
      ∃ base, swiftLeaving.step.Calls 0 (.removed 0) 1 base swiftAfter := by
  have additions := ((Moment.IsReached.start false).begin rfl (emptyMade "L" none)).begin rfl
    (subscribing "L" "a" (some .added) [])
  have removals := (additions.run 1).begin rfl (subscribing "L" "r" (some .removed) [])
  have reached : swift.IsReached :=
    ((removals.run 1).begin rfl (subscribing "L" "e" (some .added) [lastPopped])).run 1
  have enters : swift.Next (swift.begin (numberPushed 1)) := .begin rfl _
  have leaves : swiftLeaving.Next swiftLeaving.step := .step rfl
  have inserted : (swift.begin (numberPushed 1)).history =
      .inserted 0 0 ⟨0, 0⟩ (.int 1) :: swift.history := rfl
  have removed : swiftLeaving.step.history =
      .removed 0 0 [⟨0, 0⟩] (.int 1) :: swiftLeaving.history := rfl
  have to_leaving : (swift.begin (numberPushed 1)).Leads swiftLeaving := Moment.leads_run _ 9
  have to_end : swiftLeaving.step.Leads swiftAfter := Moment.leads_run _ 40
  obtain ⟨mid, between⟩ := to_leaving.exists_stretch
  obtain ⟨late, onward⟩ := to_end.exists_stretch
  have run : swift.Stretch [] swift := .refl
  have whole := (((run.next enters inserted).trans between).next leaves removed).trans onward
  have smooth : Calm swiftAfter.history := Calm.of_all rfl
  rw [whole.history] at smooth
  have calm : Calm (late ++ .removed 0 0 [⟨0, 0⟩] (.int 1) ::
      (mid ++ .inserted 0 0 ⟨0, 0⟩ (.int 1) :: [])) :=
    ⟨fun list notice waiting inside =>
        smooth.dispatches list notice waiting (List.mem_append_left _ inside),
      fun realm key waiting inside =>
        smooth.teardowns realm key waiting (List.mem_append_left _ inside)⟩
  have change : ¬ UnderChange 0 ⟨0, 0⟩ swiftLeaving.machine.stack := by
    rintro ⟨above, waiting, item, position, below, stack⟩
    have none : swiftLeaving.machine.stack.all (fun frame => !frame.spreads 0) = true := rfl
    rw [stack, List.all_append, List.all_cons] at none
    simp [Frame.spreads] at none
  -- The other add subscriber is the last one, so the consumer does not wait any more.
  have announcement : ¬ UnderEarlier 0 ⟨0, 0⟩ 0 swiftLeaving.machine.stack := by
    rintro ⟨above, waiting, item, position, realm, below, waits, stack⟩
    have none : owed ⟨0, .added, 0, 0⟩ swiftLeaving.machine.stack = 0 := rfl
    rw [stack, owed_append, owed_cons] at none
    have some : 0 < waiting.count 0 := List.count_pos_iff.mpr waits
    simp only [Frame.owes] at none
    omega
  have adds : ⟨0, .added, 0, 0⟩ ∈ registered 0 .added swift.history := by decide
  have removes : ⟨0, .removed, 1, 1⟩ ∈ registered 0 .removed swift.history := by decide
  obtain ⟨told, _, _, base, _, calls⟩ := additions_are_told_before_removals reached rfl run enters
    inserted between leaves removed (List.mem_singleton_self _) onward rfl calm adds removes
    ⟨by decide, by decide⟩ change announcement
  exact ⟨reached, rfl, told, base, calls⟩

/-- A deed changes a list or calls one of two subscriptions. -/
def Deed.concerns (adder remover : SubscriptionRef) : Deed → Bool
  | .inserted .. | .removed .. | .replaced .. | .rekeyed .. => true
  | .told _ _ subscription => subscription == adder || subscription == remover
  | _ => false

/-- An empty list with a consumer that has subscribed last. A change subscriber removes the first
number that is added, and an add subscriber the second one. -/
def hasty : Moment :=
  ((((((((Moment.start false).begin (emptyMade "L" none)).begin
    (subscribing "L" "c" (some .change) [⟨"limit", none, none,
      .limit (.literal (.text "once")) 1 [lastPopped]⟩])).run 1).begin
    (subscribing "L" "e" (some .added) [lastPopped])).run 1).begin
    (subscribing "L" "a" (some .added) [])).run 1).begin
    (subscribing "L" "r" (some .removed) []) |>.run 1

/-- After two additions inside which the numbers were removed. -/
def hastyAfter : Moment :=
  (((hasty.begin (numberPushed 1)).run 60).begin (numberPushed 2)).run 60

/-- Though nobody fails, a consumer is told of the removal of two numbers before it is told of their
addition: the first one is removed by a change subscriber that is told of the insertion, the
second one by an add subscriber that comes before the consumer. -/
theorem removals_are_told_before_additions :
    hasty.IsReached ∧ hasty.machine.isFinished = true ∧ hastyAfter.machine.isFinished = true ∧
      (⟨0, .added, 2, 2⟩ ∈ registered 0 .added hasty.history ∧
        ⟨0, .removed, 3, 3⟩ ∈ registered 0 .removed hasty.history ∧
        ⟨0, .added, 2, 2⟩ ∈ registered 0 .added hastyAfter.history ∧
        ⟨0, .removed, 3, 3⟩ ∈ registered 0 .removed hastyAfter.history) ∧
      ∃ recent, hasty.Stretch recent hastyAfter ∧ Calm recent ∧
        recent.reverse.filter (Deed.concerns 2 3) =
          [.inserted 0 0 ⟨0, 0⟩ (.int 1), .removed 0 0 [⟨0, 0⟩] (.int 1),
            .told 0 (.removed 0) 3, .told 0 (.added (.int 1) 0) 2,
            .inserted 0 0 ⟨0, 1⟩ (.int 2), .removed 0 0 [⟨0, 1⟩] (.int 2),
            .told 0 (.removed 0) 3, .told 0 (.added (.int 2) 0) 2] := by
  have changes := ((Moment.IsReached.start false).begin rfl (emptyMade "L" none)).begin rfl
    (subscribing "L" "c" (some .change) [⟨"limit", none, none,
      .limit (.literal (.text "once")) 1 [lastPopped]⟩])
  have early := (changes.run 1).begin rfl (subscribing "L" "e" (some .added) [lastPopped])
  have additions := (early.run 1).begin rfl (subscribing "L" "a" (some .added) [])
  have reached : hasty.IsReached :=
    ((additions.run 1).begin rfl (subscribing "L" "r" (some .removed) [])).run 1
  have one : hasty.Leads ((hasty.begin (numberPushed 1)).run 60) :=
    .head (.begin rfl _) (Moment.leads_run _ 60)
  have two : ((hasty.begin (numberPushed 1)).run 60).Leads hastyAfter :=
    .head (.begin rfl _) (Moment.leads_run _ 60)
  have leads : hasty.Leads hastyAfter := one.trans two
  obtain ⟨recent, stretch⟩ := leads.exists_stretch
  have history := stretch.history
  have before : hasty.history.length = 9 := rfl
  have after : hastyAfter.history.length = 101 := rfl
  have length : recent.length = 92 := by
    rw [history, List.length_append] at after
    omega
  have known : recent = hastyAfter.history.take 92 := by
    rw [history, ← length, List.take_left]
  refine ⟨reached, rfl, rfl, by decide +kernel, recent, stretch, ?_, ?_⟩
  · rw [known]
    exact Calm.of_all rfl
  · rw [known]
    rfl

end Observables
