import Observables.Proofs.Ledger

/-!
# Subscribers learn the last value

A change subscriber is told the value that its container has at that moment.
Every change owes it a call, and the call comes after the change. So where no
subscriber and no teardown fails, the last call that it gets before an action
is over comes after the last change and brings the value that stays, in
whatever order changes and calls are nested.
-/

namespace Observables

open Script

/-- Those that wait in a dispatch have subscribed to its channel. -/
def Attended (stack : List Frame) (history : List Deed) : Prop :=
  ∀ container notice waiting, Frame.dispatch container notice waiting ∈ stack →
    ∀ subscription ∈ waiting, ∃ made ∈ enrolled history, made.container = container ∧
      made.channel = notice.channel ∧ made.subscription = subscription

section

variable {world other : World} {rest taken put : List Frame} {deed : Deed}

/-- A dispatch that is put on the stack has just begun or has given somebody a turn. -/
theorem Turn.dispatch_put (turn : Turn world rest taken deed other put)
    {container : ContainerRef} {notice : Notice} {waiting : List SubscriptionRef}
    (inside : Frame.dispatch container notice waiting ∈ put) :
    waiting = ((world.container container).registry notice.channel).snapshot ∨
      ∃ subscription, Frame.dispatch container notice (subscription :: waiting) ∈ taken := by
  cases turn.arises _ inside with
  | plain plain => cases plain
  | notified => exact .inl rfl
  | passed there | told there => exact .inr ⟨_, there⟩

end

/-- Those that wait in a dispatch have subscribed to its channel, whenever a script runs. -/
theorem Attended.preserved :
    Preserved (fun world _ history => world.Enrolled history)
      fun _ stack history => Attended stack history where
  first tracing container notice waiting inside := by cases inside
  alike _ attended := attended
  turn {world rest taken deed other put history} enrolment attended _ turn := by
    have known {container : ContainerRef} {channel : Channel} {subscription : SubscriptionRef}
        (before : ∃ made ∈ enrolled history, made.container = container ∧
          made.channel = channel ∧ made.subscription = subscription) :
        ∃ made ∈ enrolled (deed :: history), made.container = container ∧
          made.channel = channel ∧ made.subscription = subscription := by
      obtain ⟨made, there, same⟩ := before
      exact ⟨made, (enrolled_suffix (List.suffix_cons _ _)).subset there, same⟩
    intro container notice waiting inside subscription waits
    refine known ?_
    rcases List.mem_append.mp inside with inside | inside
    · rcases turn.dispatch_put inside with rfl | ⟨served, there⟩
      · rw [enrolment.snapshot, List.mem_map] at waits
        obtain ⟨made, listed, same⟩ := waits
        obtain ⟨there, container, channel, _⟩ := mem_registered.mp listed
        exact ⟨made, there, container, channel, same⟩
      · exact attended _ _ _ (List.mem_append_left _ there) _ (List.mem_cons_of_mem _ waits)
    · exact attended _ _ _ (List.mem_append_right _ inside) _ waits

/-- Those that wait in a dispatch have subscribed to its channel, at every moment. -/
theorem Moment.IsReached.attended {moment : Moment} (reached : moment.IsReached) :
    Attended moment.machine.stack moment.history :=
  Attended.preserved.reached (fun reached => reached.enrolled)
    (fun same enrolment => enrolment.alike same) reached

/-- The keys of a list are not part of its value. -/
@[simp] theorem Contents.value_replaceKeys (contents : Contents) (count : Nat) :
    (contents.replaceKeys count).value = contents.value := by
  cases contents <;> rfl

/-- What change subscriptions are not told about leaves the contents of a container, unless the
keys are replaced. -/
theorem Deed.contents_onContainer {deed : Deed} {container : ContainerRef}
    (still : deed.affects container .change = false)
    (kept : ∀ released allotted, deed ≠ .rekeyed container released allotted)
    (held : Container) : (deed.onContainer container held).contents = held.contents := by
  cases deed with
  | inserted target | removed target | stored target | replaced target =>
    have elsewhere : container ≠ target := by
      rintro rfl
      simp [Deed.affects] at still
    simp only [Deed.onContainer, if_neg elsewhere]
  | rekeyed target =>
    have elsewhere : container ≠ target := by
      rintro rfl
      exact kept _ _ rfl
    simp only [Deed.onContainer, if_neg elsewhere]
  | borrowed | setBegun | released =>
    simp only [Deed.onContainer]
    split
    · rfl
    · rfl
  | _ => rfl

/-- Only what its change subscriptions are told about gives a container another value. -/
theorem Deed.value_onContainer {deed : Deed} {container : ContainerRef}
    (still : deed.affects container .change = false) (held : Container) :
    (deed.onContainer container held).value = held.value := by
  by_cases rekeyed : ∃ released allotted, deed = .rekeyed container released allotted
  · obtain ⟨released, allotted, rfl⟩ := rekeyed
    simp [Deed.onContainer, Container.value]
  · have kept : ∀ released allotted, deed ≠ .rekeyed container released allotted :=
      fun released allotted same => rekeyed ⟨released, allotted, same⟩
    exact congrArg Contents.value (contents_onContainer still kept held)

namespace Moment

/-- A step that a container does not tell its change subscriptions about leaves its value. -/
theorem Next.value {before after : Moment} (last : before.Next after) {deed : Deed}
    (latest : after.history = deed :: before.history) {container : ContainerRef}
    (inside : container < before.world.containers.size)
    (still : deed.affects container .change = false) :
    (after.world.container container).value = (before.world.container container).value := by
  obtain ⟨world, rest, taken, put, same, _, _, turn⟩ := last.turn latest
  have within : container < world.containers.size := by
    rw [same.containers]
    exact inside
  have bare := congrArg (fun held => held.contents.value) (turn.container within)
  have value : (after.world.container container).value =
      (deed.onContainer container (world.container container)).value := bare
  rw [value, Deed.value_onContainer still, same.container]

/-- Only a step of a machine calls a subscriber. -/
theorem Next.eq_step {before after : Moment} (last : before.Next after)
    {container : ContainerRef} {notice : Notice} {subscription : SubscriptionRef}
    (latest : after.history = .told container notice subscription :: before.history) :
    after = before.step ∧ before.machine.deed = .told container notice subscription := by
  cases last with
  | step busy => exact ⟨rfl, List.head_eq_of_cons_eq latest⟩
  | begin finished action =>
    obtain ⟨put, _, turn⟩ := Machine.perform_turns before.idle rfl action
    have deed : before.idle.actionDeed action = .told container notice subscription :=
      List.head_eq_of_cons_eq latest
    rw [deed] at turn
    cases turn

/-- A subscriber is called on behalf of its own channel. -/
theorem Next.told_channel {before after : Moment} (last : before.Next after)
    (reached : before.IsReached) {container : ContainerRef} {notice : Notice}
    {subscription : SubscriptionRef}
    (latest : after.history = .told container notice subscription :: before.history) :
    ∃ made ∈ enrolled before.history, made.container = container ∧
      made.channel = notice.channel ∧ made.subscription = subscription := by
  obtain ⟨_, deed⟩ := last.eq_step latest
  obtain ⟨waiting, rest, reply, callback, stack, _⟩ := Machine.told_inversion deed
  refine reached.attended container notice (subscription :: waiting) ?_ subscription
    List.mem_cons_self
  rw [stack]
  exact List.mem_cons_self

/-- A change subscriber is called with the value that its container has. -/
theorem Next.told_value {before after : Moment} (last : before.Next after)
    {container : ContainerRef} {subscription : SubscriptionRef}
    (latest : after.history = .told container .changed subscription :: before.history) :
    ∃ callback, before.world.callback? subscription = some callback ∧
      after.machine.stack.head? = some (.body callback.body) ∧
      after.machine.locals.find? "v" = some (before.world.container container).value ∧
      after.world.journal.latest =
        .change callback.tag (before.world.container container).value before.world.activeKey? ::
          before.world.journal.latest ∧
      after.world.containers = before.world.containers := by
  obtain ⟨rfl, deed⟩ := last.eq_step latest
  obtain ⟨waiting, rest, reply, callback, stack, focus, on⟩ := Machine.told_inversion deed
  have next : before.step.machine =
      (({ before.machine with stack := rest }.push [.dispatch container .changed waiting]).tell
        container .changed callback) := by
    show before.machine.step = _
    rw [Machine.step_of_resume stack focus]
    simp only [Machine.resume, Machine.dispatch, Machine.world_push]
    rw [on]
  have found (locals : Variables) (value key : Value) :
      (locals.insertAll [("v", value), ("key", key)]).find? "v" = some value := by
    simp [Directory.insertAll, Directory.find?_insert]
  refine ⟨callback, on, ?_, ?_, ?_, ?_⟩
  · rw [next]
    rfl
  · rw [next]
    exact found _ _ _
  · show before.step.machine.world.journal.latest = _
    rw [next]
    rfl
  · show before.step.machine.world.containers = _
    rw [next]
    rfl

variable {first later : Moment} {recent : List Deed} {made : Enrolment}

/-- The last call of a change subscription between two moments brought it the value that its
container has at the later one. -/
def Informs (first : Moment) (made : Enrolment) (later : Moment) : Prop :=
  ∃ entry entered earlier latest, first.Stretch earlier entry ∧ entry.Next entered ∧
    entered.history = .told made.container .changed made.subscription :: entry.history ∧
    entered.Stretch latest later ∧ made.subscription ∉ latest.flatMap Deed.tells ∧
    (entry.world.container made.container).value = (later.world.container made.container).value

/-- On a calm stretch on which its container has changed, a change subscription is owed a call
or has been told the value by its last one. -/
theorem Stretch.informs (stretch : first.Stretch recent later) (reached : first.IsReached)
    (unbroken : Unbroken recent) (calm : Calm recent) (known : made ∈ enrolled first.history)
    (active : made.isEnded later.history = false) (channel : made.channel = .change)
    (changed : recent.any (Deed.affects made.container .change) = true) :
    0 < owed made later.machine.stack ∨ first.Informs made later := by
  induction stretch with
  | refl => cases changed
  | @next recent before after deed earlier last latest ih =>
    have midway : before.IsReached := reached.leads earlier.leads
    obtain ⟨there, present⟩ := earlier.stays latest known active
    have moved := last.account latest midway unbroken calm there present
    rw [channel] at moved
    -- A change makes a call due and a call brings the value of the moment. Any other step
    -- keeps both the value and what is owed.
    by_cases affects : deed.affects made.container .change = true
    · have silent : deed.tells = [] := by
        cases deed with
        | told => cases affects
        | _ => rfl
      rw [silent, List.count_nil, if_pos affects] at moved
      left
      omega
    · rw [if_neg affects] at moved
      have still : deed.affects made.container .change = false := by simpa using affects
      have inside := (midway.enrolled.drawn made there).1
      have value := last.value latest inside still
      by_cases told : made.subscription ∈ deed.tells
      · right
        cases deed with
        | told container notice subscription =>
          have same : made.subscription = subscription := List.mem_singleton.mp told
          obtain ⟨other, known, rfl, telling, row⟩ := last.told_channel midway latest
          have equal : other = made :=
            midway.enrolled.eq_of_subscription known there (row.trans same.symm)
          subst equal
          have news : notice = .changed := by
            rw [channel] at telling
            cases notice with
            | changed => rfl
            | added => cases telling
            | removed => cases telling
          subst news
          rw [← same] at latest
          exact ⟨before, after, recent, [], earlier, last, latest, .refl, by simp, value.symm⟩
        | _ => cases told
      · rw [List.count_eq_zero_of_not_mem told] at moved
        rw [List.any_cons, still, Bool.false_or] at changed
        rcases ih unbroken.of_cons calm.of_cons present changed with due | informed
        · left
          omega
        · right
          obtain ⟨entry, entered, early, late, before, call, heard, onward, silent, kept⟩ :=
            informed
          refine ⟨entry, entered, early, deed :: late, before, call, heard,
            onward.next last latest, ?_, kept.trans value.symm⟩
          rw [List.flatMap_cons, List.mem_append]
          exact fun inside => inside.elim told silent

end Moment

/-- A change subscriber is always called with the value that its container has at that
moment, and the call leaves the value alone.

Between two actions of a script, when no subscriber and no teardown fails in between and a
container changes, the last call of every change subscription that is registered before and
after brings it the value that the container has afterwards. -/
theorem change_subscribers_converge :
    (∀ moment next : Moment, moment.Next next → ∀ container subscription,
      next.history = .told container .changed subscription :: moment.history →
      let value := (moment.world.container container).value
      ∃ callback, moment.world.callback? subscription = some callback ∧
        next.machine.stack.head? = some (.body callback.body) ∧
        next.machine.locals.find? "v" = some value ∧
        next.world.journal.latest =
          .change callback.tag value moment.world.activeKey? :: moment.world.journal.latest ∧
        next.world.containers = moment.world.containers) ∧
    ∀ (before after : Moment) (recent : List Deed), before.IsReached →
      before.machine.isFinished = true → before.Stretch recent after →
      after.machine.isFinished = true → Calm recent →
      ∀ container, recent.any (Deed.affects container .change) = true →
        ∀ made, made ∈ registered container .change before.history →
          made ∈ registered container .change after.history → before.Informs made after := by
  refine ⟨fun moment next last container subscription latest => last.told_value latest, ?_⟩
  intro before after recent reached idle stretch ended calm container changed made first last
  obtain ⟨known, rfl, channel, _⟩ := mem_registered.mp first
  obtain ⟨_, _, _, active⟩ := mem_registered.mp last
  have unbroken := (stretch.unbroken reached (.of_isFinished idle) calm).2
  have empty : after.machine.stack = [] := Machine.stack_eq_nil ended
  rcases stretch.informs reached unbroken calm known active channel changed with due | informed
  · rw [empty] at due
    cases due
  · exact informed

/-- When an insertion has been told and an element has been removed meanwhile, the change
subscriber has learned what is left. -/
theorem change_subscribers_converge_removal :
    watched.Informs ⟨0, .change, 0, 0⟩ watchedAfter ∧
      (watchedAfter.world.container 0).value = .list [.int 3, .int 2] := by
  obtain ⟨reached, stretch, calm⟩ := watched_stretch
  have informed := change_subscribers_converge.2 watched watchedAfter _ reached rfl stretch rfl
    calm 0 rfl ⟨0, .change, 0, 0⟩ (by decide) (by decide)
  exact ⟨informed, rfl⟩

end Observables
