import Observables.Proofs.Course
import Observables.Proofs.Placement
import Observables.Proofs.Rejection

/-!
# Copies that follow a list

A consumer keeps a copy of a list: it puts an element in wherever its add
subscription is told of one, and takes the element out at every position that
its remove subscription is told. Every change of the list is a notice that is
still to reach the consumer, and what is still to reach it lies on the stack.
If the consumer has subscribed before the others, then only the change
subscriptions of the list and the teardowns of its keys are called before a
notice has reached it. So where these neither change the list nor fail, at most
one notice is on its way, and the copy is the list wherever somebody else could
look at it. Whether the other subscribers fail, and how deep they change the
list themselves, does not matter.
-/

namespace Observables

open Script

/-- An element that is put into a list stands at its position. -/
theorem Contents.items_insert {contents : Contents} (isList : contents.isList = true)
    (position : Nat) (item : Value) :
    (contents.insert position item).items = contents.items.insertIdx position item := by
  cases contents with
  | cell value => cases isList
  | list items keys => rfl

/-- Only the element at the position is taken out of a list. -/
@[simp] theorem Contents.items_remove (contents : Contents) (position : Nat) :
    (contents.remove position).items = contents.items.eraseIdx position := by
  cases contents <;> rfl

namespace Notice

/-- What a notice does to a copy of the elements. -/
def patch (copy : List Value) : Notice → List Value
  | .changed => copy
  | .added item position => copy.insertIdx position item
  | .removed position => copy.eraseIdx position

/-- The position of a notice is in range of a copy of the elements. -/
def Fits (copy : List Value) : Notice → Prop
  | .changed => True
  | .added _ position => position ≤ copy.length
  | .removed position => position < copy.length

end Notice

/-- Every notice fits the copy that the earlier ones leave. -/
def FitAll (copy : List Value) : List Notice → Prop
  | [] => True
  | notice :: notices => notice.Fits copy ∧ FitAll (notice.patch copy) notices

/-- Who keeps a copy of a list. -/
structure Consumer where
  /-- The list. -/
  container : ContainerRef
  /-- The subscription that is told of elements that were added. -/
  adder : Enrolment
  /-- The subscription that is told of elements that were removed. -/
  remover : Enrolment

namespace Consumer

variable (consumer : Consumer)

/-- The subscription of the consumer that is told a notice. -/
def listener? : Notice → Option Enrolment
  | .changed => none
  | .added _ _ => some consumer.adder
  | .removed _ => some consumer.remover

/-- A notice goes to the consumer when its turn comes among those that wait. -/
def isAwaited (notice : Notice) (waiting : List SubscriptionRef) : Bool :=
  (consumer.listener? notice).any fun listener => waiting.contains listener.subscription

/-- What the consumer is told by a deed. -/
def hears : Deed → List Notice
  | .told container notice subscription =>
    if container = consumer.container ∧ consumer.isAwaited notice [subscription] = true then
      [notice]
    else []
  | _ => []

/-- The copy of the consumer after what has been done, the latest first. -/
def copy (items : List Value) : List Deed → List Value
  | [] => items
  | deed :: earlier => (consumer.hears deed).foldl Notice.patch (copy items earlier)

/-- Of those that are registered with the list, the consumer was first on both channels. -/
def IsFirst (history : List Deed) : Prop :=
  (registered consumer.container .added history).head? = some consumer.adder ∧
    (registered consumer.container .removed history).head? = some consumer.remover

/-- The consumer has not unsubscribed. -/
def Stays (history : List Deed) : Prop :=
  consumer.adder.isEnded history = false ∧ consumer.remover.isEnded history = false

end Consumer

/-- Frames under which the callbacks of a list must leave it alone: its change dispatches and the
teardowns of its keys. -/
def Frame.veils (world : World) (container : ContainerRef) : Frame → Bool
  | .dispatch other .changed _ => other = container
  | .teardown realm key _ => realm = world.realmOf container ∧
      key.container = (world.container container).keys.container
  | _ => false

/-- What a script does leaves a list alone behind the back of its add and remove subscriptions:
it does not replace the elements, changes them neither in a change subscriber nor in a
teardown, and no change subscriber and no teardown of the list fails. -/
def Moment.spares (container : ContainerRef) (moment : Moment) : Deed → Bool
  | .replaced other _ _ _ => other ≠ container
  | .inserted other _ _ _ | .removed other _ _ _ => other ≠ container ∨
      ∀ frame ∈ moment.machine.stack, frame.veils moment.world container = false
  | .abandoned frame => !frame.veils moment.world container
  | _ => true

namespace Consumer

variable (consumer : Consumer)

/-- What a frame still has to tell the consumer. -/
def tidings : Frame → List Notice
  | .announce container _ item position =>
    if container = consumer.container then [.added item position] else []
  | .notify container notice =>
    if container = consumer.container ∧ (consumer.listener? notice).isSome then [notice] else []
  | .dispatch container notice waiting =>
    if container = consumer.container ∧ consumer.isAwaited notice waiting then [notice] else []
  | _ => []

/-- What the frames still have to tell the consumer. -/
def due (stack : List Frame) : List Notice := stack.flatMap consumer.tidings

/-- What a deed makes due to the consumer. -/
def news : Deed → List Notice
  | .inserted container position _ item =>
    if container = consumer.container then [.added item position] else []
  | .removed container position _ _ =>
    if container = consumer.container then [.removed position] else []
  | _ => []

/-- The frame tells the add or the remove subscriptions of the list, or is about to. -/
def isNews : Frame → Bool
  | .announce container _ _ _ => container = consumer.container
  | .notify container notice | .dispatch container notice _ =>
    container = consumer.container ∧ (consumer.listener? notice).isSome
  | _ => false

/-- A notice is on its way to the consumer, and nobody but change subscriptions of the list and
teardowns of its keys is called before. -/
inductive Near : List Frame → Prop where
  /-- The notice is what comes next. -/
  | due {frame beneath} (tells : consumer.tidings frame ≠ []) : Near (frame :: beneath)
  /-- The change subscriptions come before. -/
  | notify {beneath} (near : Near beneath) : Near (.notify consumer.container .changed :: beneath)
  /-- Some change subscriptions are still to be called. -/
  | dispatch {waiting beneath} (near : Near beneath) :
      Near (.dispatch consumer.container .changed waiting :: beneath)
  /-- Teardowns come before. -/
  | discharge {realm keys container beneath} (near : Near (.notify container .changed :: beneath)) :
      Near (.discharge realm keys :: .notify container .changed :: beneath)
  /-- The teardowns of a key have been called. -/
  | yield {value realm keys beneath} (near : Near (.discharge realm keys :: beneath)) :
      Near (.yield value :: .discharge realm keys :: beneath)
  /-- Some teardowns of a key are still to be called. -/
  | teardown {realm key waiting value beneath} (near : Near (.yield value :: beneath)) :
      Near (.teardown realm key waiting :: .yield value :: beneath)

/-- A dispatch from which something is called has nothing more to tell the consumer. -/
def Idle : List Frame → Prop
  | [] => True
  | frame :: _ => frame.isCaller = true → consumer.tidings frame = []

/-- Callbacks are called before the consumer is told. -/
def Veiled : List Frame → Prop
  | [] => False
  | frame :: _ => frame.isCaller = true ∧ consumer.tidings frame = []

/-- A dispatch comes to the consumer first, and while the add or the remove subscriptions of the
list are told something nothing else is on its way to the consumer. -/
def Abreast : List Frame → Prop
  | [] => True
  | frame :: beneath =>
    (consumer.isNews frame = true → consumer.due beneath = []) ∧
    (∀ notice waiting, frame = .dispatch consumer.container notice waiting →
      consumer.isAwaited notice waiting.tail = false) ∧
    consumer.Idle beneath ∧ Abreast beneath

variable {consumer} {world other : World} {rest taken put stack beneath : List Frame}
  {frame : Frame} {deed : Deed} {history : List Deed}

@[simp] theorem due_nil : consumer.due [] = [] := rfl

@[simp] theorem due_cons (frame : Frame) (frames : List Frame) :
    consumer.due (frame :: frames) = consumer.tidings frame ++ consumer.due frames := rfl

@[simp] theorem due_append (first second : List Frame) :
    consumer.due (first ++ second) = consumer.due first ++ consumer.due second :=
  List.flatMap_append

/-- Frames of bodies have nothing to tell. -/
theorem tidings_of_inner (own : frame.isOwn = false) (caller : frame.isCaller = false) :
    consumer.tidings frame = [] := by
  cases frame with
  | announce | notify => cases own
  | dispatch => cases caller
  | _ => rfl

/-- Frames of bodies have nothing to tell. -/
theorem due_of_inner {frames : List Frame} (inner : Inner frames) : consumer.due frames = [] := by
  rw [due, List.flatMap_eq_nil_iff]
  exact fun frame inside => tidings_of_inner (inner frame inside).1 (inner frame inside).2

/-- Nothing waits for the consumer among those that wait unless it is among them. -/
theorem isAwaited_eq_false {notice : Notice} {waiting : List SubscriptionRef} :
    consumer.isAwaited notice waiting = false ↔
      ∀ listener, consumer.listener? notice = some listener →
        listener.subscription ∉ waiting := by
  unfold isAwaited
  cases consumer.listener? notice with
  | none => simp
  | some listener => simp

/-- Who does not wait among many does not wait among fewer. -/
theorem isAwaited_mono {notice : Notice} {waiting others : List SubscriptionRef}
    (subset : others ⊆ waiting) (absent : consumer.isAwaited notice waiting = false) :
    consumer.isAwaited notice others = false := by
  rw [isAwaited_eq_false] at absent ⊢
  exact fun listener listens inside => absent listener listens (subset inside)

/-- What is near begins with the rest of an operation or with calls of callbacks. -/
theorem Near.head (near : consumer.Near (frame :: beneath)) :
    frame.isOwn = true ∨ frame.isCaller = true := by
  cases near with
  | due tells =>
    by_contra neither
    rw [not_or, Bool.not_eq_true, Bool.not_eq_true] at neither
    exact tells (tidings_of_inner neither.1 neither.2)
  | notify | discharge | yield => exact .inl rfl
  | dispatch | teardown => exact .inr rfl

/-- What is near does not begin with frames of bodies. -/
theorem Near.not_inner {frames : List Frame} (near : consumer.Near (frames ++ beneath))
    (inner : Inner frames) : frames = [] := by
  cases frames with
  | nil => rfl
  | cons frame frames =>
    obtain ⟨own, caller⟩ := inner frame List.mem_cons_self
    rcases near.head with one | one
    · rw [own] at one
      cases one
    · rw [caller] at one
      cases one

/-- What lies on something near is near as well, unless it is called from there. -/
theorem Near.above (near : consumer.Near beneath) (stands : frame.Stands beneath)
    (idle : consumer.Idle beneath) :
    consumer.Veiled beneath ∨ consumer.Near (frame :: beneath) := by
  have spread {list : ContainerRef} (same : list = consumer.container)
      (spreads : frame.spreads list = true) : consumer.Near (frame :: beneath) := by
    subst same
    rcases Frame.spreads_cases spreads with rfl | ⟨waiting, rfl⟩
    · exact near.notify
    · exact near.dispatch
  cases near with
  | @due head further tells =>
    cases head with
    | dispatch => exact .inl ⟨rfl, idle rfl⟩
    | announce list key item position =>
      refine .inr (spread ?_ stands)
      by_contra elsewhere
      exact tells (if_neg elsewhere)
    | notify list notice =>
      have here : list = consumer.container ∧ (consumer.listener? notice).isSome := by
        by_contra elsewhere
        exact tells (if_neg elsewhere)
      cases notice with
      | changed => cases here.2
      | added => cases stands
      | removed => exact .inr (spread here.1 stands)
    | _ => cases tells rfl
  | notify near =>
    right
    cases frame with
    | discharge => exact .discharge (.notify near)
    | _ => cases stands.isDischarge
  | dispatch | teardown => exact .inl ⟨rfl, idle rfl⟩
  | discharge near =>
    right
    cases frame with
    | yield => exact .yield (.discharge near)
    | _ => cases stands
  | yield near =>
    right
    cases frame with
    | teardown => exact .teardown (.yield near)
    | _ => cases stands

/-- While something is near, callbacks are called on behalf of the list: its change subscriptions
or the teardowns of its keys. -/
theorem Near.veils (near : consumer.Near (frame :: beneath)) (caller : frame.isCaller = true)
    (idle : consumer.tidings frame = []) (pertinent : world.Pertinent (frame :: beneath)) :
    frame.veils world consumer.container = true := by
  cases near with
  | due tells => exact absurd idle tells
  | notify | discharge | yield => cases caller
  | dispatch => simp [Frame.veils]
  | @teardown realm key waiting value _ near =>
    -- Under the run of teardowns lies a discharge, and under it the notice of the same list.
    cases near with
    | due tells => cases tells rfl
    | yield near =>
      cases near with
      | due tells => cases tells rfl
      | @discharge _ _ list _ near =>
        have owns : world.Owns realm key list := pertinent.1
        have same : list = consumer.container := by
          cases near with
          | due tells => exact absurd (if_neg (by simp [listener?])) tells
          | notify => rfl
        subst same
        simp [Frame.veils, owns.realm, owns.allotted.1]

/-- Where something is on its way to the consumer, it is near or callbacks are called on behalf
of the list. -/
theorem exists_veil (abreast : consumer.Abreast stack) (placed : Placed stack)
    (pertinent : world.Pertinent stack) (some : consumer.due stack ≠ []) :
    consumer.Near stack ∨ ∃ frame ∈ stack, frame.veils world consumer.container = true := by
  induction stack with
  | nil => cases some rfl
  | cons frame beneath ih =>
    obtain ⟨_, _, idle, others⟩ := abreast
    by_cases tells : consumer.tidings frame = []
    · rw [due_cons, tells, List.nil_append] at some
      rcases ih others placed.2 pertinent.2 some with near | ⟨veil, inside, veils⟩
      · rcases near.above placed.1 idle with veiled | near
        · cases beneath with
          | nil => cases veiled
          | cons caller further =>
            exact .inr ⟨caller, List.mem_cons_of_mem _ List.mem_cons_self,
              near.veils veiled.1 veiled.2 pertinent.2⟩
        · exact .inl near
      · exact .inr ⟨veil, List.mem_cons_of_mem _ inside, veils⟩
    · exact .inl (.due tells)

/-- Nobody waits where nobody is left. -/
@[simp] theorem isAwaited_nil (notice : Notice) : consumer.isAwaited notice [] = false := by
  rw [isAwaited_eq_false]
  simp

/-- Who waits is first or waits among the rest. -/
theorem isAwaited_cons (consumer : Consumer) (notice : Notice) (subscription : SubscriptionRef)
    (waiting : List SubscriptionRef) :
    consumer.isAwaited notice (subscription :: waiting) =
      (consumer.isAwaited notice [subscription] || consumer.isAwaited notice waiting) := by
  unfold isAwaited
  cases consumer.listener? notice with
  | none => rfl
  | some listener => simp

/-- Frames that can be dropped have nothing to tell. -/
theorem due_of_spent {frames : List Frame} (spent : Spent frames) : consumer.due frames = [] := by
  refine spent.flatMap_eq_nil fun frame dropped => ?_
  cases frame with
  | announce | notify => cases dropped
  | dispatch container notice waiting =>
    cases waiting with
    | nil => simp [tidings]
    | cons => cases dropped
  | _ => rfl

/-- A channel of the list tells the consumer first. -/
def IsServed (consumer : Consumer) (world : World) : Prop :=
  ∀ notice listener, consumer.listener? notice = some listener →
    world.callback? listener.subscription ≠ none ∧
      ∃ others, ((world.container consumer.container).registry notice.channel).snapshot =
        listener.subscription :: others ∧ listener.subscription ∉ others

/-- What is on its way to the consumer grows by what a deed makes due and shrinks by what the
consumer is told. -/
theorem due_turn (served : consumer.IsServed world) (abreast : consumer.Abreast (taken ++ rest))
    (kept : ∀ frame, deed = .abandoned frame → consumer.tidings frame = [])
    (turn : Turn world rest taken deed other put) :
    consumer.hears deed ++ consumer.due put = consumer.due taken ++ consumer.news deed := by
  have callee (body : List Action) (surface : Surface) (locals : Variables) :
      consumer.due (called body surface locals) = [] :=
    due_of_inner (plain_called body surface locals).inner
  have setter (body : List Action) (result : Expression) (surface : Surface)
      (locals : Variables) : consumer.due (invoked body result surface locals) = [] :=
    due_of_inner (plain_invoked body result surface locals).inner
  cases turn with
  | dropped spent => simp [hears, news, due_of_spent spent]
  | quiet spent plain | bound spent plain | refused spent plain | listMade spent plain
  | cellMade spent plain | realmOpened spent plain | drawn spent plain
  | subscribed spent plain | unsubscribed spent plain | opened spent plain | ranAsked spent plain
  | setShielded spent plain | setBegun spent plain =>
    simp [hears, news, tidings, due_of_inner spent.inner, due_of_inner plain.inner, setter]
  | borrowed spent plain _ inner =>
    simp [hears, news, tidings, due_of_inner spent.inner, due_of_inner plain.inner,
      due_of_inner inner.inner, setter]
  | settled | settledEmpty | dischargedEmpty | closed | released | ranSettled | ranDischarged
  | rekeyed | tornDown | stored | replaced =>
    simp [hears, news, tidings, callee, listener?]
  | announced => simp [hears, news, tidings, listener?]
  | @inserted _ _ target _ _ _ spent plain =>
    simp [hears, news, tidings, listener?, due_of_inner spent.inner, due_of_inner plain.inner]
  | @removed _ _ target _ _ _ _ spent plain =>
    simp [hears, news, tidings, listener?, due_of_inner spent.inner, due_of_inner plain.inner]
  | @abandoned frame => simp [hears, news, kept frame rfl]
  | @notified target notice =>
    have same : target = consumer.container →
        consumer.isAwaited notice ((world.container target).registry notice.channel).snapshot =
          (consumer.listener? notice).isSome := by
      rintro rfl
      cases listens : consumer.listener? notice with
      | none => simp [isAwaited, listens]
      | some listener =>
        obtain ⟨_, others, snapshot, _⟩ := served notice listener listens
        simp [isAwaited, listens, snapshot]
    by_cases here : target = consumer.container
    · simp [hears, news, tidings, same here]
    · simp [hears, news, tidings, here]
  | @passed target notice subscription waiting _ off =>
    have other : consumer.isAwaited notice [subscription] = false := by
      rw [isAwaited_eq_false]
      intro listener listens inside
      obtain ⟨on, _⟩ := served notice listener listens
      rw [List.mem_singleton.mp inside] at on
      exact on off
    have still := consumer.isAwaited_cons notice subscription waiting
    rw [other, Bool.false_or] at still
    simp [hears, news, tidings, still]
  | @told target notice subscription waiting =>
    by_cases here : target = consumer.container
    · subst here
      have prompt : consumer.isAwaited notice waiting = false := abreast.2.1 _ _ rfl
      have turned := consumer.isAwaited_cons notice subscription waiting
      rw [prompt, Bool.or_false] at turned
      simp [hears, news, tidings, callee, turned, prompt]
    · simp [hears, news, tidings, callee, here]

/-- Frames that tell nothing can be put over an idle dispatch. -/
theorem Abreast.cons (abreast : consumer.Abreast stack) (idle : consumer.Idle stack)
    (silent : consumer.isNews frame = false) (caller : frame.isCaller = false ∨
      frame.isTeardown = true) : consumer.Abreast (frame :: stack) := by
  refine ⟨fun news => ?_, fun notice waiting same => ?_, idle, abreast⟩
  · rw [silent] at news
    cases news
  · subst same
    rcases caller with calls | tears
    · cases calls
    · cases tears

/-- Nothing is called from a frame of a body. -/
theorem idle_cons (caller : frame.isCaller = false ∨ frame.isTeardown = true) :
    consumer.Idle (frame :: stack) := by
  intro calls
  cases frame with
  | dispatch =>
    rcases caller with caller | tears
    · cases caller
    · cases tears
  | teardown => rfl
  | _ => cases calls

/-- Frames of bodies are idle. -/
theorem Idle.append (idle : consumer.Idle stack) (inner : Inner put) :
    consumer.Idle (put ++ stack) := by
  cases put with
  | nil => exact idle
  | cons frame put => exact idle_cons (.inl (inner frame List.mem_cons_self).2)

/-- Frames of bodies can be put over an idle dispatch. -/
theorem Abreast.append (abreast : consumer.Abreast stack) (idle : consumer.Idle stack)
    (inner : Inner put) : consumer.Abreast (put ++ stack) := by
  induction put with
  | nil => exact abreast
  | cons frame put ih =>
    obtain ⟨own, caller⟩ := inner frame List.mem_cons_self
    have others : Inner put := fun frame inside => inner frame (List.mem_cons_of_mem _ inside)
    refine (ih others).cons (idle.append others) ?_ (.inl caller)
    cases frame with
    | announce | notify => cases own
    | dispatch => cases caller
    | _ => rfl

/-- What lies under other frames is abreast. -/
theorem Abreast.of_append (abreast : consumer.Abreast (taken ++ rest)) : consumer.Abreast rest := by
  induction taken with
  | nil => exact abreast
  | cons frame taken ih => exact ih abreast.2.2.2

/-- What lies under a frame is idle. -/
theorem Abreast.idle (abreast : consumer.Abreast (taken ++ rest))
    (ground : taken = [] → rest = []) : consumer.Idle rest := by
  induction taken with
  | nil =>
    rw [ground rfl]
    trivial
  | cons frame taken ih =>
    cases taken with
    | nil => exact abreast.2.2.1
    | cons next taken => exact ih abreast.2.2.2 (fun none => by cases none)

/-- A notice of a change can go out over an idle dispatch. -/
theorem Abreast.changed (abreast : consumer.Abreast stack) (idle : consumer.Idle stack)
    (container : ContainerRef) : consumer.Abreast (.notify container .changed :: stack) :=
  abreast.cons idle (by simp [isNews, listener?]) (.inl rfl)

/-- A dispatch can begin or go on over an idle one, if it does not call the consumer's listener
twice. -/
theorem Abreast.dispatch {container : ContainerRef} {notice : Notice}
    {waiting : List SubscriptionRef} (abreast : consumer.Abreast stack)
    (idle : consumer.Idle stack)
    (news : consumer.isNews (.notify container notice) = true → consumer.due stack = [])
    (prompt : container = consumer.container → consumer.isAwaited notice waiting.tail = false) :
    consumer.Abreast (.dispatch container notice waiting :: stack) := by
  refine ⟨news, fun other others same => ?_, idle, abreast⟩
  cases same
  exact prompt rfl

/-- A callback can be called from a dispatch, if the consumer's listener is not due in it any
more. -/
theorem Abreast.called {target : ContainerRef} {notice : Notice} {waiting : List SubscriptionRef}
    (caller : consumer.Abreast (.dispatch target notice waiting :: stack))
    (prompt : target = consumer.container → consumer.isAwaited notice waiting = false)
    (body : List Action) (surface : Surface) (locals : Variables) :
    consumer.Abreast (called body surface locals ++ .dispatch target notice waiting :: stack) := by
  refine caller.append (fun _ => ?_) (plain_called _ _ _).inner
  by_cases here : target = consumer.container
  · simp [tidings, prompt here]
  · simp [tidings, here]

/-- What an insertion has left to do can be put over an idle dispatch, if nothing is on its way to
a consumer of the list. -/
theorem Abreast.inserted {target : ContainerRef} {position : Nat} (abreast : consumer.Abreast stack)
    (idle : consumer.Idle stack) (free : target = consumer.container → consumer.due stack = [])
    (key : Key) (item : Value) :
    consumer.Abreast (.notify target .changed :: .announce target key item position ::
      .settle target key :: .yield .null :: stack) := by
  have yield : consumer.Abreast (.yield .null :: stack) := abreast.cons idle rfl (.inl rfl)
  have settle : consumer.Abreast (.settle target key :: .yield .null :: stack) :=
    yield.cons (idle_cons (.inl rfl)) rfl (.inl rfl)
  have announce : consumer.Abreast (.announce target key item position :: .settle target key ::
      .yield .null :: stack) := by
    refine ⟨fun news => ?_, fun _ _ same => (by cases same), idle_cons (.inl rfl), settle⟩
    have here : target = consumer.container := by simpa [isNews] using news
    simp [tidings, free here]
  exact announce.changed (idle_cons (.inl rfl)) target

/-- So can what a removal has left to do. -/
theorem Abreast.removed {target : ContainerRef} {position : Nat} (abreast : consumer.Abreast stack)
    (idle : consumer.Idle stack) (free : target = consumer.container → consumer.due stack = [])
    (realm : RealmRef) (keys : List Key) (value : Value) :
    consumer.Abreast (.discharge realm keys :: .notify target .changed ::
      .notify target (.removed position) :: .yield value :: stack) := by
  have yield : consumer.Abreast (.yield value :: stack) := abreast.cons idle rfl (.inl rfl)
  have removal :
      consumer.Abreast (.notify target (.removed position) :: .yield value :: stack) := by
    refine ⟨fun news => ?_, fun _ _ same => (by cases same), idle_cons (.inl rfl), yield⟩
    have here : target = consumer.container := by simpa [isNews, listener?] using news
    simp [tidings, free here]
  have change := removal.changed (idle_cons (.inl rfl)) target
  exact change.cons (idle_cons (.inl rfl)) rfl (.inl rfl)

/-- The consumer keeps abreast with every turn, if nothing is on its way to it when the list is
changed. -/
theorem Abreast.turn (abreast : consumer.Abreast (taken ++ rest)) (served : consumer.IsServed world)
    (ground : taken = [] → rest = [])
    (free : consumer.news deed ≠ [] → consumer.due (taken ++ rest) = [])
    (turn : Turn world rest taken deed other put) : consumer.Abreast (put ++ rest) := by
  have below : consumer.Abreast rest := abreast.of_append
  have idle : consumer.Idle rest := abreast.idle ground
  have free (notice : Notice) (same : consumer.news deed = [notice]) {tail : List Frame}
      (plain : Plain tail) : consumer.due (tail ++ rest) = [] := by
    have none := free (by simp [same])
    rw [due_append] at none
    rw [due_append, due_of_inner plain.inner, (List.append_eq_nil_iff.mp none).2]
    rfl
  cases turn with
  | dropped | settled | settledEmpty | closed | released | rekeyed | abandoned => exact below
  | quiet spent plain | bound spent plain | refused spent plain | listMade spent plain
  | cellMade spent plain | realmOpened spent plain | drawn spent plain
  | subscribed spent plain | unsubscribed spent plain => exact below.append idle plain.inner
  | dischargedEmpty => exact below.cons idle rfl (.inl rfl)
  | stored => exact below.changed idle _
  | replaced => exact (below.changed idle _).cons (idle_cons (.inl rfl)) rfl (.inl rfl)
  | ranSettled =>
    exact (below.cons idle rfl (.inl rfl)).cons (idle_cons (.inl rfl)) rfl (.inr rfl)
  | ranDischarged =>
    exact ((below.cons idle rfl (.inl rfl)).cons (idle_cons (.inl rfl)) rfl (.inl rfl)).cons
      (idle_cons (.inl rfl)) rfl (.inr rfl)
  | ranAsked spent plain =>
    have further := below.append idle plain.inner
    exact (further.cons (idle.append plain.inner) rfl (.inl rfl)).cons (idle_cons (.inl rfl)) rfl
      (.inr rfl)
  | @opened _ tail realm key body _ spent plain =>
    have scope : consumer.Abreast (.scope realm key :: (tail ++ rest)) :=
      (below.append idle plain.inner).cons (idle.append plain.inner) rfl (.inl rfl)
    exact scope.append (idle_cons (.inl rfl)) (plain_scoped body).inner
  | tornDown =>
    rw [List.append_assoc]
    exact (below.cons idle rfl (.inr rfl)).append (idle_cons (.inr rfl)) (plain_called _ _ _).inner
  | borrowed spent plain _ inner => exact below.append idle (inner_reading inner.inner plain)
  | setBegun spent plain => exact below.append idle (inner_reading (inner_replace _) plain)
  | setShielded spent plain => exact below.append idle (inner_setting plain)
  | announced =>
    refine ⟨fun news => abreast.1 ?_, fun _ _ same => (by cases same), idle_cons (.inl rfl),
      below.cons idle rfl (.inl rfl)⟩
    simpa [isNews, listener?] using news
  | @passed target notice subscription waiting =>
    refine below.dispatch idle abreast.1 fun here => ?_
    subst here
    exact isAwaited_mono (List.tail_subset _) (abreast.2.1 notice _ rfl)
  | @notified target notice =>
    refine below.dispatch idle abreast.1 fun here => ?_
    subst here
    rw [isAwaited_eq_false]
    intro listener listens
    obtain ⟨_, others, snapshot, only⟩ := served notice listener listens
    rw [snapshot]
    exact only
  | @told target notice subscription waiting =>
    have prompt (here : target = consumer.container) :
        consumer.isAwaited notice waiting = false := by
      subst here
      exact abreast.2.1 notice _ rfl
    have caller := below.dispatch idle abreast.1 fun here =>
      isAwaited_mono (List.tail_subset _) (prompt here)
    rw [List.append_assoc]
    exact caller.called prompt _ _ _
  | @inserted _ tail target position item _ spent plain =>
    refine (below.append idle plain.inner).inserted (idle.append plain.inner) (fun here => ?_) _ _
    exact free (.added item position) (by simp [Consumer.news, here]) plain
  | @removed _ tail target position item value _ spent plain =>
    refine (below.append idle plain.inner).removed (idle.append plain.inner) (fun here => ?_) _ _ _
    exact free (.removed position) (by simp [Consumer.news, here]) plain

/-- A turn changes the elements of the list by the news that it makes, which fit them, unless it
replaces all of them. -/
theorem items_turn (turn : Turn world rest taken deed other put)
    (inside : consumer.container < world.containers.size)
    (kept : ∀ released allotted items,
      deed ≠ .replaced consumer.container released allotted items) :
    let items := (world.container consumer.container).items
    FitAll items (consumer.news deed) ∧
      (other.container consumer.container).items =
        (consumer.news deed).foldl Notice.patch items := by
  intro items
  have bare := congrArg (fun held => held.contents.items) (turn.container inside)
  have after : (other.container consumer.container).items =
      (deed.onContainer consumer.container (world.container consumer.container)).items := bare
  rw [after]
  cases turn with
  | @inserted _ _ target position item _ _ _ isList _ within =>
    by_cases here : consumer.container = target
    · subst here
      have inserted := Contents.items_insert isList position item
      simp only [news, FitAll, Notice.Fits, Notice.patch, Deed.onContainer, if_true, and_true,
        List.foldl_cons, List.foldl_nil]
      exact ⟨within, inserted⟩
    · simp [news, FitAll, Deed.onContainer, here, Ne.symm here, items]
  | @removed _ _ target position item _ _ _ _ _ there =>
    by_cases here : consumer.container = target
    · subst here
      have within := (List.getElem?_eq_some_iff.mp there).1
      simp only [news, FitAll, Notice.Fits, Notice.patch, Deed.onContainer, if_true, and_true,
        List.foldl_cons, List.foldl_nil]
      exact ⟨within, Contents.items_remove _ _⟩
    · simp [news, FitAll, Deed.onContainer, here, Ne.symm here, items]
  | @replaced target =>
    have elsewhere : consumer.container ≠ target := by
      rintro rfl
      exact kept _ _ _ rfl
    simp [news, FitAll, Deed.onContainer, elsewhere, items]
  | stored | rekeyed =>
    simp only [news, FitAll, Deed.onContainer, List.foldl_nil, true_and]
    split
    · simp [Container.items, items]
    · rfl
  | borrowed | setBegun | released =>
    simp only [news, FitAll, Deed.onContainer, List.foldl_nil, true_and]
    split
    · rfl
    · rfl
  | _ => exact ⟨trivial, rfl⟩

/-- Whoever was registered first with a channel and has not unsubscribed is first among those that
are registered later. -/
theorem head?_registered {recent : List Deed} {made : Enrolment} {list : ContainerRef}
    {channel : Channel} (first : (registered list channel history).head? = some made)
    (active : made.isEnded (recent ++ history) = false) :
    (registered list channel (recent ++ history)).head? = some made := by
  obtain ⟨others, known⟩ := List.head?_eq_some_iff.mp first
  have inside : made ∈ registered list channel history := known ▸ List.mem_cons_self
  obtain ⟨_, here, on, _⟩ := mem_registered.mp inside
  have all : enrolled (recent ++ history) =
      enrolled history ++ recent.reverse.flatMap Deed.enrolments := by
    rw [enrolled, List.reverse_append, List.flatMap_append]
    rfl
  let stays (made : Enrolment) : Bool :=
    made.container = list ∧ made.channel = channel ∧ made.isEnded (recent ++ history) = false
  -- Of the earlier subscriptions only those are registered later that were so before.
  have old : (enrolled history).filter stays = (registered list channel history).filter stays := by
    rw [registered, List.filter_filter]
    refine List.filter_congr fun other _ => ?_
    rw [Bool.eq_iff_iff, Bool.and_eq_true, decide_eq_true_iff, decide_eq_true_iff]
    refine ⟨fun still => ⟨still, still.1, still.2.1, ?_⟩, And.left⟩
    exact Enrolment.isEnded_suffix (List.suffix_append _ _) still.2.2
  have later : registered list channel (recent ++ history) =
      (enrolled (recent ++ history)).filter stays := rfl
  have kept : stays made = true := decide_eq_true ⟨here, on, active⟩
  rw [later, all, List.filter_append, old, known, List.filter_cons_of_pos kept]
  rfl

/-- Who was first stays so until it unsubscribes. -/
theorem IsFirst.later {recent : List Deed} (first : consumer.IsFirst history)
    (stays : consumer.Stays (recent ++ history)) : consumer.IsFirst (recent ++ history) :=
  ⟨head?_registered first.1 stays.1, head?_registered first.2 stays.2⟩

/-- A channel of the list tells the consumer first, if it has subscribed before the others. -/
theorem IsFirst.isServed (first : consumer.IsFirst history) (enrolment : world.Enrolled history) :
    consumer.IsServed world := by
  intro notice listener listens
  have head : (registered consumer.container notice.channel history).head? = some listener := by
    cases notice with
    | changed => cases listens
    | added =>
      cases listens
      exact first.1
    | removed =>
      cases listens
      exact first.2
  obtain ⟨others, known⟩ := List.head?_eq_some_iff.mp head
  have inside : listener ∈ registered consumer.container notice.channel history :=
    known ▸ List.mem_cons_self
  obtain ⟨made, _, _, active⟩ := mem_registered.mp inside
  refine ⟨fun off => ?_, others.map (·.subscription), ?_, fun twice => ?_⟩
  · rw [(enrolment.callback?_eq_none_iff made).mp off] at active
    cases active
  · rw [enrolment.snapshot, known, List.map_cons]
  · have once := enrolment.nodup_snapshot consumer.container notice.channel
    rw [enrolment.snapshot, known, List.map_cons, List.nodup_cons] at once
    exact once.1 twice

/-- The notices fit the copy one after the other if the first fits it and the others what it
leaves. -/
theorem fitAll_append {copy : List Value} {first second : List Notice} :
    FitAll copy (first ++ second) ↔
      FitAll copy first ∧ FitAll (first.foldl Notice.patch copy) second := by
  induction first generalizing copy with
  | nil => simp [FitAll]
  | cons notice first ih => simp only [List.cons_append, FitAll, ih, List.foldl_cons, and_assoc]

/-- The consumer follows its list at a moment that comes after what was done recently. -/
structure Follows (consumer : Consumer) (items : List Value) (recent : List Deed)
    (moment : Moment) : Prop where
  /-- The list exists. -/
  inside : consumer.container < moment.world.containers.size
  /-- The consumer is told before others. -/
  abreast : consumer.Abreast moment.machine.stack
  /-- A failure reaches nothing that is on its way to the consumer before it reaches callbacks
  that are called on behalf of the list. -/
  steady : ∀ failure, moment.machine.focus = .unwind failure →
    consumer.Near moment.machine.stack → consumer.Veiled moment.machine.stack
  /-- What is on its way to the consumer fits its copy. -/
  fits : FitAll (consumer.copy items recent) (consumer.due moment.machine.stack)
  /-- What is on its way to the consumer is all that makes its copy differ from the list. -/
  same : (moment.world.container consumer.container).items =
    (consumer.due moment.machine.stack).foldl Notice.patch (consumer.copy items recent)

namespace Follows

variable {items : List Value} {recent : List Deed} {before after : Moment}

/-- Nothing is on its way to the consumer when the list is changed. -/
theorem due_eq_nil (follows : consumer.Follows items recent before) (reached : before.IsReached)
    (last : before.Next after) (latest : after.history = deed :: before.history)
    (spares : before.spares consumer.container deed = true) (news : consumer.news deed ≠ []) :
    consumer.due before.machine.stack = [] := by
  by_contra some
  have unveiled : ∀ frame ∈ before.machine.stack,
      frame.veils before.world consumer.container = false := by
    cases deed with
    | inserted target | removed target =>
      have here : target = consumer.container := by
        by_contra elsewhere
        exact news (if_neg elsewhere)
      simpa [Moment.spares, here] using spares
    | _ => exact absurd rfl news
  rcases exists_veil follows.abreast reached.placed reached.pertinent some with
    near | ⟨veil, inside, veils⟩
  · obtain ⟨world, rest, taken, put, done, _, stack, ground, _, history, turn⟩ := last.exists_turn
    obtain ⟨rfl, _⟩ := List.cons.inj (history.symm.trans latest)
    have plain : Plain taken := by
      cases turn with
      | inserted spent | removed spent => exact spent
      | _ => exact absurd rfl news
    rw [stack] at near
    have none := near.not_inner plain.inner
    rw [none, ground none] at near
    cases near
  · rw [unveiled veil inside] at veils
    cases veils

/-- No failure takes away what is on its way to the consumer. -/
theorem tidings_eq_nil (follows : consumer.Follows items recent before)
    (last : before.Next after)
    (latest : after.history = .abandoned frame :: before.history) :
    consumer.tidings frame = [] := by
  obtain ⟨rest, failure, stack, focus⟩ := last.abandoned latest
  by_contra tells
  have veiled := follows.steady failure focus (stack ▸ .due tells)
  rw [stack] at veiled
  exact tells veiled.2

/-- A failure goes on reaching callbacks first. -/
theorem steady_next (follows : consumer.Follows items recent before) (reached : before.IsReached)
    (last : before.Next after) (latest : after.history = deed :: before.history)
    (spares : before.spares consumer.container deed = true) {failure : Failure}
    (fails : after.machine.focus = .unwind failure) (near : consumer.Near after.machine.stack) :
    consumer.Veiled after.machine.stack := by
  cases last with
  | begin finished action =>
    obtain ⟨put, plain, stack⟩ := Machine.command_fails fails
    change consumer.Near (before.idle.perform action).stack at near
    rw [Machine.perform, stack] at near
    have ground : consumer.Near [] := by
      rw [near.not_inner plain.inner] at near
      exact near
    cases ground
  | step busy =>
    obtain ⟨frame, rest, top⟩ := Machine.exists_frame busy
    have placed := reached.placed
    have abreast := follows.abreast
    rw [top] at placed abreast
    obtain ⟨_, _, idle, _⟩ := abreast
    change before.machine.step.focus = _ at fails
    change consumer.Near before.machine.step.stack at near
    show consumer.Veiled before.machine.step.stack
    cases focus : before.machine.focus with
    | resume reply =>
      have next := Machine.step_of_resume top focus
      have resuming : Machine.focus { before.machine with stack := rest } = .resume reply := focus
      rw [next] at fails near ⊢
      obtain ⟨own, caller, put, plain, above⟩ := Machine.resume_fails resuming fails
      rw [above] at near ⊢
      have none := near.not_inner plain.inner
      rw [none, List.nil_append] at near ⊢
      rcases near.above placed.1 idle with veiled | near
      · exact veiled
      · rcases near.head with one | one
        · rw [own] at one
          cases one
        · rw [caller] at one
          cases one
    | unwind failing =>
      have next := Machine.step_of_unwind top focus
      rw [next, Machine.stack_unwind] at near ⊢
      rcases near.above placed.1 idle with veiled | near
      · exact veiled
      · -- The failure would leave callbacks that are called on behalf of the list.
        have veiled := follows.steady failing focus (top ▸ near)
        rw [top] at veiled
        have pertinent := reached.pertinent
        rw [top] at pertinent
        have veils := near.veils veiled.1 veiled.2 pertinent
        have done : deed = Machine.unwindDeed frame := by
          have same : before.machine.deed = deed := List.head_eq_of_cons_eq latest
          rw [← same]
          simp only [Machine.deed, top, focus]
        rw [done] at spares
        cases frame with
        | dispatch | teardown =>
          simp only [Machine.unwindDeed, Moment.spares, veils] at spares
          cases spares
        | _ => cases veiled.1

/-- What is on its way to the consumer shrinks by what it is told and grows by what changes. -/
theorem account (follows : consumer.Follows items recent before) (reached : before.IsReached)
    (first : consumer.IsFirst before.history) (last : before.Next after)
    (latest : after.history = deed :: before.history)
    (spares : before.spares consumer.container deed = true) :
    consumer.hears deed ++ consumer.due after.machine.stack =
      consumer.due before.machine.stack ++ consumer.news deed := by
  have free := follows.due_eq_nil reached last latest spares
  obtain ⟨world, rest, taken, put, alike, stack, above, turn⟩ := last.turn latest
  have served := first.isServed (reached.enrolled.alike alike)
  have abreast := follows.abreast
  rw [stack] at abreast free
  have kept (frame : Frame) (lost : deed = .abandoned frame) : consumer.tidings frame = [] :=
    follows.tidings_eq_nil last (lost ▸ latest)
  have moved := due_turn served abreast kept turn
  rw [stack, above, due_append, due_append, ← List.append_assoc, moved]
  -- When the list is changed nothing is on its way, so the news come after what is due.
  by_cases none : consumer.news deed = []
  · rw [none, List.append_nil, List.append_nil]
  · have nothing := free none
    rw [due_append, List.append_eq_nil_iff] at nothing
    rw [nothing.1, nothing.2]
    simp

/-- The consumer goes on following its list from one moment to the next. -/
theorem next (follows : consumer.Follows items recent before) (reached : before.IsReached)
    (first : consumer.IsFirst before.history) (last : before.Next after)
    (latest : after.history = deed :: before.history)
    (spares : before.spares consumer.container deed = true) :
    consumer.Follows items (deed :: recent) after := by
  have account := follows.account reached first last latest spares
  have free := follows.due_eq_nil reached last latest spares
  have whole (released allotted : List Key) (items : List Value) :
      deed ≠ .replaced consumer.container released allotted items := by
    rintro rfl
    simp [Moment.spares] at spares
  obtain ⟨world, rest, taken, put, done, alike, stack, ground, above, history, turn⟩ :=
    last.exists_turn
  obtain ⟨rfl, _⟩ := List.cons.inj (latest.symm.trans history)
  have inside : consumer.container < world.containers.size := by
    rw [alike.containers]
    exact follows.inside
  have same : (world.container consumer.container).items = _ :=
    (congrArg Container.items (alike.container _)).trans follows.same
  obtain ⟨newsFit, changed⟩ := items_turn turn inside whole
  have all : FitAll (consumer.copy items recent)
      (consumer.due before.machine.stack ++ consumer.news deed) := by
    rw [fitAll_append, ← same]
    exact ⟨follows.fits, newsFit⟩
  refine ⟨Nat.lt_of_lt_of_le inside turn.size_le, ?_, fun failure fails near =>
    follows.steady_next reached last latest spares fails near, ?_, ?_⟩
  · have abreast := follows.abreast
    rw [stack] at abreast free
    rw [above]
    exact abreast.turn (first.isServed (reached.enrolled.alike alike)) ground free turn
  · rw [← account, fitAll_append] at all
    exact all.2
  · show _ = List.foldl Notice.patch ((consumer.hears deed).foldl Notice.patch _) _
    rw [← List.foldl_append, account, List.foldl_append, ← same]
    exact changed

/-- What the consumer is told fits its copy. -/
theorem fits_hears (follows : consumer.Follows items recent before) (reached : before.IsReached)
    (first : consumer.IsFirst before.history) (last : before.Next after)
    (latest : after.history = deed :: before.history)
    (spares : before.spares consumer.container deed = true) :
    FitAll (consumer.copy items recent) (consumer.hears deed) := by
  have account := follows.account reached first last latest spares
  by_cases silent : consumer.hears deed = []
  · rw [silent]
    trivial
  · have none : consumer.news deed = [] := by
      cases deed with
      | told => rfl
      | _ => exact absurd rfl silent
    have fits := follows.fits
    rw [none, List.append_nil] at account
    rw [← account, fitAll_append] at fits
    exact fits.1

/-- While the add or the remove subscriptions are called nothing is on its way to the consumer. -/
theorem due_told (follows : consumer.Follows items recent before) {notice : Notice}
    {subscription : SubscriptionRef} (last : before.Next after)
    (latest : after.history = .told consumer.container notice subscription :: before.history)
    (news : notice.channel ≠ .change) : consumer.due after.machine.stack = [] := by
  obtain ⟨world, rest, taken, put, _, stack, above, turn⟩ := last.turn latest
  have abreast := follows.abreast
  rw [stack] at abreast
  cases turn with
  | @told _ _ _ waiting =>
    have listens : (consumer.listener? notice).isSome = true := by
      cases notice with
      | changed => exact absurd rfl news
      | added | removed => rfl
    have beneath : consumer.due rest = [] := abreast.1 (by simp [isNews, listens])
    have prompt : consumer.isAwaited notice waiting = false := abreast.2.1 _ _ rfl
    rw [above]
    simp [due_of_inner (plain_called _ _ _).inner, tidings, prompt, beneath]

end Follows

/-- What is near is on its way. -/
theorem Near.due_ne_nil (near : consumer.Near stack) : consumer.due stack ≠ [] := by
  induction near with
  | due tells => simp [tells]
  | notify _ ih | dispatch _ ih | discharge _ ih | yield _ ih | teardown _ ih =>
    rw [due_cons]
    exact fun none => ih (List.append_eq_nil_iff.mp none).2

/-- Nothing is on its way to the consumer where nobody is told anything about the list. -/
theorem of_silent (silent : ∀ frame ∈ stack, frame.addresses consumer.container = false) :
    consumer.due stack = [] ∧ consumer.Abreast stack := by
  induction stack with
  | nil => exact ⟨rfl, trivial⟩
  | cons frame beneath ih =>
    obtain ⟨none, abreast⟩ := ih fun other inside => silent other (List.mem_cons_of_mem _ inside)
    have tells (other : Frame) (inside : other ∈ frame :: beneath) :
        consumer.tidings other = [] := by
      have still := silent other inside
      have elsewhere {target : ContainerRef} (apart : (consumer.container == target) = false) :
          target ≠ consumer.container := fun same => by simp [same] at apart
      cases other with
      | announce => exact if_neg (elsewhere still)
      | notify | dispatch => exact if_neg fun both => elsewhere still both.1
      | _ => rfl
    refine ⟨by rw [due_cons, tells frame List.mem_cons_self, none]; rfl, fun _ => none, ?_, ?_,
      abreast⟩
    · rintro notice waiting rfl
      have still := silent _ List.mem_cons_self
      simp [Frame.addresses] at still
    · cases beneath with
      | nil => trivial
      | cons next beneath => exact fun _ => tells next (by simp)

variable {first later : Moment} {recent : List Deed}

/-- A consumer whose copy is the list follows it from a moment on at which nobody is told anything
about the list. -/
theorem Follows.start (reached : first.IsReached) (serves : consumer.IsFirst first.history)
    (silent : ∀ frame ∈ first.machine.stack, frame.addresses consumer.container = false) :
    consumer.Follows (first.world.container consumer.container).items [] first := by
  obtain ⟨none, abreast⟩ := of_silent silent
  refine ⟨?_, abreast, fun _ _ near => absurd none near.due_ne_nil, ?_, ?_⟩
  · obtain ⟨known, here, _⟩ := mem_registered.mp (List.mem_of_mem_head? serves.1)
    have drawn := (reached.enrolled.drawn _ known).1
    rw [here] at drawn
    exact drawn
  · rw [none]
    trivial
  · rw [none]
    rfl

/-- A consumer follows its list on a course that spares it. -/
theorem Follows.course (reached : first.IsReached) (serves : consumer.IsFirst first.history)
    (silent : ∀ frame ∈ first.machine.stack, frame.addresses consumer.container = false)
    (course : first.Course (Moment.spares consumer.container) recent later)
    (stays : consumer.Stays later.history) :
    consumer.IsFirst later.history ∧
      consumer.Follows (first.world.container consumer.container).items recent later := by
  induction course with
  | refl => exact ⟨serves, .start reached serves silent⟩
  | @next recent before after deed earlier last latest spares ih =>
    have before_stays : consumer.Stays before.history := by
      rw [latest] at stays
      exact ⟨Enrolment.isEnded_suffix (List.suffix_cons _ _) stays.1,
        Enrolment.isEnded_suffix (List.suffix_cons _ _) stays.2⟩
    obtain ⟨foremost, follows⟩ := ih before_stays
    refine ⟨?_, follows.next (reached.leads earlier.stretch.leads) foremost last latest spares⟩
    have whole : after.history = [deed] ++ before.history := latest
    rw [whole] at stays ⊢
    exact foremost.later stays

end Consumer

/-- Take a list and a consumer that has subscribed to its additions and removals before anybody
else, and let it start with a copy of the elements at a moment at which nobody is told anything
about the list. From then on, as long as the consumer does not unsubscribe, nobody replaces
all elements, and the list is neither changed nor failed by its change subscriptions and the
teardowns of its keys, whatever the other subscriptions do,

* every position that the consumer is told is in range of its copy;
* whenever an add or a remove subscription is called, the consumer's own included, the copy
  and the list have the same elements;
* so they have between any two actions of the script. -/
theorem copies_follow_their_list (consumer : Consumer) {first later : Moment} {recent : List Deed}
    (reached : first.IsReached) (serves : consumer.IsFirst first.history)
    (silent : ∀ frame ∈ first.machine.stack, frame.addresses consumer.container = false)
    (course : first.Course (Moment.spares consumer.container) recent later)
    (stays : consumer.Stays later.history) :
    let copy := consumer.copy (first.world.container consumer.container).items
    (∀ next deed, later.Next next → next.history = deed :: later.history →
      ∀ notice ∈ consumer.hears deed, notice.Fits (copy recent)) ∧
    (∀ next notice subscription, later.Next next →
      next.history = .told consumer.container notice subscription :: later.history →
      notice.channel ≠ .change →
      copy (.told consumer.container notice subscription :: recent) =
        (next.world.container consumer.container).items) ∧
    (later.machine.isFinished = true →
      copy recent = (later.world.container consumer.container).items) := by
  intro copy
  obtain ⟨foremost, follows⟩ := Consumer.Follows.course reached serves silent course stays
  have midway : later.IsReached := reached.leads course.stretch.leads
  refine ⟨fun next deed last latest notice heard => ?_,
    fun next notice subscription last latest news => ?_, fun finished => ?_⟩
  · cases deed with
    | told target telling subscription =>
      have fits := follows.fits_hears midway foremost last latest rfl
      simp only [Consumer.hears] at heard fits
      split at heard
      · next mine =>
        rw [if_pos mine] at fits
        rw [List.mem_singleton.mp heard]
        exact fits.1
      · cases heard
    | _ => cases heard
  · have told := follows.next midway foremost last latest rfl
    have same := told.same
    rw [follows.due_told last latest news] at same
    exact same.symm
  · have same := follows.same
    rw [Machine.stack_eq_nil finished] at same
    exact same.symm

/-- An action that once removes the first element of the list L and then fails. -/
def removedAndFailed : Script.Action :=
  ⟨"limit", none, none, .limit (.literal (.text "once")) 1
    [⟨"remove", none, some (.literal (.text "L")), .operate (.removeAt (.literal (.int 0)))⟩,
      ⟨"throw", none, none, .throw (.literal (.text "no"))⟩]⟩

/-- A list of two elements with a consumer and another add subscriber, which changes the list and
fails. -/
def copied : Moment :=
  ((((((Moment.start false).begin pairMade).begin
    (subscribing "L" "a" (some .added) [])).run 1).begin
    (subscribing "L" "r" (some .removed) [])).run 1).begin
    (subscribing "L" "b" (some .added) [removedAndFailed]) |>.run 1

/-- After an insertion that fails because of the other subscriber. -/
def copiedAfter : Moment := (copied.begin thirdInserted).run 40

/-- The subscriptions of the list of `copied` that were made first. -/
def copier : Consumer := ⟨0, ⟨0, .added, 0, 0⟩, ⟨0, .removed, 1, 1⟩⟩

/-- A copy has followed its list through an insertion inside which an element was removed and
which then failed. -/
theorem copies_follow_their_list_failure :
    copied.IsReached ∧ copier.IsFirst copied.history ∧
      (∀ frame ∈ copied.machine.stack, frame.addresses copier.container = false) ∧
      copier.Stays copiedAfter.history ∧
      copiedAfter.machine.focus = .unwind (.escaped (.text "no")) ∧
      ∃ recent, copied.Course (Moment.spares copier.container) recent copiedAfter ∧
        copier.copy [.int 1, .int 2] recent = [.int 3, .int 2] := by
  have additions := ((Moment.IsReached.start false).begin rfl pairMade).begin rfl
    (subscribing "L" "a" (some .added) [])
  have removals := (additions.run 1).begin rfl (subscribing "L" "r" (some .removed) [])
  have reached : copied.IsReached :=
    ((removals.run 1).begin rfl (subscribing "L" "b" (some .added) [removedAndFailed])).run 1
  have first : copier.IsFirst copied.history := ⟨by decide, by decide⟩
  have silent : ∀ frame ∈ copied.machine.stack, frame.addresses copier.container = false := by
    intro frame inside
    cases inside
  have stays : copier.Stays copiedAfter.history := ⟨by decide +kernel, by decide +kernel⟩
  obtain ⟨recent, course⟩ :=
    Moment.course_begin (show copied.machine.isFinished = true from rfl)
      (show copied.spares copier.container (copied.idle.actionDeed thirdInserted) = true from rfl)
      (show (copied.begin thirdInserted).heeds (Moment.spares copier.container) 40 = true from rfl)
  have follows := (copies_follow_their_list copier reached first silent course stays).2.2 rfl
  exact ⟨reached, first, silent, stays, rfl, recent, course, follows⟩

end Observables
