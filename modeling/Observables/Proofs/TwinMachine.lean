import Observables.Proofs.TwinWorld

/-!
# The machines of a container in company and alone

While scripts of the container run, the stacks of the two runs hold the same
frames, and control goes on with the same reply or the same failure. Only the
number of a subscription can differ, on its way to an action that nobody keeps
the answer of. Everything that a container does by itself, from a dispatch to
the replacement of its elements, is the same in both runs.
-/

namespace Observables

open Script

/-- A frame that says nothing about containers, keys or variables. -/
def Frame.isFree : Frame → Bool
  | .body _ | .answer _ | .yield _ | .attempt | .shield | .boundary => true
  | _ => false

/-- The innermost frame that looks at a reply only notes it, as a number that containers share.
Without frames the reply is the answer of the outermost action. -/
def veils (outer : Action) : List Frame → Bool
  | [] => outer.isToken
  | .operating _ :: rest => veils outer rest
  | .finish action :: _ => action.isToken
  | _ => false

namespace Twin

variable (twin : Twin)

/-- Rows stand for the same subscription. -/
def Rows (bond : Bond) (row other : SubscriptionRef) : Prop :=
  ∃ id second, (⟨id, row⟩, ⟨second, other⟩) ∈ bond

/-- Frames say that the same remains to be done with the container. -/
inductive Frames (bond : Bond) : Frame → Frame → Prop where
  | free {frame} (free : frame.isFree = true) : Frames bond frame frame
  | finish {action} (own : action.result.all twin.estate.written = true) :
      Frames bond (.finish action) (.finish action)
  | restore {locals others} (same : twin.Locals locals others) :
      Frames bond (.restore locals) (.restore others)
  | scope {key} (own : twin.number = some key.container) :
      Frames bond (.scope twin.realm key) (.scope twin.realm key)
  | borrowed : Frames bond (.borrowed twin.estate.container) (.borrowed twin.other)
  | operating : Frames bond (.operating twin.estate.container) (.operating twin.other)
  | store : Frames bond (.store twin.estate.container) (.store twin.other)
  | replace : Frames bond (.replace twin.estate.container) (.replace twin.other)
  | notify {notice} :
      Frames bond (.notify twin.estate.container notice) (.notify twin.other notice)
  | dispatch {notice waiting others} (same : List.Forall₂ (Rows bond) waiting others) :
      Frames bond (.dispatch twin.estate.container notice waiting)
        (.dispatch twin.other notice others)
  | announce {key item position} (own : twin.number = some key.container) :
      Frames bond (.announce twin.estate.container key item position)
        (.announce twin.other key item position)
  | settle {key} (own : twin.number = some key.container) :
      Frames bond (.settle twin.estate.container key) (.settle twin.other key)
  | discharge {keys} (own : ∀ key ∈ keys, twin.number = some key.container) :
      Frames bond (.discharge twin.realm keys) (.discharge twin.realm keys)
  | teardown {realm key waiting others} (same : List.Forall₂ twin.Callbacks waiting others) :
      Frames bond (.teardown realm key waiting) (.teardown realm key others)
  | verdict {position rest body test} :
      Frames bond (.verdict twin.estate.container position rest body test)
        (.verdict twin.other position rest body test)

/-- Control goes on the same way, or with numbers that nobody keeps. -/
inductive Flows (hidden : Bool) : Focus → Focus → Prop where
  | same (focus : Focus) : Flows hidden focus focus
  | numbers {one other : Value} (told : one ∉ words) (second : other ∉ words)
      (unkept : hidden = true) :
      Flows hidden (.resume (.value one)) (.resume (.value other))

/-- All but the way in which control goes on corresponds in two machines. -/
structure Stands (bond : Bond) (left right : Machine) : Prop where
  /-- The worlds have in common what they should. -/
  worlds : twin.Worlds bond left.world right.world
  /-- Scripts of the container read the same in their variables. -/
  locals : twin.Locals left.locals right.locals
  /-- The same remains to be done. -/
  stack : List.Forall₂ (twin.Frames bond) left.stack right.stack

/-- Two machines that perform the same outermost action correspond. -/
def Machines (outer : Action) (left right : Machine) : Prop :=
  ∃ bond, twin.Stands bond left right ∧
    Flows (veils outer left.stack) left.focus right.focus

variable {twin}

/-- More subscriptions can be bound. -/
theorem Frames.mono {bond later : Bond} (more : ∀ pair ∈ bond, pair ∈ later)
    {frame other : Frame} (same : twin.Frames bond frame other) :
    twin.Frames later frame other := by
  cases same with
  | free free => exact .free free
  | finish own => exact .finish own
  | restore same => exact .restore same
  | scope own => exact .scope own
  | borrowed => exact .borrowed
  | operating => exact .operating
  | store => exact .store
  | replace => exact .replace
  | notify => exact .notify
  | dispatch same =>
    exact .dispatch (same.imp fun _ _ ⟨id, second, inside⟩ => ⟨id, second, more _ inside⟩)
  | announce own => exact .announce own
  | settle own => exact .settle own
  | discharge own => exact .discharge own
  | teardown same => exact .teardown same
  | verdict => exact .verdict

namespace Stands

variable {bond : Bond} {outer : Action} {left right : Machine}

/-- Both go on with the same answer. -/
theorem answer_corresponds (stands : twin.Stands bond left right) {value other : Value}
    (same : other = value) : twin.Machines outer (left.answer value) (right.answer other) := by
  subst same
  exact ⟨bond, ⟨stands.worlds, stands.locals, stands.stack⟩, .same _⟩

/-- Both go on. -/
theorem proceed_corresponds (stands : twin.Stands bond left right) :
    twin.Machines outer left.proceed right.proceed := stands.answer_corresponds rfl

/-- Both leave with the same failure. -/
theorem fail_corresponds (stands : twin.Stands bond left right) (failure : Failure) :
    twin.Machines outer (left.fail failure) (right.fail failure) :=
  ⟨bond, ⟨stands.worlds, stands.locals, stands.stack⟩, .same _⟩

/-- The worlds change. -/
theorem withWorld (stands : twin.Stands bond left right) {world other : World}
    (worlds : twin.Worlds bond world other) :
    twin.Stands bond (left.withWorld world) (right.withWorld other) :=
  { stands with worlds := worlds }

/-- Both put frames on the stack. -/
theorem pushed (stands : twin.Stands bond left right) {frames others : List Frame}
    (same : List.Forall₂ (twin.Frames bond) frames others) :
    twin.Stands bond (left.push frames) (right.push others) :=
  ⟨stands.worlds, stands.locals, List.rel_append same stands.stack⟩

/-- Both put frames on the stack and go on with them. -/
theorem push_corresponds (stands : twin.Stands bond left right) {frames others : List Frame}
    (same : List.Forall₂ (twin.Frames bond) frames others) :
    twin.Machines outer (left.push frames) (right.push others) :=
  ⟨bond, stands.pushed same, .same _⟩

/-- What keeps to the estate has the same value. -/
theorem evaluate_eq (stands : twin.Stands bond left right) {value : Expression}
    (covers : twin.estate.covers left value = true) :
    right.evaluate value = left.evaluate value :=
  Expression.evaluate_congr stands.worlds.held value stands.locals covers

/-- What keeps to the estate stands for the same name. -/
theorem evaluateName_eq (stands : twin.Stands bond left right) {value : Expression}
    (covers : twin.estate.covers left value = true) :
    right.evaluateName value = left.evaluateName value :=
  congrArg Value.joined (stands.evaluate_eq covers)

/-- Callbacks that do the same are called. -/
theorem call_corresponds (stands : twin.Stands bond left right) {callback other : Callback}
    (same : twin.Callbacks callback other) (event : Option Key → Event)
    (arguments : List (String × Value)) :
    twin.Machines outer (left.call callback event arguments)
      (right.call other event arguments) := by
  have guarded : (Machine.guard callback.surface).isFree = true := by
    cases callback.surface <;> rfl
  unfold Machine.call
  rw [stands.worlds.activeKey?, same.surface, same.body]
  exact ⟨bond, ⟨stands.worlds.emit rfl, same.locals.insertAll _, List.rel_append
    (.cons (.free rfl) (.cons (.free guarded) (.cons (.restore stands.locals) .nil)))
    stands.stack⟩, .same _⟩

/-- A subscriber is told the same in both runs. -/
theorem tell_corresponds (stands : twin.Stands bond left right) {callback other : Callback}
    (same : twin.Callbacks callback other) (notice : Notice) :
    twin.Machines outer (left.tell twin.estate.container notice callback)
      (right.tell twin.other notice other) := by
  unfold Machine.tell
  rw [same.tag]
  cases notice with
  | changed =>
    dsimp only
    rw [stands.worlds.value]
    exact stands.call_corresponds same _ _
  | added item position => exact stands.call_corresponds same _ _
  | removed position => exact stands.call_corresponds same _ _

/-- The next subscription has its turn in both runs. -/
theorem dispatch_corresponds (stands : twin.Stands bond left right) (notice : Notice)
    {waiting others : List SubscriptionRef} (same : List.Forall₂ (Rows bond) waiting others) :
    twin.Machines outer (left.dispatch twin.estate.container notice waiting)
      (right.dispatch twin.other notice others) := by
  cases same with
  | nil => exact stands.proceed_corresponds
  | @cons row second waiting others first rest =>
    obtain ⟨id, number, inside⟩ := first
    have pushed : twin.Stands bond
        (left.push [.dispatch twin.estate.container notice waiting])
        (right.push [.dispatch twin.other notice others]) :=
      stands.pushed (.cons (.dispatch rest) .nil)
    unfold Machine.dispatch
    dsimp only
    match (left.push [.dispatch twin.estate.container notice waiting]).world.callback? row,
      (right.push [.dispatch twin.other notice others]).world.callback? second,
      stands.worlds.callback? inside with
    | _, _, .none => exact stands.push_corresponds (.cons (.dispatch rest) .nil)
    | _, _, .some same => exact pushed.tell_corresponds same notice

/-- The same subscriptions are told. -/
theorem notify_corresponds (stands : twin.Stands bond left right) (notice : Notice) :
    twin.Machines outer (left.notify twin.estate.container notice)
      (right.notify twin.other notice) := by
  have snapshot := stands.worlds.snapshot notice.channel
  unfold Machine.notify
  dsimp only
  rw [← snapshot.length_eq]
  exact (stands.withWorld (stands.worlds.trace _)).push_corresponds
    (.cons (.dispatch snapshot) .nil)

/-- An element is announced in both runs. -/
theorem announce_corresponds (stands : twin.Stands bond left right) {key : Key}
    (own : twin.number = some key.container) (item : Value) (position : Nat) :
    twin.Machines outer (left.announce twin.estate.container key item position)
      (right.announce twin.other key item position) := by
  unfold Machine.announce
  rw [stands.worlds.realmOf, stands.worlds.realm]
  exact (stands.withWorld (stands.worlds.enter own)).push_corresponds
    (.cons .notify (.cons (.scope own) .nil))

/-- The teardowns of a key of the container are run in both runs. -/
theorem runTeardowns_corresponds (stands : twin.Stands bond left right) {key : Key}
    (own : twin.number = some key.container) :
    twin.Machines outer (left.runTeardowns twin.realm key)
      (right.runTeardowns twin.realm key) := by
  unfold Machine.runTeardowns
  match left.world.takeTeardowns twin.realm key, right.world.takeTeardowns twin.realm key,
    stands.worlds.takeTeardowns own with
  | _, _, .none => exact stands.answer_corresponds rfl
  | _, _, .some ⟨same, worlds⟩ =>
    dsimp only
    rw [same.length_eq]
    exact (stands.withWorld worlds).push_corresponds
      (.cons (.teardown same) (.cons (.free rfl) .nil))

/-- The next teardown is called in both runs. -/
theorem teardown_corresponds (stands : twin.Stands bond left right) (realm : RealmRef) (key : Key)
    {waiting others : List Callback} (same : List.Forall₂ twin.Callbacks waiting others) :
    twin.Machines outer (left.teardown realm key waiting) (right.teardown realm key others) := by
  cases same with
  | nil => exact stands.proceed_corresponds
  | cons first rest =>
    unfold Machine.teardown
    dsimp only
    rw [first.tag]
    exact (stands.pushed (.cons (.teardown rest) .nil)).call_corresponds first _ _

/-- The teardowns of the next key are run in both runs. -/
theorem discharge_corresponds (stands : twin.Stands bond left right) {keys : List Key}
    (own : ∀ key ∈ keys, twin.number = some key.container) :
    twin.Machines outer (left.discharge twin.realm keys) (right.discharge twin.realm keys) := by
  cases keys with
  | nil => exact stands.proceed_corresponds
  | cons key keys =>
    have rest : ∀ other ∈ keys, twin.number = some other.container :=
      fun other inside => own other (List.mem_cons_of_mem _ inside)
    exact (stands.pushed (.cons (.discharge rest) .nil)).runTeardowns_corresponds
      (own key List.mem_cons_self)

/-- An element that has left the list again is torn down in both runs. -/
theorem settle_corresponds (stands : twin.Stands bond left right) {key : Key}
    (own : twin.number = some key.container) :
    twin.Machines outer (left.settle twin.estate.container key)
      (right.settle twin.other key) := by
  unfold Machine.settle
  rw [stands.worlds.keys, stands.worlds.realmOf, stands.worlds.realm]
  split
  · exact stands.proceed_corresponds
  · exact stands.runTeardowns_corresponds own

/-- An element is put into the container in both runs, or a reader refuses it. -/
theorem insertAt_corresponds (stands : twin.Stands bond left right)
    (isList : (left.world.container twin.estate.container).contents.isList = true)
    (position : Nat) (item : Value) :
    twin.Machines outer (left.insertAt twin.estate.container position item)
      (right.insertAt twin.other position item) := by
  have own := stands.worlds.numbered.freshKey isList
  unfold Machine.insertAt
  rw [stands.worlds.items, stands.worlds.keys, stands.worlds.isBorrowed]
  split
  · exact stands.fail_corresponds _
  · exact (stands.withWorld (stands.worlds.insertElement _ item)).push_corresponds
      (.cons .notify (.cons (.announce own) (.cons (.settle own) (.cons (.free rfl) .nil))))

/-- An element is taken out of the container in both runs, or a reader refuses it. -/
theorem removeAt_corresponds (stands : twin.Stands bond left right) (position : Nat) :
    twin.Machines outer (left.removeAt twin.estate.container position)
      (right.removeAt twin.other position) := by
  have worlds := stands.worlds
  have realm : (right.world.container twin.other).realm = twin.realm :=
    worlds.realmOf.trans worlds.realm
  have here : (left.world.container twin.estate.container).realm = twin.realm := worlds.realm
  unfold Machine.removeAt
  dsimp only
  rw [worlds.isBorrowed, worlds.items, worlds.keys, worlds.surface, realm, here]
  split
  · exact stands.fail_corresponds _
  · split
    · exact stands.answer_corresponds rfl
    · have own : ∀ key ∈ ((left.world.container twin.estate.container).keys.keyAt?
          position).toList, twin.number = some key.container := fun key inside =>
        worlds.numbered.owned (List.mem_of_getElem? (Option.mem_toList.mp inside))
      exact (stands.withWorld (worlds.removeElement position)).push_corresponds
        (.cons (.discharge own) (.cons .notify (.cons .notify (.cons (.free rfl) .nil))))

/-- The last element is taken out of the container in both runs. -/
theorem pop_corresponds (stands : twin.Stands bond left right) :
    twin.Machines outer (left.pop twin.estate.container) (right.pop twin.other) := by
  unfold Machine.pop
  rw [stands.worlds.items, stands.worlds.surface]
  split
  · exact stands.answer_corresponds rfl
  · exact stands.removeAt_corresponds _

/-- A setter, predicate or borrowing body is run in both runs. -/
theorem invoke_corresponds (stands : twin.Stands bond left right) (surface : Surface)
    (arguments : List (String × Value)) (body : List Action) (result : Expression) :
    twin.Machines outer (left.invoke surface arguments body result)
      (right.invoke surface arguments body result) := by
  have edge : List.Forall₂ (twin.Frames bond) (Machine.edge surface) (Machine.edge surface) := by
    cases surface with
    | direct => exact .cons (.free rfl) .nil
    | shielded => exact .nil
  have frames := List.rel_append edge (.cons (.restore stands.locals) .nil)
  exact ⟨bond, ⟨stands.worlds, stands.locals.insertAll _,
    .cons (.free rfl) (.cons (.free rfl) (List.rel_append frames stands.stack))⟩, .same _⟩

/-- Both runs ask a predicate about the next element, or have looked at all of them. -/
theorem search_corresponds (stands : twin.Stands bond left right) (position : Nat)
    (rest : List Value) (body : List Action) (test : Expression) :
    twin.Machines outer (left.search twin.estate.container position rest body test)
      (right.search twin.other position rest body test) := by
  unfold Machine.search
  rw [stands.worlds.surface]
  cases rest with
  | nil => exact stands.answer_corresponds rfl
  | cons item rest => exact (stands.pushed (.cons .verdict .nil)).invoke_corresponds _ _ body test

/-- Both runs remove an element that was accepted, or look further. -/
theorem verdict_corresponds (stands : twin.Stands bond left right) (position : Nat)
    (rest : List Value) (body : List Action) (test : Expression) (answer : Value) :
    twin.Machines outer (left.verdict twin.estate.container position rest body test answer)
      (right.verdict twin.other position rest body test answer) := by
  unfold Machine.verdict
  split
  · exact stands.removeAt_corresponds position
  · exact stands.search_corresponds (position + 1) rest body test

/-- Both runs store a value in the container, or a reader refuses it. -/
theorem store_corresponds (stands : twin.Stands bond left right) (value : Value) :
    twin.Machines outer (left.store twin.estate.container value)
      (right.store twin.other value) := by
  unfold Machine.store
  rw [stands.worlds.isBorrowed]
  split
  · exact stands.fail_corresponds _
  · exact (stands.withWorld (stands.worlds.store value)).push_corresponds (.cons .notify .nil)

/-- Both runs replace the elements of the container, or a reader or the value refuses it. -/
theorem replace_corresponds (stands : twin.Stands bond left right) (value : Value) :
    twin.Machines outer (left.replace twin.estate.container value)
      (right.replace twin.other value) := by
  have worlds := stands.worlds
  have realm : (right.world.container twin.other).realm = twin.realm :=
    worlds.realmOf.trans worlds.realm
  have here : (left.world.container twin.estate.container).realm = twin.realm := worlds.realm
  unfold Machine.replace
  dsimp only
  rw [worlds.isBorrowed, worlds.keys, worlds.surface, realm, here]
  split
  · exact stands.fail_corresponds _
  · next items _ =>
    have keys := worlds.replaceKeys items.length
    split
    · exact (stands.withWorld keys).fail_corresponds _
    · exact (stands.withWorld ((keys.replaceItems items).trace _)).push_corresponds
        (.cons (.discharge fun key inside => worlds.numbered.owned inside) (.cons .notify .nil))

/-- Both runs ask a setter. -/
theorem set_corresponds (stands : twin.Stands bond left right) (body : List Action)
    (result : Expression) :
    twin.Machines outer (left.set twin.estate.container body result)
      (right.set twin.other body result) := by
  have worlds := stands.worlds
  have target : twin.Frames bond
      (Machine.setterTarget twin.estate.container
        (left.world.container twin.estate.container).contents)
      (Machine.setterTarget twin.other
        (left.world.container twin.estate.container).contents) := by
    cases (left.world.container twin.estate.container).contents with
    | cell value => exact .store
    | list items keys => exact .replace
  unfold Machine.set
  dsimp only
  rw [worlds.value, worlds.surface, worlds.contents]
  cases (left.world.container twin.estate.container).surface with
  | direct =>
    have pushed := (stands.withWorld worlds.borrow).pushed (.cons .borrowed (.cons target .nil))
    exact pushed.invoke_corresponds
      _ _ body result
  | shielded => exact (stands.pushed (.cons target .nil)).invoke_corresponds _ _ body result

/-- Both runs hold on to the container while a body runs. -/
theorem withBorrow_corresponds (stands : twin.Stands bond left right) (body : List Action)
    (result : Expression) :
    twin.Machines outer (left.withBorrow twin.estate.container body result)
      (right.withBorrow twin.other body result) := by
  unfold Machine.withBorrow
  dsimp only
  rw [stands.worlds.value, stands.worlds.surface]
  exact ((stands.withWorld stands.worlds.borrow).pushed (.cons .borrowed .nil)).invoke_corresponds
    _ _ body result

end Stands

end Twin

end Observables
