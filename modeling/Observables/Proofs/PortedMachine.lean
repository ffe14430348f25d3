import Observables.Proofs.PortedWorld
import Observables.Proofs.Seizure

/-!
# The machines of two corresponding runs

The stacks of two corresponding runs hold the same frames, with three
exceptions. The direct run marks that it reads the list while a setter runs,
it marks where a setter or predicate of the list ends, and its callbacks pass
failures on where those of the shielded run stop them. The first two kinds of
frames are taken off by steps that have no counterpart; after every other step
the machines correspond again. This holds as long as no failure leaves a call,
nothing is refused because of a reader, setters of the list answer lists, and
the list is used in the ways that both surfaces offer.
-/

namespace Observables

open Script

namespace Port

variable (port : Port)

/-- The reply that is awaited has a form, unless nobody looks at it. -/
def Awaits : Option Form → Reply → Reply → Prop
  | none, _, _ => True
  | some form, direct, shielded => form.Answers direct shielded

/-- The form of what a search in a container answers. -/
def findings (container : ContainerRef) : Form :=
  if container = port.list then .element else .same

/-- The innermost frame has no counterpart in the shielded run: it belongs to a reader of the
list, or it is the end of a setter or predicate of the list. -/
def waits : List Frame → Bool
  | .borrowed container :: _ => container == port.list
  | .boundary :: .restore _ :: .borrowed container :: _ => container == port.list
  | .boundary :: .restore _ :: .verdict container _ _ _ _ :: _ => container == port.list
  | _ => false

/-- The stacks of two runs correspond, given what the innermost frame of each waits for. The
outermost action answers in the given form. -/
inductive Stacks (outer : Form) : Option Form → List Frame → List Frame → Prop where
  | nil : Stacks outer (some outer) [] []
  | body {awaited actions others left right} (bodies : port.Bodies actions others)
      (rest : Stacks outer (some .same) left right) :
      Stacks outer awaited (.body actions :: left) (.body others :: right)
  | finish {form action other left right} (verb : other.verb = action.verb)
      (result : other.result = action.result)
      (kept : ∀ name, action.result = some name → port.form name = form)
      (rest : Stacks outer (some .same) left right) :
      Stacks outer (some form) (.finish action :: left) (.finish other :: right)
  | answer {awaited value other left right} (reads : port.Reads value other)
      (rest : Stacks outer (some .same) left right) :
      Stacks outer awaited (.answer value :: left) (.answer other :: right)
  | yield {awaited form value other left right}
      (answers : form.Answers (.value value) (.value other))
      (rest : Stacks outer (some form) left right) :
      Stacks outer awaited (.yield value :: left) (.yield other :: right)
  | restore {awaited locals others left right} (keeps : port.Locals locals others)
      (rest : Stacks outer awaited left right) :
      Stacks outer awaited (.restore locals :: left) (.restore others :: right)
  | attempt {awaited left right} (rest : Stacks outer (some .same) left right) :
      Stacks outer awaited (.attempt :: left) (.attempt :: right)
  | shield {awaited left right} (rest : Stacks outer (some .same) left right) :
      Stacks outer awaited (.shield :: left) (.shield :: right)
  | boundary {awaited left right} (both : port.waits (.boundary :: left) = false)
      (rest : Stacks outer awaited left right) :
      Stacks outer awaited (.boundary :: left) (.boundary :: right)
  /-- A callback passes failures on in the direct run and stops them in the shielded one. -/
  | guard {awaited locals others left right}
      (both : port.waits (.boundary :: .restore locals :: left) = false)
      (rest : Stacks outer none (.restore locals :: left) (.restore others :: right)) :
      Stacks outer awaited (.boundary :: .restore locals :: left)
        (.shield :: .restore others :: right)
  /-- The end of a setter or predicate of the list is marked in the direct run. -/
  | edge {awaited left right} (alone : port.waits (.boundary :: left) = true)
      (rest : Stacks outer awaited left right) : Stacks outer awaited (.boundary :: left) right
  /-- A reader of the list is marked in the direct run. -/
  | reader {awaited frame left right} (rest : Stacks outer awaited (frame :: left) right) :
      Stacks outer awaited (.borrowed port.list :: frame :: left) right
  | borrowed {awaited container left right} (apart : container ≠ port.list)
      (rest : Stacks outer awaited left right) :
      Stacks outer awaited (.borrowed container :: left) (.borrowed container :: right)
  | scope {awaited realm key left right} (rest : Stacks outer awaited left right) :
      Stacks outer awaited (.scope realm key :: left) (.scope realm key :: right)
  | operating {awaited container left right} (rest : Stacks outer awaited left right) :
      Stacks outer awaited (.operating container :: left) (.operating container :: right)
  | store {container left right} (apart : container ≠ port.list)
      (rest : Stacks outer (some .same) left right) :
      Stacks outer (some .same) (.store container :: left) (.store container :: right)
  | replace {container left right} (rest : Stacks outer (some .same) left right) :
      Stacks outer (some .same) (.replace container :: left) (.replace container :: right)
  | notify {awaited container notice left right}
      (rest : Stacks outer (some .same) left right) :
      Stacks outer awaited (.notify container notice :: left)
        (.notify container notice :: right)
  | dispatch {awaited container notice waiting left right}
      (rest : Stacks outer (some .same) left right) :
      Stacks outer awaited (.dispatch container notice waiting :: left)
        (.dispatch container notice waiting :: right)
  | announce {awaited container key item position left right}
      (rest : Stacks outer (some .same) left right) :
      Stacks outer awaited (.announce container key item position :: left)
        (.announce container key item position :: right)
  | settle {awaited container key left right}
      (rest : Stacks outer (some .same) left right) :
      Stacks outer awaited (.settle container key :: left) (.settle container key :: right)
  | discharge {awaited realm keys left right}
      (rest : Stacks outer (some .same) left right) :
      Stacks outer awaited (.discharge realm keys :: left) (.discharge realm keys :: right)
  | teardown {awaited realm key waiting others left right}
      (same : List.Forall₂ port.Callbacks waiting others)
      (rest : Stacks outer (some .same) left right) :
      Stacks outer awaited (.teardown realm key waiting :: left)
        (.teardown realm key others :: right)
  | verdict {container position items body other test check left right}
      (bodies : port.Bodies body other) (reads : port.Reads test check)
      (rest : Stacks outer (some (port.findings container)) left right) :
      Stacks outer (some .same) (.verdict container position items body test :: left)
        (.verdict container position items other check :: right)

/-- Both machines go on with corresponding replies, or both leave with the same failure. -/
inductive Flows (awaited : Option Form) : Focus → Focus → Prop where
  | resume {direct shielded} (replies : Awaits awaited direct shielded) :
      Flows awaited (.resume direct) (.resume shielded)
  | unwind (failure : Failure) : Flows awaited (.unwind failure) (.unwind failure)

/-- All but the way in which control goes on corresponds in two machines. -/
structure Stands (outer : Form) (awaited : Option Form) (left right : Machine) : Prop where
  /-- The worlds correspond. -/
  worlds : port.Worlds left.world right.world
  /-- The variables correspond. -/
  locals : port.Locals left.locals right.locals
  /-- The stacks correspond. -/
  aligned : port.Stacks outer awaited left.stack right.stack

/-- Two machines correspond. -/
def Machines (outer : Form) (left right : Machine) : Prop :=
  ∃ awaited, port.Stands outer awaited left right ∧ Flows awaited left.focus right.focus

namespace Stands

variable {port} {outer form : Form} {awaited : Option Form} {left right : Machine}

/-- Both go on with corresponding answers. -/
theorem answers (stands : port.Stands outer (some form) left right) {value other : Value}
    (answers : form.Answers (.value value) (.value other)) :
    port.Machines outer (left.answer value) (right.answer other) :=
  ⟨some form, ⟨stands.worlds, stands.locals, stands.aligned⟩, .resume answers⟩

/-- Both go on with the same answer. -/
theorem answer_corresponds (stands : port.Stands outer (some .same) left right) (value : Value) :
    port.Machines outer (left.answer value) (right.answer value) := stands.answers (.same _)

/-- Both go on. -/
theorem proceed_corresponds (stands : port.Stands outer (some .same) left right) :
    port.Machines outer left.proceed right.proceed := stands.answer_corresponds .null

/-- Both leave with the same failure. -/
theorem fail_corresponds (stands : port.Stands outer awaited left right) (failure : Failure) :
    port.Machines outer (left.fail failure) (right.fail failure) :=
  ⟨awaited, ⟨stands.worlds, stands.locals, stands.aligned⟩, .unwind failure⟩

/-- The worlds change. -/
theorem withWorld (stands : port.Stands outer awaited left right) {world other : World}
    (worlds : port.Worlds world other) :
    port.Stands outer awaited (left.withWorld world) (right.withWorld other) :=
  { stands with worlds := worlds }

/-- Both put frames on the stack. -/
theorem pushed {later : Option Form} (stands : port.Stands outer awaited left right)
    {frames others : List Frame}
    (aligned : port.Stacks outer later (frames ++ left.stack) (others ++ right.stack)) :
    port.Stands outer later (left.push frames) (right.push others) :=
  ⟨stands.worlds, stands.locals, aligned⟩

/-- Both put frames on the stack and go on with them. -/
theorem push_corresponds (stands : port.Stands outer awaited left right)
    {frames others : List Frame}
    (aligned : port.Stacks outer (some .same) (frames ++ left.stack) (others ++ right.stack)) :
    port.Machines outer (left.push frames) (right.push others) :=
  ⟨some .same, stands.pushed aligned, .resume (.same _)⟩

/-- Expressions that read alike have the same value. -/
theorem evaluate_eq (stands : port.Stands outer awaited left right) {value other : Expression}
    (reads : port.Reads value other) : right.evaluate other = left.evaluate value := by
  unfold Machine.evaluate
  rw [stands.worlds.held]
  exact (reads _ _ _ stands.locals).symm

/-- Expressions that read alike stand for the same name. -/
theorem evaluateName_eq (stands : port.Stands outer awaited left right) {value other : Expression}
    (reads : port.Reads value other) : right.evaluateName other = left.evaluateName value :=
  congrArg Value.joined (stands.evaluate_eq reads)

end Stands

/-- Both runs have finished, or neither has. -/
theorem Stacks.isEmpty {port : Port} {outer : Form} {awaited : Option Form}
    {left right : List Frame} (aligned : port.Stacks outer awaited left right) :
    right.isEmpty = left.isEmpty := by
  induction aligned with
  | reader _ ih => exact ih
  | @edge _ left _ alone _ ih =>
    cases left with
    | nil => cases alone
    | cons frame left => exact ih
  | _ => rfl

/-- The same containers are being operated on. -/
theorem Stacks.operatesOn {port : Port} {outer : Form} {awaited : Option Form}
    {left right : Machine} (aligned : port.Stacks outer awaited left.stack right.stack)
    (container : ContainerRef) : right.operatesOn container = left.operatesOn container := by
  unfold Machine.operatesOn
  generalize left.stack = frames at aligned
  generalize right.stack = others at aligned
  induction aligned with
  | nil => rfl
  | edge _ _ ih | reader _ ih => exact ih
  | guard _ _ ih => exact ih
  | _ => rename_i ih; exact congrArg (Bool.or _) ih

/-- The same containers exist in both runs. -/
theorem Stands.isAlive_eq {port : Port} {outer : Form} {awaited : Option Form}
    {left right : Machine} (stands : port.Stands outer awaited left right)
    (container : ContainerRef) : right.isAlive container = left.isAlive container := by
  unfold Machine.isAlive
  rw [stands.worlds.names, stands.aligned.operatesOn]

namespace Stands

variable {port : Port} {outer : Form} {awaited : Option Form} {left right : Machine}

/-- What callbacks, setters and predicates are given is the same in both runs. -/
theorem given {name : String} (inside : name ∈ ["v", "item", "pos", "key", "x"]) (value : Value) :
    ∀ argument ∈ [(name, value)], port.form argument.1 = .same := by
  intro argument here
  obtain rfl := List.mem_singleton.mp here
  exact port.given _ inside

/-- Corresponding callbacks are called. The frame beneath looks at no reply. -/
theorem call_corresponds (stands : ∀ awaited, port.Stands outer awaited left right)
    (ends : ∀ locals, port.waits (.boundary :: .restore locals :: left.stack) = false)
    {callback other : Callback} (same : port.Callbacks callback other)
    {event : Option Key → Event} {arguments : List (String × Value)}
    (given : ∀ argument ∈ arguments, port.form argument.1 = .same) :
    port.Machines outer (left.call callback event arguments)
      (right.call other event arguments) := by
  have worlds := (stands none).worlds
  have guarded : port.Stacks outer (some .same)
      (Machine.guard callback.surface :: .restore left.locals :: left.stack)
      (Machine.guard other.surface :: .restore right.locals :: right.stack) := by
    have below (awaited : Option Form) : port.Stacks outer awaited
        (.restore left.locals :: left.stack) (.restore right.locals :: right.stack) :=
      .restore (stands awaited).locals (stands awaited).aligned
    rcases same.surface with alike | ⟨direct, shielded⟩
    · rw [alike]
      cases callback.surface with
      | direct => exact .boundary (ends _) (below _)
      | shielded => exact .shield (below _)
    · rw [direct, shielded]
      exact .guard (ends _) (below _)
  have locals : port.Locals
      (callback.locals.insertAll (arguments ++ [("key", .optional .key left.world.activeKey?)]))
      (other.locals.insertAll (arguments ++ [("key", .optional .key left.world.activeKey?)])) := by
    refine same.locals.insertAll fun argument inside => ?_
    rcases List.mem_append.mp inside with inside | inside
    · exact given argument inside
    · exact Stands.given (by simp) _ argument inside
  unfold Machine.call
  rw [worlds.activeKey?]
  exact ⟨some .same, ⟨worlds.emit _, locals, .body same.body guarded⟩, .resume (.same _)⟩

/-- A subscriber is told the same in both runs. -/
theorem tell_corresponds (stands : ∀ awaited, port.Stands outer awaited left right)
    (ends : ∀ locals, port.waits (.boundary :: .restore locals :: left.stack) = false)
    {callback other : Callback} (same : port.Callbacks callback other)
    (container : ContainerRef) (notice : Notice) :
    port.Machines outer (left.tell container notice callback)
      (right.tell container notice other) := by
  unfold Machine.tell
  rw [same.tag]
  cases notice with
  | changed =>
    dsimp only
    rw [(stands none).worlds.value]
    exact call_corresponds stands ends same (given (by simp) _)
  | added item position =>
    refine call_corresponds stands ends same fun argument inside => ?_
    rcases List.mem_cons.mp inside with rfl | inside
    · exact port.given _ (by simp)
    · exact given (by simp) _ argument inside
  | removed position => exact call_corresponds stands ends same (given (by simp) _)

/-- The next subscription has its turn in both runs. -/
theorem dispatch_corresponds (stands : port.Stands outer (some .same) left right)
    (container : ContainerRef) (notice : Notice) (waiting : List SubscriptionRef) :
    port.Machines outer (left.dispatch container notice waiting)
      (right.dispatch container notice waiting) := by
  cases waiting with
  | nil => exact stands.proceed_corresponds
  | cons subscription waiting =>
    have pushed (awaited : Option Form) : port.Stands outer awaited
        (left.push [.dispatch container notice waiting])
        (right.push [.dispatch container notice waiting]) :=
      stands.pushed (.dispatch stands.aligned)
    unfold Machine.dispatch
    dsimp only
    match (left.push [.dispatch container notice waiting]).world.callback? subscription,
      (right.push [.dispatch container notice waiting]).world.callback? subscription,
      stands.worlds.callback? subscription with
    | _, _, .none => exact stands.push_corresponds (.dispatch stands.aligned)
    | _, _, .some same => exact tell_corresponds pushed (fun _ => rfl) same container notice

/-- The same subscriptions are told. -/
theorem notify_corresponds (stands : port.Stands outer (some .same) left right)
    (container : ContainerRef) (notice : Notice) :
    port.Machines outer (left.notify container notice) (right.notify container notice) := by
  unfold Machine.notify
  rw [stands.worlds.registry]
  exact (stands.withWorld (stands.worlds.trace _)).push_corresponds (.dispatch stands.aligned)

/-- An element is announced in both runs. -/
theorem announce_corresponds (stands : port.Stands outer (some .same) left right)
    (container : ContainerRef) (key : Key) (item : Value) (position : Nat) :
    port.Machines outer (left.announce container key item position)
      (right.announce container key item position) := by
  unfold Machine.announce
  rw [stands.worlds.realmOf]
  exact (stands.withWorld (stands.worlds.enter _ key)).push_corresponds
    (.notify (.scope stands.aligned))

/-- The teardowns of a key are run in both runs. -/
theorem runTeardowns_corresponds (stands : port.Stands outer (some .same) left right)
    (realm : RealmRef) (key : Key) :
    port.Machines outer (left.runTeardowns realm key) (right.runTeardowns realm key) := by
  unfold Machine.runTeardowns
  match left.world.takeTeardowns realm key, right.world.takeTeardowns realm key,
    stands.worlds.takeTeardowns realm key with
  | _, _, .none => exact stands.answer_corresponds _
  | _, _, .some ⟨same, worlds⟩ =>
    dsimp only
    rw [same.length_eq]
    exact (stands.withWorld worlds).push_corresponds
      (.teardown same (.yield (.same _) stands.aligned))

/-- The next teardown is called in both runs. -/
theorem teardown_corresponds (stands : port.Stands outer (some .same) left right) (realm : RealmRef)
    (key : Key) {waiting others : List Callback}
    (same : List.Forall₂ port.Callbacks waiting others) :
    port.Machines outer (left.teardown realm key waiting) (right.teardown realm key others) := by
  cases same with
  | nil => exact stands.proceed_corresponds
  | cons first rest =>
    unfold Machine.teardown
    dsimp only
    rw [first.tag]
    exact call_corresponds (fun _ => stands.pushed (.teardown rest stands.aligned))
      (fun _ => rfl) first (by simp)

/-- The teardowns of the next key are run in both runs. -/
theorem discharge_corresponds (stands : port.Stands outer (some .same) left right)
    (realm : RealmRef) (keys : List Key) :
    port.Machines outer (left.discharge realm keys) (right.discharge realm keys) := by
  cases keys with
  | nil => exact stands.proceed_corresponds
  | cons key keys =>
    exact (stands.pushed (.discharge stands.aligned)).runTeardowns_corresponds realm key

/-- An element that has left its list again is torn down in both runs. -/
theorem settle_corresponds (stands : port.Stands outer (some .same) left right)
    (container : ContainerRef) (key : Key) :
    port.Machines outer (left.settle container key) (right.settle container key) := by
  unfold Machine.settle
  rw [stands.worlds.keys, stands.worlds.realmOf]
  split
  · exact stands.proceed_corresponds
  · exact stands.runTeardowns_corresponds _ key

/-- Both go on unless a reader refuses it, which does not happen in a calm run. -/
theorem unlessBorrowed (stands : port.Stands outer awaited left right) {container : ContainerRef}
    {refused other first second : Machine} (collides : refused.HasCollided)
    (goes : port.Machines outer first second)
    (calm : ¬ (if left.world.isBorrowed container then refused else first).HasCollided) :
    port.Machines outer (if left.world.isBorrowed container then refused else first)
      (if right.world.isBorrowed container then other else second) := by
  cases read : left.world.isBorrowed container with
  | true =>
    rw [if_pos read] at calm
    exact absurd collides calm
  | false =>
    have free : right.world.isBorrowed container = false :=
      (stands.worlds.isBorrowed fun _ => read).trans read
    rw [free]
    exact goes

/-- Both runs put an element into a container, or neither does. -/
theorem insertAt_corresponds (stands : port.Stands outer (some .same) left right)
    (container : ContainerRef) (position : Nat) (item : Value)
    (calm : ¬ (left.insertAt container position item).HasCollided) :
    port.Machines outer (left.insertAt container position item)
      (right.insertAt container position item) := by
  unfold Machine.insertAt at *
  rw [stands.worlds.items, stands.worlds.keys]
  refine stands.unlessBorrowed rfl ?_ calm
  exact (stands.withWorld (stands.worlds.insertElement _ _ item)).push_corresponds
    (.notify (.announce (.settle (.yield (.same _) stands.aligned))))

/-- The answers to a found element correspond. -/
theorem found (worlds : port.Worlds left.world right.world) (container : ContainerRef)
    (item : Value) :
    (port.findings container).Answers
      (.value ((left.world.container container).surface.found item))
      (.value ((right.world.container container).surface.found item)) := by
  unfold findings
  split
  · next here =>
    rw [here, worlds.direct, worlds.shielded]
    exact .found item
  · next apart =>
    rw [worlds.container_of_ne apart]
    exact .same _

/-- The answers to a missing element correspond. -/
theorem notFound (worlds : port.Worlds left.world right.world) (container : ContainerRef) :
    (port.findings container).Answers
      (.value (left.world.container container).surface.notFound)
      (.value (right.world.container container).surface.notFound) := by
  unfold findings
  split
  · next here =>
    rw [here, worlds.direct, worlds.shielded]
    exact .notFound
  · next apart =>
    rw [worlds.container_of_ne apart]
    exact .same _

/-- Both runs take an element out of a container, or neither does. -/
theorem removeAt_corresponds {container : ContainerRef}
    (stands : port.Stands outer (some (port.findings container)) left right) (position : Nat)
    (calm : ¬ (left.removeAt container position).HasCollided) :
    port.Machines outer (left.removeAt container position)
      (right.removeAt container position) := by
  have worlds := stands.worlds
  have realm : (right.world.container container).realm =
      (left.world.container container).realm := worlds.realmOf _
  unfold Machine.removeAt at *
  refine stands.unlessBorrowed rfl ?_ calm
  dsimp only
  rw [worlds.items, worlds.keys, realm]
  cases (left.world.container container).items[position]? with
  | none => exact stands.answers (notFound worlds container)
  | some item =>
    exact (stands.withWorld (worlds.removeElement container position)).push_corresponds
      (.discharge (.notify (.notify (.yield (found worlds container item) stands.aligned))))

/-- Both runs take the last element out of a container. -/
theorem pop_corresponds {container : ContainerRef}
    (stands : port.Stands outer (some (port.findings container)) left right)
    (calm : ¬ (left.pop container).HasCollided) :
    port.Machines outer (left.pop container) (right.pop container) := by
  unfold Machine.pop at *
  rw [stands.worlds.items]
  cases count : (left.world.container container).items.length with
  | zero => exact stands.answers (notFound stands.worlds container)
  | succ length =>
    rw [count] at calm
    exact stands.removeAt_corresponds length calm

/-- Corresponding setters or predicates are run, which end correspondingly. -/
theorem invoke_corresponds (stands : port.Stands outer awaited left right) {surface other : Surface}
    {arguments : List (String × Value)} {body second : List Action} {test check : Expression}
    (ends : port.Stacks outer (some .same)
      (Machine.edge surface ++ .restore left.locals :: left.stack)
      (Machine.edge other ++ .restore right.locals :: right.stack))
    (given : ∀ argument ∈ arguments, port.form argument.1 = .same)
    (bodies : port.Bodies body second) (reads : port.Reads test check) :
    port.Machines outer (left.invoke surface arguments body test)
      (right.invoke other arguments second check) := by
  have aligned : port.Stacks outer (some .same)
      ((.body body :: .answer test :: Machine.edge surface ++ [.restore left.locals]) ++
        left.stack)
      ((.body second :: .answer check :: Machine.edge other ++ [.restore right.locals]) ++
        right.stack) := by
    rw [List.append_assoc, List.append_assoc]
    exact .body bodies (.answer reads ends)
  exact ⟨some .same, ⟨stands.worlds, stands.locals.insertAll given, aligned⟩, .resume (.same _)⟩

/-- A container other than the list asks a setter or predicate in both runs. -/
theorem edge_of_ne (stands : port.Stands outer (some .same) left right) {surface : Surface}
    (both : ∀ locals, port.waits (.boundary :: .restore locals :: left.stack) = false) :
    port.Stacks outer (some .same) (Machine.edge surface ++ .restore left.locals :: left.stack)
      (Machine.edge surface ++ .restore right.locals :: right.stack) := by
  have below : port.Stacks outer (some .same) (.restore left.locals :: left.stack)
      (.restore right.locals :: right.stack) := .restore stands.locals stands.aligned
  cases surface with
  | direct => exact .boundary (both _) below
  | shielded => exact below

/-- Both runs ask a predicate about the next element, or have looked at all of them. -/
theorem search_corresponds {container : ContainerRef}
    (stands : port.Stands outer (some (port.findings container)) left right) (position : Nat)
    (rest : List Value) {body other : List Action} {test check : Expression}
    (bodies : port.Bodies body other) (reads : port.Reads test check) :
    port.Machines outer (left.search container position rest body test)
      (right.search container position rest other check) := by
  have worlds := stands.worlds
  cases rest with
  | nil => exact stands.answers (notFound worlds container)
  | cons item rest =>
    have pushed : port.Stands outer (some .same)
        (left.push [.verdict container position rest body test])
        (right.push [.verdict container position rest other check]) :=
      stands.pushed (.verdict bodies reads stands.aligned)
    refine pushed.invoke_corresponds ?_ (given (by simp) _) bodies reads
    by_cases here : container = port.list
    · have surface : (left.world.container container).surface = .direct := here ▸ worlds.direct
      have second : (right.world.container container).surface = .shielded :=
        here ▸ worlds.shielded
      have alone : port.waits (.boundary :: .restore left.locals ::
          .verdict container position rest body test :: left.stack) = true := beq_iff_eq.mpr here
      rw [surface, second]
      exact .edge alone (.restore stands.locals pushed.aligned)
    · rw [worlds.container_of_ne here]
      exact pushed.edge_of_ne fun _ => beq_false_of_ne here

/-- Both runs remove an element that was accepted, or look further. -/
theorem verdict_corresponds {container : ContainerRef}
    (stands : port.Stands outer (some (port.findings container)) left right) (position : Nat)
    (rest : List Value) {body other : List Action} {test check : Expression}
    (bodies : port.Bodies body other) (reads : port.Reads test check) (answer : Value)
    (calm : ¬ (left.verdict container position rest body test answer).HasCollided) :
    port.Machines outer (left.verdict container position rest body test answer)
      (right.verdict container position rest other check answer) := by
  unfold Machine.verdict at *
  split
  · next accepted =>
    rw [if_pos accepted] at calm
    exact stands.removeAt_corresponds position calm
  · exact stands.search_corresponds (position + 1) rest bodies reads

/-- Both runs store a value in a container, or neither does. -/
theorem store_corresponds (stands : port.Stands outer (some .same) left right)
    (container : ContainerRef) (value : Value) (calm : ¬ (left.store container value).HasCollided) :
    port.Machines outer (left.store container value) (right.store container value) := by
  unfold Machine.store at *
  refine stands.unlessBorrowed rfl ?_ calm
  have stored := stands.worlds.modifyContents container (Contents.isList_store value)
  exact (stands.withWorld stored).push_corresponds
    (.notify stands.aligned)

/-- The list that a setter answers stands for its items on every surface. -/
theorem replacement_list (surface : Surface) (items : List Value) :
    Machine.replacement surface (.list items) = .ok items := by
  cases surface <;> rfl

/-- Both runs replace the elements of a container, or neither does. The setter of the list
answers a list. -/
theorem replace_corresponds (stands : port.Stands outer (some .same) left right)
    (container : ContainerRef) (value : Value)
    (lists : container = port.list → ∃ items, value = .list items)
    (calm : ¬ (left.replace container value).HasCollided) :
    port.Machines outer (left.replace container value) (right.replace container value) := by
  have worlds := stands.worlds
  have realm : (right.world.container container).realm =
      (left.world.container container).realm := worlds.realmOf _
  have same : Machine.replacement (right.world.container container).surface value =
      Machine.replacement (left.world.container container).surface value := by
    by_cases here : container = port.list
    · obtain ⟨items, rfl⟩ := lists here
      rw [replacement_list, replacement_list]
    · rw [worlds.container_of_ne here]
  unfold Machine.replace at *
  dsimp only at *
  rw [same, worlds.keys, realm]
  cases answered : Machine.replacement (left.world.container container).surface value with
  | error error => exact stands.fail_corresponds _
  | ok items =>
    rw [answered] at calm
    have replaced := (worlds.replaceKeys container items.length).modifyContents container
      (Contents.isList_replaceItems items)
    refine stands.unlessBorrowed rfl ?_ calm
    exact (stands.withWorld (replaced.trace _)).push_corresponds
      (.discharge (.notify stands.aligned))

/-- Both runs ask a setter. The direct one reads the list meanwhile. -/
theorem set_corresponds (stands : port.Stands outer (some .same) left right)
    (container : ContainerRef) {body other : List Action} {answer reply : Expression}
    (bodies : port.Bodies body other)
    (reads : port.Reads answer reply) :
    port.Machines outer (left.set container body answer) (right.set container other reply) := by
  have worlds := stands.worlds
  have target : port.Stacks outer (some .same)
      (Machine.setterTarget container (left.world.container container).contents :: left.stack)
      (Machine.setterTarget container (right.world.container container).contents ::
        right.stack) := by
    rw [worlds.contents]
    cases held : (left.world.container container).contents with
    | cell value =>
      refine .store (fun here => ?_) stands.aligned
      have isList := worlds.isList
      rw [← here, held] at isList
      cases isList
    | list items keys => exact .replace stands.aligned
  unfold Machine.set
  dsimp only
  rw [worlds.value]
  by_cases here : container = port.list
  · have surface : (left.world.container container).surface = .direct := here ▸ worlds.direct
    have second : (right.world.container container).surface = .shielded := here ▸ worlds.shielded
    rw [surface, second]
    subst here
    have pushed : port.Stands outer (some .same)
        ((left.withWorld (left.world.borrow port.list)).push [.borrowed port.list,
          Machine.setterTarget port.list (left.world.container port.list).contents])
        (right.push
          [Machine.setterTarget port.list (right.world.container port.list).contents]) :=
      (stands.withWorld worlds.borrowList).pushed (.reader target)
    refine pushed.invoke_corresponds ?_ (given (by simp) _) bodies reads
    exact .edge (beq_self_eq_true _) (.restore stands.locals pushed.aligned)
  · have waits : (container == port.list) = false := beq_false_of_ne here
    rw [worlds.container_of_ne here] at target ⊢
    cases (left.world.container container).surface with
    | direct =>
      have pushed : port.Stands outer (some .same)
          ((left.withWorld (left.world.borrow container)).push [.borrowed container,
            Machine.setterTarget container (left.world.container container).contents])
          ((right.withWorld (right.world.borrow container)).push [.borrowed container,
            Machine.setterTarget container (left.world.container container).contents]) :=
        (stands.withWorld (worlds.borrow here)).pushed (.borrowed here target)
      exact pushed.invoke_corresponds (pushed.edge_of_ne fun _ => waits) (given (by simp) _)
        bodies reads
    | shielded =>
      have pushed : port.Stands outer (some .same)
          (left.push
            [Machine.setterTarget container (left.world.container container).contents])
          (right.push
            [Machine.setterTarget container (left.world.container container).contents]) :=
        stands.pushed target
      refine pushed.invoke_corresponds ?_ (given (by simp) _) bodies reads
      exact .restore stands.locals target

/-- Both runs hold on to a container other than the list while a body runs. -/
theorem withBorrow_corresponds (stands : port.Stands outer (some .same) left right)
    {container : ContainerRef} (apart : container ≠ port.list) {body other : List Action}
    {answer reply : Expression}
    (bodies : port.Bodies body other) (reads : port.Reads answer reply) :
    port.Machines outer (left.withBorrow container body answer)
      (right.withBorrow container other reply) := by
  have waits : (container == port.list) = false := beq_false_of_ne apart
  have pushed : port.Stands outer (some .same)
      ((left.withWorld (left.world.borrow container)).push [.borrowed container])
      ((right.withWorld (right.world.borrow container)).push [.borrowed container]) :=
    (stands.withWorld (stands.worlds.borrow apart)).pushed (.borrowed apart stands.aligned)
  unfold Machine.withBorrow
  rw [stands.worlds.container_of_ne apart]
  exact pushed.invoke_corresponds (pushed.edge_of_ne fun _ => waits) (given (by simp) _)
    bodies reads

end Stands

end Port

end Observables
