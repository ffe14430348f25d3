import Observables.Proofs.PortedRun
import Observables.Proofs.Handle

/-!
# Direct and shielded lists agree

A list is made at some point of a script, and the script goes on with it, once
with a direct list and once with a shielded one. At every point of the direct
run the shielded run has come to a corresponding point: both have told the
same, all containers hold the same elements and keys, the same subscriptions
are registered, the same keys are open, a search examines the same element and
has the same rest to examine, and answers correspond. The shielded run waits
now and then, but never for long. Nothing is said about direct runs in which a
failure leaves a call or a setter touches its own list.
-/

namespace Observables

open Script

/-- A script in progress: where it has come to and what is left of it. -/
structure Play where
  /-- The moment that has been reached. -/
  moment : Moment
  /-- The actions that have not begun. -/
  script : List Action

namespace Play

/-- The machine takes a step, or the next action begins. When all is done nothing happens. -/
def next (play : Play) : Play :=
  if play.moment.machine.isFinished then
    match play.script with
    | [] => play
    | action :: script => ⟨play.moment.begin action, script⟩
  else ⟨play.moment.step, play.script⟩

/-- The play after some ticks. -/
def after (play : Play) : Nat → Play
  | 0 => play
  | ticks + 1 => (play.after ticks).next

/-- A list is made through a surface, and the script goes on. -/
def making (moment : Moment) (verb : String) (name value : Expression)
    (realm : Option Expression) (surface : Surface) (script : List Action) : Play :=
  ⟨moment.begin ⟨verb, none, none, .makeList name value realm surface⟩, script⟩

/-- A finished play does not go on. -/
theorem next_of_ended {play : Play} (finished : play.moment.machine.isFinished = true)
    (ended : play.script = []) : play.next = play := by
  rw [next, if_pos finished, ended]

/-- When an action is over the next one begins. -/
theorem next_of_finished {play : Play} (finished : play.moment.machine.isFinished = true)
    {action : Action} {script : List Action} (ahead : play.script = action :: script) :
    play.next = ⟨play.moment.begin action, script⟩ := by
  rw [next, if_pos finished, ahead]

/-- A machine that is not done takes a step. -/
theorem next_of_busy {play : Play} (busy : play.moment.machine.isFinished = false) :
    play.next = ⟨play.moment.step, play.script⟩ := by
  rw [next, busy]
  rfl

/-- When the last action is over the play stays as it is. -/
theorem after_of_ended {play : Play} {ticks : Nat}
    (finished : (play.after ticks).moment.machine.isFinished = true)
    (ended : (play.after ticks).script = []) (further : Nat) :
    play.after (ticks + further) = play.after ticks := by
  induction further with
  | zero => rfl
  | succ further ih =>
    have next := next_of_ended finished ended
    rw [← Nat.add_assoc, after, ih, next]

end Play

/-- One run keeps pace with another: when that comes to its next point it does so too or
waits, and it comes to every point of its own. -/
structure Pace (pace : Nat → Nat) : Prop where
  /-- Both start together. -/
  start : pace 0 = 0
  /-- Nothing is skipped. -/
  step : ∀ tick, pace (tick + 1) = pace tick ∨ pace (tick + 1) = pace tick + 1
  /-- There is always an end to waiting. -/
  reaches : ∀ later, ∃ tick, pace tick = later

/-- The search that a frame belongs to: its container, the position of the element that is
examined and the elements that have not been. -/
def Frame.search? : Frame → Option (ContainerRef × Nat × List Value)
  | .verdict container position rest _ _ => some (container, position, rest)
  | _ => none

/-- What two actions came to: corresponding answers, or the same failure. -/
def Form.Outcomes (form : Form) (direct shielded : Reply) : Prop :=
  form.Answers direct shielded ∨
    ∃ failure, direct = .failure failure ∧ shielded = .failure failure

namespace Port

variable (port : Port)

/-- The direct run goes on in an orderly way, also when the next action is about to begin. -/
def isOrderly (play : Play) : Bool :=
  port.isSteady play.moment.machine &&
    (!play.moment.machine.isFinished || match play.script with
      | [] => true
      | action :: _ => port.admits play.moment.idle action)

/-- The form of what the action answers that is being performed after the next tick. -/
def formNext (play : Play) (form : Form) : Form :=
  match play.moment.machine.isFinished, play.script with
  | true, action :: _ =>
    let idle := play.moment.idle
    port.commandForm idle (idle.subjectName action) action.command
  | _, _ => form

/-- The form of what the action answers that is being performed after some ticks. The first
action makes the list. -/
def formAt (play : Play) : Nat → Form
  | 0 => .token
  | ticks + 1 => port.formNext (play.after ticks) (formAt play ticks)

/-- How many points the shielded run has gone on to after some ticks of the direct one. -/
def pace (play : Play) : Nat → Nat
  | 0 => 0
  | ticks + 1 =>
    if port.waits (play.after ticks).moment.machine.stack then pace play ticks
    else pace play ticks + 1

/-- Whatever a session keeps from before means the same whichever surface the list has. -/
structure Home (session : Session) : Prop where
  /-- Variables correspond to themselves. -/
  locals : port.Locals session.locals session.locals
  /-- Teardowns correspond to themselves. -/
  teardowns : ∀ realm, ∀ entry ∈ (session.world.realm realm).teardowns.entries,
    ∀ callback ∈ entry.2, port.Callbacks callback callback
  /-- Callbacks of subscriptions correspond to themselves. -/
  subscriptions : ∀ row subscription, session.world.subscriptions.get? row = some subscription →
    port.Callbacks subscription.callback subscription.callback

/-- What is the same at corresponding points of two runs, and what corresponds. -/
structure Agree (form : Form) (left right : Play) : Prop where
  /-- The actions that have not begun correspond. -/
  scripts : port.Bodies left.script right.script
  /-- An action has ended in both runs or in neither, with corresponding answers. -/
  outcome : Option.Rel form.Outcomes left.moment.machine.outcome? right.moment.machine.outcome?
  /-- Variables keep corresponding answers. -/
  locals : port.Locals left.moment.machine.locals right.moment.machine.locals
  /-- Elements and keys are the same. -/
  contents : ∀ container, (right.moment.world.container container).contents =
    (left.moment.world.container container).contents
  /-- As many teardowns wait for each key. -/
  pending : ∀ realm key, ((right.moment.world.realm realm).teardowns.pending key).length =
    ((left.moment.world.realm realm).teardowns.pending key).length
  /-- The same subscriptions are registered. -/
  registries : ∀ container channel, (right.moment.world.container container).registry channel =
    (left.moment.world.container container).registry channel
  /-- The same realms have been entered. -/
  entered : right.moment.world.entered = left.moment.world.entered
  /-- The same keys are open. -/
  active : ∀ realm,
    (right.moment.world.realm realm).active = (left.moment.world.realm realm).active
  /-- Calls of callbacks, what was logged and what was traced are the same in the same order. -/
  calls : right.moment.world.journal.latest.filter (!·.isAnswer) =
    left.moment.world.journal.latest.filter (!·.isAnswer)
  /-- Answers inside bodies correspond and come in the same places. -/
  told : Told left.moment.world.journal.latest right.moment.world.journal.latest
  /-- Searches are at the same element and have the same elements to examine. -/
  searches : right.moment.machine.stack.filterMap Frame.search? =
    left.moment.machine.stack.filterMap Frame.search?

/-- Two plays correspond. -/
structure Plays (form : Form) (left right : Play) : Prop where
  /-- The machines correspond. -/
  machines : port.Machines form left.moment.machine right.moment.machine
  /-- The actions keep their answers in the same variable, which has the right form. -/
  action : ∃ one two, left.moment.action = some one ∧ right.moment.action = some two ∧
    two.result = one.result ∧ ∀ name, one.result = some name → port.form name = form
  /-- The actions that have not begun correspond. -/
  scripts : port.Bodies left.script right.script

variable {port}

/-- The outermost action answers in its form. -/
theorem Stacks.awaited_eq {outer : Form} {awaited : Option Form} {right : List Frame}
    (aligned : port.Stacks outer awaited [] right) : awaited = some outer := by
  cases aligned
  rfl

/-- The same elements are being examined. -/
theorem Stacks.searches {outer : Form} {awaited : Option Form} {left right : List Frame}
    (aligned : port.Stacks outer awaited left right) :
    right.filterMap Frame.search? = left.filterMap Frame.search? := by
  induction aligned with
  | verdict _ _ _ ih => exact congrArg (_ :: ·) ih
  | nil => rfl
  | _ => rename_i ih; exact ih

namespace Plays

variable {form : Form} {left right : Play}

/-- Both runs have finished an action, or neither has. -/
theorem isFinished (plays : port.Plays form left right) :
    right.moment.machine.isFinished = left.moment.machine.isFinished := by
  obtain ⟨awaited, stands, _⟩ := plays.machines
  exact stands.aligned.isEmpty

/-- When an action is over both go on with answers of its form, or leave with the same failure. -/
theorem focus (plays : port.Plays form left right)
    (finished : left.moment.machine.isFinished = true) :
    Flows (some form) left.moment.machine.focus right.moment.machine.focus := by
  obtain ⟨awaited, stands, flows⟩ := plays.machines
  have aligned := stands.aligned
  rw [Machine.stack_eq_nil finished] at aligned
  obtain rfl := aligned.awaited_eq
  exact flows

/-- Corresponding plays agree. -/
theorem agree (plays : port.Plays form left right) : port.Agree form left right := by
  obtain ⟨awaited, stands, flows⟩ := plays.machines
  have worlds := stands.worlds
  have outcome : Option.Rel form.Outcomes left.moment.machine.outcome?
      right.moment.machine.outcome? := by
    unfold Machine.outcome?
    rw [plays.isFinished]
    split
    · next finished =>
      match left.moment.machine.focus, right.moment.machine.focus, plays.focus finished with
      | _, _, .resume replies => exact .some (.inl replies)
      | _, _, .unwind failure => exact .some (.inr ⟨failure, rfl, rfl⟩)
    · exact .none
  exact {
    scripts := plays.scripts
    outcome := outcome
    locals := stands.locals
    contents := worlds.contents
    pending := fun realm => (worlds.realm realm).pending
    registries := worlds.registry
    entered := worlds.entered
    active := fun realm => (worlds.realm realm).active
    calls := worlds.journal.told.filter.symm
    told := worlds.journal.told
    searches := stands.aligned.searches }

/-- When an action is over the variables of the scripts correspond. -/
theorem session (plays : port.Plays form left right)
    (finished : left.moment.machine.isFinished = true) :
    port.Locals left.moment.session.locals right.moment.session.locals := by
  obtain ⟨awaited, stands, _⟩ := plays.machines
  obtain ⟨one, two, here, there, result, kept⟩ := plays.action
  unfold Moment.session
  rw [here, there]
  dsimp only
  match left.moment.machine.focus, right.moment.machine.focus, plays.focus finished with
  | _, _, .unwind failure => exact stands.locals
  | _, _, .resume replies =>
    unfold Session.keep
    rw [result]
    cases keeps : one.result with
    | none => exact stands.locals
    | some name =>
      refine stands.locals.insert ?_
      rw [kept name keeps]
      exact replies.kept

/-- When an action is over the machines for the next one correspond. -/
theorem idle (plays : port.Plays form left right)
    (finished : left.moment.machine.isFinished = true) (outer : Form) :
    port.Stands outer (some outer) left.moment.idle right.moment.idle := by
  obtain ⟨awaited, stands, _⟩ := plays.machines
  exact ⟨stands.worlds.withJournal ⟨stands.worlds.journal.tracing, .nil⟩,
    plays.session finished, .nil⟩

/-- Corresponding plays correspond after the next tick, which the shielded one may sit out. -/
theorem next (plays : port.Plays form left right) (orderly : port.isOrderly left = true)
    (calm : ¬ left.next.moment.machine.HasCollided) :
    port.Plays (port.formNext left form) left.next
      (if port.waits left.moment.machine.stack then right else right.next) := by
  obtain ⟨steady, ready⟩ := Bool.and_eq_true_iff.mp orderly
  cases finished : left.moment.machine.isFinished with
  | false =>
    have busy : right.moment.machine.isFinished = false := plays.isFinished.trans finished
    have form : port.formNext left form = form := by rw [formNext, finished]
    rw [Play.next_of_busy finished] at calm ⊢
    rw [Play.next_of_busy busy, form]
    have machines := plays.machines.step finished steady calm
    unfold follow at machines
    split
    · next waits =>
      rw [if_pos waits] at machines
      exact ⟨machines, plays.action, plays.scripts⟩
    · next moves =>
      rw [if_neg moves] at machines
      exact ⟨machines, plays.action, plays.scripts⟩
  | true =>
    have last : right.moment.machine.isFinished = true := plays.isFinished.trans finished
    have empty := Machine.stack_eq_nil finished
    have moves : ¬ port.waits left.moment.machine.stack = true := by
      rw [empty]
      exact Bool.false_ne_true
    rw [if_neg moves]
    have scripts := plays.scripts
    cases ahead : left.script with
    | nil =>
      rw [ahead] at scripts
      have done : right.script = [] := List.forall₂_nil_left_iff.mp scripts
      rw [Play.next_of_ended finished ahead, Play.next_of_ended last done]
      have form : port.formNext left form = form := by rw [formNext, finished, ahead]
      rw [form]
      exact plays
    | cons action script =>
      rw [ahead] at scripts
      obtain ⟨other, rest, same, scripts, further⟩ := List.forall₂_cons_left_iff.mp scripts
      rw [Play.next_of_finished finished ahead] at calm ⊢
      rw [Play.next_of_finished last further]
      have admits : port.admits left.moment.idle action = true := by
        rw [finished, ahead] at ready
        exact ready
      have form : port.formNext left form = port.commandForm left.moment.idle
          (left.moment.idle.subjectName action) action.command := by
        rw [formNext, finished, ahead]
      rw [form]
      exact ⟨(plays.idle finished _).perform_corresponds same admits calm,
        ⟨action, other, rfl, rfl, same.result, kept_of_admits admits⟩, scripts⟩

/-- Corresponding plays correspond after any number of ticks of an orderly direct one. -/
theorem after {left right : Play} (plays : port.Plays .token left right)
    (orderly : ∀ tick, port.isOrderly (left.after tick) = true) (tick : Nat) :
    port.Plays (port.formAt left tick) (left.after tick) (right.after (port.pace left tick)) := by
  induction tick with
  | zero => exact plays
  | succ tick ih =>
    have steady := (Bool.and_eq_true_iff.mp (orderly (tick + 1))).1
    have next := ih.next (orderly tick) (not_hasCollided steady)
    unfold pace
    split
    · next waits =>
      rw [if_pos waits] at next
      exact next
    · next moves =>
      rw [if_neg moves] at next
      exact next

end Plays

/-- What the shielded run sits out takes a frame off the stack of the direct one. -/
theorem length_step_of_waits {machine : Machine} (waits : port.waits machine.stack = true) :
    machine.step.stack.length + 1 = machine.stack.length := by
  rcases machine with ⟨world, locals, stack, focus⟩
  cases stack with
  | nil => cases waits
  | cons frame rest =>
    cases frame with
    | borrowed container =>
      cases focus with
      | resume reply => rfl
      | unwind failure => rfl
    | boundary =>
      cases focus with
      | resume reply => rfl
      | unwind failure => rfl
    | _ => cases waits

/-- The shielded run does not wait for ever. -/
theorem exists_pace_succ (play : Play) (tick : Nat) {height : Nat}
    (high : (play.after tick).moment.machine.stack.length = height) :
    ∃ later, port.pace play later = port.pace play tick + 1 := by
  induction height generalizing tick with
  | zero =>
    have empty := List.eq_nil_of_length_eq_zero high
    refine ⟨tick + 1, ?_⟩
    rw [pace, empty]
    rfl
  | succ height ih =>
    by_cases waits : port.waits (play.after tick).moment.machine.stack = true
    · have same : port.pace play (tick + 1) = port.pace play tick := by rw [pace, if_pos waits]
      have above : 0 < (play.after tick).moment.machine.stack.length := by omega
      have busy := Machine.not_isFinished above
      have lower := length_step_of_waits waits
      have next : (play.after (tick + 1)).moment.machine =
          (play.after tick).moment.machine.step := by
        rw [Play.after, Play.next_of_busy busy]
        rfl
      rw [← next, high] at lower
      rw [← same]
      exact ih (tick + 1) (Nat.succ.inj lower)
    · exact ⟨tick + 1, by rw [pace, if_neg waits]⟩

/-- The shielded run keeps pace with the direct one. -/
theorem pace_keeps (play : Play) : Pace (port.pace play) where
  start := rfl
  step tick := by
    rw [pace]
    split
    · exact .inl rfl
    · exact .inr rfl
  reaches later := by
    induction later with
    | zero => exact ⟨0, rfl⟩
    | succ later ih =>
      obtain ⟨tick, here⟩ := ih
      obtain ⟨further, next⟩ := exists_pace_succ play tick rfl
      exact ⟨further, next.trans (congrArg (· + 1) here)⟩

/-- Before a script begins nothing has been kept. -/
theorem Home.start (tracing : Bool) : port.Home (Moment.start tracing).session where
  locals _ := .none
  teardowns realm entry inside := by
    have blank := World.field_start Realm.teardowns rfl tracing realm
    have none : entry ∈ (default : Realm).teardowns.entries := blank ▸ inside
    cases none
  subscriptions row subscription found := by
    have none : (Moment.start tracing).session.world.subscriptions.get? row = none :=
      Array.getElem?_eq_none (Nat.zero_le row)
    rw [none] at found
    cases found

/-- Once a list has been made the worlds correspond. -/
theorem Home.worlds {world : World} {locals : Variables} (home : port.Home ⟨world, locals⟩)
    (fresh : port.list = world.containers.size)
    (handles : ∀ name handle, world.handles.find? name = some handle →
      handle.container < world.containers.size)
    (name : String) (realm : RealmRef) (items : List Value) :
    port.Worlds (world.makeList name realm .direct items)
      (world.makeList name realm .shielded items) := by
  have made (surface : Surface) (row : ContainerRef) :
      (world.makeList name realm surface items).container row =
        if row = world.containers.size then
          { realm := realm, surface := surface, contents := .list items
              ((KeySequence.empty (world.nextListId realm)).fill items.length) }
        else world.container row := Table.entry_add _ _ _
  have old (name : String) (handle : Handle) (found : world.handles.find? name = some handle) :
      handle.container ≠ port.list := by
    rw [fresh]
    exact Nat.ne_of_lt (handles name handle found)
  have here (surface : Surface) := made surface port.list
  simp only [if_pos fresh] at here
  exact {
    realmCount := rfl
    realm := fun row => by
      have kept : ((world.takeListId realm).realm row).teardowns = (world.realm row).teardowns := by
        refine World.field_modifyRealm_kept Realm.teardowns (fun held => ?_) row
        rfl
      have waits : List.Forall₂ port.Waiting
          ((world.takeListId realm).realm row).teardowns.entries
          ((world.takeListId realm).realm row).teardowns.entries := by
        rw [kept]
        exact List.forall₂_same.mpr fun entry inside =>
          ⟨rfl, List.forall₂_same.mpr (home.teardowns row entry inside)⟩
      exact ⟨rfl, rfl, rfl, rfl, waits⟩
    realmNames := rfl
    entered := rfl
    containerCount := (Table.size_add _ _).trans (Table.size_add _ _).symm
    container := fun row => by
      rw [made, made]
      split
      · next last => rw [last, ← fresh, shield, if_pos rfl]
      · next other => exact (shield_of_ne (fresh ▸ other)).symm
    direct := congrArg (·.surface) (here .direct)
    isList := congrArg (·.contents.isList) (here .direct)
    names := rfl
    subscriptionCount := rfl
    subscription := fun row => by
      show Option.Rel _ (world.subscriptions.get? row) (world.subscriptions.get? row)
      cases found : world.subscriptions.get? row with
      | none => exact .none
      | some subscription => exact .some ⟨rfl, rfl, home.subscriptions row subscription found⟩
    handle := fun name => by
      show world.handles.find? name = (world.handles.find? name).map port.handle
      cases found : world.handles.find? name with
      | none => rfl
      | some handle => rw [Option.map_some, Port.handle, if_neg (old name handle found)]
    directHandle := fun name handle found there => absurd there (old name handle found)
    arrivals := rfl
    journal := ⟨rfl, Told.refl _⟩ }

/-- Once a list has been made through either surface the plays correspond. -/
theorem Home.plays {moment : Moment} (reached : moment.IsReached)
    (fresh : port.list = moment.world.containers.size) (home : port.Home moment.session)
    (verb : String) (name : Expression) {value : Expression} {realm : Option Expression}
    {row : RealmRef} {items : List Value} (known : moment.idle.realm? realm = some row)
    (initial : moment.idle.evaluate value = .list items) {script other : List Action}
    (same : port.Bodies script other) :
    port.Plays .token (.making moment verb name value realm .direct script)
      (.making moment verb name value realm .shielded other) := by
  have begun : port.Home ⟨moment.idle.world, moment.idle.locals⟩ :=
    ⟨home.locals, home.teardowns, home.subscriptions⟩
  have worlds := begun.worlds fresh reached.lt_size_of_handle (moment.idle.evaluateName name)
    row items
  have contents : (moment.idle.evaluate value).toContents = .ok items :=
    Value.toContents_eq_ok.mpr initial
  have made (surface : Surface) :
      moment.idle.perform ⟨verb, none, none, .makeList name value realm surface⟩ =
        moment.idle.makeList (moment.idle.evaluateName name) (moment.idle.evaluate value) row
          surface := by
    unfold Machine.perform Machine.command Machine.inRealm
    dsimp only
    rw [known]
  have machines : port.Machines .token
      (moment.idle.perform ⟨verb, none, none, .makeList name value realm .direct⟩)
      (moment.idle.perform ⟨verb, none, none, .makeList name value realm .shielded⟩) := by
    rw [made, made]
    unfold Machine.makeList
    rw [contents]
    exact ⟨some .token, ⟨worlds, home.locals, .nil⟩, .resume (.subscribed _)⟩
  exact ⟨machines, ⟨_, _, rfl, rfl, rfl, fun name kept => by cases kept⟩, same⟩

end Port

/-- A shielded list agrees with a direct one that is made in its place. -/
theorem shielded_lists_follow_direct_ones {moment : Moment} (reached : moment.IsReached)
    {port : Port} (fresh : port.list = moment.world.containers.size)
    (home : port.Home moment.session) (verb : String) (name : Expression) {value : Expression}
    {realm : Option Expression} {row : RealmRef} {items : List Value}
    (known : moment.idle.realm? realm = some row)
    (initial : moment.idle.evaluate value = .list items) {script other : List Action}
    (same : port.Bodies script other)
    (orderly : ∀ tick, port.isOrderly
      ((Play.making moment verb name value realm .direct script).after tick) = true) :
    ∃ pace, Pace pace ∧ ∀ tick,
      let direct := Play.making moment verb name value realm .direct script
      let shielded := Play.making moment verb name value realm .shielded other
      port.Agree (port.formAt direct tick) (direct.after tick) (shielded.after (pace tick)) := by
  have plays := home.plays reached fresh verb name known initial same
  exact ⟨_, port.pace_keeps _, fun tick => (plays.after orderly tick).agree⟩

/-- What is removed from the list is kept as "prey", and what concerns its subscription as
"watch". -/
def huntForms : Port where
  list := 0
  form name := if name = "prey" then .element else if name = "watch" then .token else .same
  given := by decide

/-- An operation on the list L. -/
def onHunted (result : Option String) (operation : Operation (List Action)) : Action :=
  ⟨"on", result, some (.literal (.text "L")), .operate operation⟩

/-- Elements that are added get a teardown. Then an element is added, the first that is two is
looked for while the predicate moves all elements on, and what has been removed is logged. -/
def hunt (surface : Surface) (prey : Expression) : List Action :=
  let torn : Action := ⟨"bind", none, none, .register none (.literal (.text "T")) surface
    [⟨"log", none, none, .log (.variable "key")⟩]⟩
  let isTwo : Expression := .apply .equal (.list [.variable "x", .literal (.nat 2)])
  [onHunted (some "watch") (.subscribe (.literal (.text "A")) (some .added) [torn]),
    onHunted none (.push (.literal (.nat 5))),
    onHunted (some "prey") (.findAndRemove
      [onHunted none (.insertAt (.literal (.nat 0)) (.literal (.nat 7)))] isTwo),
    ⟨"log", none, none, .log prey⟩]

/-- A list of one and two is made and the hunt goes on. -/
def hunting (surface : Surface) (prey : Expression) : Play :=
  .making (.start false) "make" (.literal (.text "L"))
    (.literal (.list [.nat 1, .nat 2])) none surface (hunt surface prey)

/-- A direct list answers what was removed in a list. -/
def directPrey : Expression := .apply .item (.list [.variable "prey", .literal (.nat 0)])

/-- A shielded list answers what was removed. -/
def shieldedPrey : Expression := .variable "prey"

theorem hunts_correspond :
    huntForms.Bodies (hunt .direct directPrey) (hunt .shielded shieldedPrey) := by
  have named : Option.Rel huntForms.Reads (some (.literal (.text "L")))
      (some (.literal (.text "L"))) := .some (.literal _)
  have torn : huntForms.Bodies
      [⟨"log", none, none, .log (.variable "key")⟩] [⟨"log", none, none, .log (.variable "key")⟩] :=
    .cons (.intro .none (.log (.kept rfl))) .nil
  have moved : huntForms.Bodies
      [onHunted none (.insertAt (.literal (.nat 0)) (.literal (.nat 7)))]
      [onHunted none (.insertAt (.literal (.nat 0)) (.literal (.nat 7)))] :=
    .cons (.intro named (.operate (.insertAt (.literal _) (.literal _)))) .nil
  exact .cons (.intro named (.operate (.subscribe (.literal _)
      (.cons (.intro .none (.registerCurrent (.literal _) torn)) .nil))))
    (.cons (.intro named (.operate (.push (.literal _))))
      (.cons (.intro named (.operate (.findAndRemove moved
        (.apply (.pair (.kept rfl) (.literal _)) .equal))))
        (.cons (.intro .none (.log (.element rfl))) .nil)))

/-- The predicate moves the elements on, so what is removed is not what it accepted; the direct
list and the shielded one agree all the same. -/
theorem shielded_lists_follow_direct_ones_hunting :
    ∃ pace, Pace pace ∧ ∀ tick,
      let direct := hunting .direct directPrey
      let shielded := hunting .shielded shieldedPrey
      huntForms.Agree (huntForms.formAt direct tick) (direct.after tick)
        (shielded.after (pace tick)) := by
  have first : ∀ tick < 81,
      huntForms.isOrderly ((hunting .direct directPrey).after tick) = true := by decide +kernel
  have finished : ((hunting .direct directPrey).after 80).moment.machine.isFinished = true := by
    decide +kernel
  have ended : ((hunting .direct directPrey).after 80).script = [] := by
    have empty : ((hunting .direct directPrey).after 80).script.isEmpty = true := by
      decide +kernel
    exact List.isEmpty_iff.mp empty
  have orderly (tick : Nat) :
      huntForms.isOrderly ((hunting .direct directPrey).after tick) = true := by
    rcases Nat.lt_or_ge tick 80 with before | beyond
    · exact first tick (Nat.lt_succ_of_lt before)
    · obtain ⟨further, rfl⟩ := Nat.exists_eq_add_of_le beyond
      rw [Play.after_of_ended finished ended]
      exact first 80 (Nat.lt_succ_self 80)
  exact shielded_lists_follow_direct_ones (.start false) rfl (.start false) "make"
    (.literal (.text "L")) rfl rfl hunts_correspond orderly

end Observables
