import Observables.Proofs.Bystander
import Observables.Proofs.Chain
import Observables.Proofs.Refinement

/-!
# Containers do not interfere

Several containers live side by side, and their scripts take turns in any
order at the outermost level. Each script keeps to the estate of its container.
Then every container fares as if the others were not there: its actions come
to the same and make the same visible, it holds the same under the same keys,
and the same teardowns wait for these keys. Only the numbers of subscriptions
and the number of keys with teardowns are shared, so nobody may keep them: a
script that does so can find out about the others.
-/

namespace Observables

open Script

namespace Session

/-- The machine without anything to do on which the next action is performed. -/
def idle (session : Session) : Machine :=
  ⟨{ session.world with journal := session.world.journal.clear }, session.locals, [],
    .resume (.value .null)⟩

/-- Some script leaves the session behind. -/
def IsReached (session : Session) : Prop :=
  ∃ moment : Moment, moment.IsReached ∧ moment.machine.isFinished = true ∧
    moment.session = session

/-- An action that ends in the allowed steps leaves a session behind. -/
theorem IsReached.perform {session : Session} (reached : session.IsReached) {steps : Nat}
    {action : Action} (ends : ((session.idle.perform action).run steps).isFinished = true) :
    (session.perform steps action).1.IsReached := by
  obtain ⟨moment, before, finished, rfl⟩ := reached
  exact Moment.session_perform before finished steps action ends

/-- Between actions no key is open. -/
theorem IsReached.rests {session : Session} (reached : session.IsReached) :
    session.world.entered = [] ∧ ∀ realm, (session.world.realm realm).active = [] := by
  obtain ⟨moment, before, finished, rfl⟩ := reached
  have scopes := before.scopes
  rw [Machine.stack_eq_nil finished] at scopes
  exact ⟨scopes.entered, scopes.active⟩

end Session

/-- Every one of the next steps of a machine keeps to the estate. -/
def Estate.watchesAll (estate : Estate) (discreet : Bool) (machine : Machine) : Nat → Bool
  | 0 => true
  | steps + 1 => machine.isFinished ||
      estate.watches discreet machine && estate.watchesAll discreet machine.step steps

namespace Twin

/-- Two sessions have in common what concerns the container. -/
def Alike (twin : Twin) (left right : Session) : Prop :=
  ∃ bond, twin.Lasting bond left.world right.world ∧ twin.Locals left.locals right.locals

end Twin

/-- What a report says of an action, without the numbers that containers share. -/
def Report.veiled (action : Action) (report : Report) : Option Reply × List Event :=
  (report.outcome.map fun reply => if action.isToken then reply.hidden else reply,
    report.events.map Event.veiled)

namespace Twin

variable {twin busy : Twin} {bond : Bond} {outer : Action}

/-- Machines that have the same to do still do so after any number of steps. -/
theorem Machines.run {left right : Machine} (machines : twin.Machines outer left right)
    {steps : Nat} (watched : twin.estate.watchesAll true left steps = true) :
    twin.Machines outer (left.run steps) (right.run steps) := by
  induction steps generalizing left right with
  | zero => exact machines
  | succ steps ih =>
    have finished := machines.isFinished
    unfold Machine.run
    rw [finished]
    split
    · exact machines
    · next busy =>
      unfold Estate.watchesAll at watched
      rw [Bool.not_eq_true _ |>.mp busy, Bool.false_or, Bool.and_eq_true] at watched
      exact ih (machines.step watched.1) watched.2

/-- What finished machines came to is the same, but for shared numbers, and so is what has become
visible. -/
theorem Machines.report {left right : Machine} (machines : twin.Machines outer left right)
    (finished : left.isFinished = true) (view second : Option Document) :
    Report.veiled outer ⟨right.outcome?, right.world.journal.events, second⟩ =
      Report.veiled outer ⟨left.outcome?, left.world.journal.events, view⟩ := by
  have same := machines.isFinished.trans finished
  obtain ⟨bond, stands, flows⟩ := machines
  have empty := Machine.stack_eq_nil finished
  rcases left with ⟨world, locals, stack, focus⟩
  rcases right with ⟨other, others, frames, after⟩
  unfold Report.veiled Machine.outcome? Journal.events
  rw [finished, same, List.map_reverse, List.map_reverse, stands.worlds.told]
  cases flows with
  | same => rfl
  | numbers told hidden unkept =>
    obtain rfl : stack = [] := empty
    have token : outer.isToken = true := unkept
    rw [if_pos rfl, if_pos rfl, Option.map_some, Option.map_some, token, if_pos rfl, if_pos rfl,
      Reply.hidden_of_not_mem told, Reply.hidden_of_not_mem hidden]

/-- The session that two machines leave behind has the same in common. -/
theorem Machines.session {left right : Machine} (machines : twin.Machines outer left right)
    (finished : left.isFinished = true) :
    twin.Alike ⟨left.world, Session.keep left.locals outer left.focus⟩
      ⟨right.world, Session.keep right.locals outer right.focus⟩ := by
  obtain ⟨bond, stands, flows⟩ := machines
  refine ⟨bond, stands.worlds.toLasting, ?_⟩
  have empty := Machine.stack_eq_nil finished
  rcases left with ⟨world, locals, stack, focus⟩
  rcases right with ⟨other, others, frames, after⟩
  cases flows with
  | same focus => exact stands.locals.keep outer focus
  | numbers told hidden unkept =>
    obtain rfl : stack = [] := empty
    have token : outer.isToken = true := unkept
    obtain ⟨_, unkept⟩ := Bool.and_eq_true_iff.mp token
    unfold Session.keep
    rw [Option.isNone_iff_eq_none.mp unkept]
    exact stands.locals

/-- When the next action is performed the two runs have the same in common. -/
theorem Lasting.idle {left right : Session} (lasting : twin.Lasting bond left.world right.world)
    (one : left.IsReached) (two : right.IsReached) :
    twin.Worlds bond left.idle.world right.idle.world := by
  obtain ⟨entered, active⟩ := one.rests
  obtain ⟨none, closed⟩ := two.rests
  exact { lasting with
    entered := none.trans entered.symm
    active := fun realm => (closed realm).trans (active realm).symm
    owned := fun realm key inside => by
      rw [show left.idle.world.realm realm = left.world.realm realm from rfl, active] at inside
      cases inside
    told := rfl }

/-- The container's own actions come to the same, and afterwards the two runs still have the same
in common. -/
theorem Alike.perform {left right : Session} (alike : twin.Alike left right)
    (one : left.IsReached) (two : right.IsReached) {steps : Nat} {action : Action}
    (allows : twin.estate.allows true left.idle action = true)
    (watched : twin.estate.watchesAll true (left.idle.perform action) steps = true)
    (ends : ((left.idle.perform action).run steps).isFinished = true) :
    (right.perform steps action).2.veiled action = (left.perform steps action).2.veiled action ∧
      twin.Alike (left.perform steps action).1 (right.perform steps action).1 ∧
      (right.perform steps action).1.IsReached := by
  obtain ⟨bond, lasting, locals⟩ := alike
  have stands : twin.Stands bond left.idle right.idle := ⟨lasting.idle one two, locals, .nil⟩
  have begun : twin.Machines action (left.idle.perform action) (right.idle.perform action) :=
    stands.carryOut_corresponds allows id
  have machines := begun.run watched
  exact ⟨machines.report ends _ _, machines.session ends,
    two.perform (machines.isFinished.trans ends)⟩

/-- Variables that are read for one container are not written for another one. -/
theorem not_written {name : String} (apart : busy.estate.Apart twin.estate)
    (reads : twin.estate.reads name = true) : busy.estate.written name = false := by
  by_contra written
  rw [Bool.not_eq_false] at written
  cases (apart.written name written).symm.trans reads

/-- What the scripts of another container write is not read. -/
theorem Locals.beside {right : Variables} {before after : Machine}
    (locals : twin.Locals before.ground right) (apart : busy.estate.Apart twin.estate)
    (minds : busy.estate.Minds before after) : twin.Locals after.ground right :=
  fun name reads => (locals name reads).trans (minds.ground name (not_written apart reads)).symm

/-- What is kept of an action of another container is not read. -/
theorem Locals.kept {left right : Variables} (locals : twin.Locals left right)
    (apart : busy.estate.Apart twin.estate) {action : Action}
    (own : action.result.all busy.estate.written = true) (focus : Focus) :
    twin.Locals (Session.keep left action focus) right := by
  unfold Session.keep
  cases focus with
  | unwind failure => exact locals
  | resume reply =>
    cases result : action.result with
    | none => exact locals
    | some kept =>
      rw [result] at own
      intro name reads
      have other := Estate.ne_of_owned own (not_written apart reads)
      exact (locals name reads).trans
        ((Directory.find?_insert _ _ _ _).trans (if_neg other)).symm

/-- Results of actions that have begun are kept in the estate. -/
theorem Stands.kept {left right : Machine} (stands : twin.Stands bond left right) :
    ∀ action, .finish action ∈ left.stack → action.result.all twin.estate.written = true := by
  let keeps (frame : Frame) : Prop := ∀ action, frame = .finish action →
    action.result.all twin.estate.written = true
  have each : ∀ frame other, twin.Frames bond frame other → keeps frame := by
    rintro frame other same action rfl
    cases same with
    | free free => cases free
    | finish own => exact own
  have all : ∀ frame ∈ left.stack, keeps frame :=
    ((List.forall₂_and_left _ _).mp
      (stands.stack.imp fun frame other same => ⟨each frame other same, same⟩)).1
  exact fun action inside => all _ inside action rfl

section

variable {right : World} {others : Variables} {moment : Moment} {alone : Machine}

/-- What a container has in company and alone lasts when a script of another one takes a step. -/
theorem Lasting.step (lasting : twin.Lasting bond moment.world right)
    (locals : twin.Locals moment.machine.ground others) (reached : moment.IsReached)
    (machines : busy.Machines outer moment.machine alone)
    (watched : busy.estate.watches true moment.machine = true)
    (apart : twin.estate.Apart busy.estate) (away : busy.estate.Apart twin.estate)
    (unfinished : moment.machine.isFinished = false) :
    twin.Lasting bond moment.step.world right ∧
      twin.Locals moment.step.machine.ground others := by
  obtain ⟨theirs, stands, _⟩ := machines
  have minds : busy.estate.Minds moment.machine moment.step.machine :=
    Estate.minds_step watched stands.kept
  obtain ⟨frame, rest, top⟩ := Machine.exists_frame unfinished
  obtain ⟨put, _, turn⟩ := Machine.step_turns top
  have later : moment.step.IsReached := reached.leads (.single (.step unfinished))
  exact ⟨lasting.beside stands.worlds.toLasting reached.held.sound later.held.sound
    reached.numbered apart (stands.does_step watched) minds turn, locals.beside away minds⟩

/-- What a container has in company and alone lasts while a script of another one runs. -/
theorem Lasting.run (lasting : twin.Lasting bond moment.world right)
    (locals : twin.Locals moment.machine.ground others) (reached : moment.IsReached)
    (machines : busy.Machines outer moment.machine alone) {steps : Nat}
    (watched : busy.estate.watchesAll true moment.machine steps = true)
    (apart : twin.estate.Apart busy.estate) (away : busy.estate.Apart twin.estate) :
    twin.Lasting bond (moment.machine.run steps).world right ∧
      twin.Locals (moment.machine.run steps).ground others := by
  induction steps generalizing moment alone with
  | zero => exact ⟨lasting, locals⟩
  | succ steps ih =>
    unfold Machine.run
    split
    · exact ⟨lasting, locals⟩
    · next unfinished =>
      have unfinished := Bool.not_eq_true _ |>.mp unfinished
      unfold Estate.watchesAll at watched
      rw [unfinished, Bool.false_or, Bool.and_eq_true] at watched
      obtain ⟨first, further⟩ := watched
      obtain ⟨lasts, agrees⟩ :=
        lasting.step locals reached machines first apart away unfinished
      exact ih lasts agrees (reached.leads (.single (.step unfinished))) (machines.step first)
        further

end

/-- What a container has in company and alone lasts when a script of another one performs an
action. -/
theorem Alike.beside {left right alone : Session} (alike : twin.Alike left right)
    (other : busy.Alike left alone) (one : left.IsReached) (two : alone.IsReached) {steps : Nat}
    {action : Action} (apart : twin.estate.Apart busy.estate)
    (away : busy.estate.Apart twin.estate)
    (allows : busy.estate.allows true left.idle action = true)
    (watched : busy.estate.watchesAll true (left.idle.perform action) steps = true)
    (ends : ((left.idle.perform action).run steps).isFinished = true) :
    twin.Alike (left.perform steps action).1 right := by
  obtain ⟨bond, lasting, locals⟩ := alike
  obtain ⟨theirs, their, same⟩ := other
  obtain ⟨admits, _⟩ := Bool.and_eq_true_iff.mp allows
  have stands : busy.Stands theirs left.idle alone.idle := ⟨their.idle one two, same, .nil⟩
  have begun : busy.Machines action (left.idle.perform action) (alone.idle.perform action) :=
    stands.carryOut_corresponds allows id
  have minds : busy.estate.Minds left.idle (left.idle.perform action) :=
    Estate.minds_perform admits
  obtain ⟨moment, reached, finished, rfl⟩ := one
  have started := reached.begin finished action
  have quiet : moment.world.Alike moment.idle.world := .of_eq rfl rfl rfl rfl rfl rfl
  obtain ⟨put, _, turn⟩ := Machine.perform_turns moment.idle rfl action
  have idle : twin.Lasting bond moment.idle.world right.world := { lasting with }
  have lasts : twin.Lasting bond (moment.begin action).world right.world :=
    idle.beside stands.worlds.toLasting (reached.held.sound.alike quiet) started.held.sound
      (reached.numbered.alike quiet) apart (stands.does_action admits) minds turn
  have same : twin.Locals moment.idle.ground right.locals := locals
  have agrees : twin.Locals (moment.begin action).machine.ground right.locals :=
    same.beside away minds
  obtain ⟨still, agreeing⟩ := lasts.run agrees started begun watched apart away
  have own := busy.estate.keeps_result admits
  have empty : ((moment.begin action).machine.run steps).stack = [] := Machine.stack_eq_nil ends
  unfold Machine.ground at agreeing
  rw [empty] at agreeing
  exact ⟨bond, still, agreeing.kept away own _⟩

end Twin

/-- An action that a script of one of several containers performs at the outermost level. -/
structure Errand (Owner : Type) where
  /-- The container whose script it is. -/
  owner : Owner
  /-- The action. -/
  action : Action

/-- What reports say of several errands, with the owners, but without the numbers that
containers share. -/
def Session.accounts {Owner : Type} (session : Session) (steps : Nat)
    (errands : List (Errand Owner)) : List (Owner × Option Reply × List Event) :=
  List.zipWith (fun errand report => (errand.owner, report.veiled errand.action)) errands
    (session.performAll steps (errands.map (·.action)))

/-- Several containers side by side that have nothing in common. -/
structure Company (Owner : Type) where
  /-- Each container in company and alone. -/
  twin : Owner → Twin
  /-- No two of them have anything in common. -/
  apart : ∀ one other, one ≠ other → (twin one).estate.Apart (twin other).estate

namespace Company

variable {Owner : Type} (company : Company Owner)

/-- Every errand ends in the allowed steps, and all that it begins keeps to the estate of its
owner. If discretion is asked for, nobody keeps the numbers that containers share. -/
def keeps (discreet : Bool) (session : Session) (steps : Nat) : List (Errand Owner) → Bool
  | [] => true
  | errand :: errands =>
    let estate := (company.twin errand.owner).estate
    let machine := session.idle.perform errand.action
    estate.allows discreet session.idle errand.action &&
      estate.watchesAll discreet machine steps && (machine.run steps).isFinished &&
      keeps discreet (session.perform steps errand.action).1 steps errands

/-- Every container has the same in company and alone, between the actions of scripts. -/
structure Alike (crowd : Session) (alone : Owner → Session) : Prop where
  /-- Some script has led to the company. -/
  together : crowd.IsReached
  /-- Some script has led to each of the containers when it is alone. -/
  apart : ∀ owner, (alone owner).IsReached
  /-- What concerns a container is the same in company and alone. -/
  alike : ∀ owner, (company.twin owner).Alike crowd (alone owner)

variable {company} [DecidableEq Owner]

/-- An errand comes to the same in company and alone. For the other containers it is as if it had
not been. -/
theorem Alike.perform {crowd : Session} {alone : Owner → Session}
    (alike : company.Alike crowd alone) {steps : Nat} {errand : Errand Owner}
    (allows : (company.twin errand.owner).estate.allows true crowd.idle errand.action = true)
    (watched : (company.twin errand.owner).estate.watchesAll true
      (crowd.idle.perform errand.action) steps = true)
    (ends : ((crowd.idle.perform errand.action).run steps).isFinished = true) :
    ((alone errand.owner).perform steps errand.action).2.veiled errand.action =
        (crowd.perform steps errand.action).2.veiled errand.action ∧
      company.Alike (crowd.perform steps errand.action).1
        (Function.update alone errand.owner
          ((alone errand.owner).perform steps errand.action).1) := by
  obtain ⟨report, still, reached⟩ := (alike.alike errand.owner).perform alike.together
    (alike.apart errand.owner) allows watched ends
  refine ⟨report, alike.together.perform ends, fun owner => ?_, fun owner => ?_⟩
  · by_cases same : owner = errand.owner
    · subst same
      rw [Function.update_self]
      exact reached
    · rw [Function.update_of_ne same]
      exact alike.apart owner
  · by_cases same : owner = errand.owner
    · subst same
      rw [Function.update_self]
      exact still
    · rw [Function.update_of_ne same]
      exact (alike.alike owner).beside (alike.alike errand.owner) alike.together
        (alike.apart errand.owner) (company.apart _ _ same) (company.apart _ _ (Ne.symm same))
        allows watched ends

/-- What an errand leaves behind when its owner is alone is where the next ones go on. -/
theorem after_update (alone : Owner → Session) (steps : Nat) (errand : Errand Owner)
    (errands : List (Errand Owner)) (owner : Owner) :
    (Function.update alone errand.owner
        ((alone errand.owner).perform steps errand.action).1 owner).after steps
      ((errands.filter (·.owner = owner)).map (·.action)) =
      (alone owner).after steps
        (((errand :: errands).filter (·.owner = owner)).map (·.action)) := by
  by_cases same : errand.owner = owner
  · subst same
    have kept : (errand :: errands).filter (fun other => other.owner = errand.owner) =
        errand :: errands.filter fun other => other.owner = errand.owner :=
      List.filter_cons_of_pos (decide_eq_true rfl)
    rw [Function.update_self, kept]
    rfl
  · rw [Function.update_of_ne (Ne.symm same), List.filter_cons_of_neg (by simpa using same)]

/-- Errands come to the same in company and alone. -/
theorem Alike.performAll {crowd : Session} {alone : Owner → Session}
    (alike : company.Alike crowd alone) {steps : Nat} {errands : List (Errand Owner)}
    (keeps : company.keeps true crowd steps errands = true) :
    (∀ owner, (crowd.accounts steps errands).filter (·.1 = owner) =
        (alone owner).accounts steps (errands.filter (·.owner = owner))) ∧
      company.Alike (crowd.after steps (errands.map (·.action))) fun owner =>
        (alone owner).after steps ((errands.filter (·.owner = owner)).map (·.action)) := by
  induction errands generalizing crowd alone with
  | nil => exact ⟨fun _ => rfl, alike⟩
  | cons errand errands ih =>
    simp only [Company.keeps, Bool.and_eq_true] at keeps
    obtain ⟨⟨⟨allows, watched⟩, ends⟩, further⟩ := keeps
    obtain ⟨report, next⟩ := alike.perform allows watched ends
    obtain ⟨accounts, later⟩ := ih next further
    refine ⟨fun owner => ?_, ?_⟩
    · have rest := accounts owner
      have first : crowd.accounts steps (errand :: errands) =
          (errand.owner, (crowd.perform steps errand.action).2.veiled errand.action) ::
            (crowd.perform steps errand.action).1.accounts steps errands := rfl
      rw [first, List.filter_cons, List.filter_cons]
      by_cases same : errand.owner = owner
      · subst same
        rw [Function.update_self] at rest
        rw [if_pos (decide_eq_true rfl), if_pos (decide_eq_true rfl), rest, ← report]
        rfl
      · rw [Function.update_of_ne (Ne.symm same)] at rest
        rw [if_neg (by simpa using same), if_neg (by simpa using same), rest]
    · have settled := funext fun owner => after_update alone steps errand errands owner
      rw [← settled]
      exact later

end Company

/-- A container has just been made in company and alone. Nobody has subscribed or bound anything
yet, and there are no handles. -/
structure Twin.Fresh (twin : Twin) (left right : Moment) : Prop where
  /-- Nobody has subscribed. -/
  silent : enrolled left.history = [] ∧ enrolled right.history = []
  /-- There are no handles. -/
  blank : left.world.handles = {} ∧ right.world.handles = {}
  /-- No teardowns wait in the realm. -/
  vacant : (left.world.realm twin.realm).teardowns = {} ∧
    (right.world.realm twin.realm).teardowns = {}
  /-- The container belongs to the realm. -/
  realm : left.world.realmOf twin.estate.container = twin.realm
  /-- The container is the same in both runs. -/
  bare : (right.world.container twin.other).bare =
    (left.world.container twin.estate.container).bare
  /-- It is a cell, or the list of the number. -/
  number : (left.world.container twin.estate.container).contents.number? = twin.number
  /-- Its names lead to it. -/
  names : ∀ name, twin.estate.names name = true →
    left.world.names.find? name = some twin.estate.container ∧
      right.world.names.find? name = some twin.other
  /-- It has a name. -/
  named : ∃ name, twin.estate.names name = true
  /-- Realms have the same names. -/
  realmNames : right.world.realmNames = left.world.realmNames
  /-- Realms have the same labels. -/
  labels : ∀ realm, (right.world.realm realm).label = (left.world.realm realm).label
  /-- Limited bodies have been arrived at as often. -/
  arrivals : right.world.arrivals = left.world.arrivals
  /-- Both or none are traced. -/
  tracing : right.world.journal.tracing = left.world.journal.tracing
  /-- Variables have the same values. -/
  locals : right.session.locals = left.session.locals

/-- Where nobody has subscribed no registry has entries. -/
theorem World.Enrolled.entries_eq_nil {world : World} {history : List Deed}
    (enrolment : world.Enrolled history) (silent : enrolled history = [])
    (container : ContainerRef) (channel : Channel) :
    ((world.container container).registry channel).entries = [] := by
  rw [enrolment.entries container channel, registered, silent]
  rfl

/-- A container that has just been made has the same in company and alone. -/
theorem Twin.Fresh.alike {twin : Twin} {left right : Moment} (fresh : twin.Fresh left right)
    (one : left.IsReached) (two : right.IsReached) : twin.Alike left.session right.session := by
  obtain ⟨name, own⟩ := fresh.named
  obtain ⟨here, there⟩ := fresh.names name own
  have first := one.enrolled.entries_eq_nil fresh.silent.1
  have second := two.enrolled.entries_eq_nil fresh.silent.2
  have belongs : right.world.realmOf twin.other = twin.realm :=
    (Container.bare_eq.mp fresh.bare).1.trans fresh.realm
  refine ⟨[], ?_, fun asked _ => by rw [fresh.locals]⟩
  exact {
    entries := fun channel => by
      show List.Forall₂ _ ((left.world.container _).registry channel).entries
        ((right.world.container _).registry channel).entries
      rw [first, second]
      exact .nil
    callbacks := fun pair inside => absurd inside List.not_mem_nil
    ids := fun pair inside => absurd inside List.not_mem_nil
    rows := fun pair inside => absurd inside List.not_mem_nil
    drawn := fun pair inside => absurd inside List.not_mem_nil
    apart := fun container _ channel entry inside => by
      have empty : entry ∈ ((left.world.container container).registry channel).entries := inside
      rw [first] at empty
      exact absurd empty List.not_mem_nil
    here := one.held.sound.names name _ here
    there := two.held.sound.names name _ there
    realmHere := Nat.lt_of_le_of_lt (Nat.le_of_eq fresh.realm.symm) (one.held.sound.realmOf _)
    realmThere := Nat.lt_of_le_of_lt (Nat.le_of_eq belongs.symm) (two.held.sound.realmOf _)
    realm := fresh.realm
    bare := fresh.bare
    numbered := ⟨fresh.number, one.numbered.proper _⟩
    names := fresh.names
    named := fresh.named
    realmNames := fresh.realmNames
    labels := fresh.labels
    teardowns := fun key _ => by
      show Option.Rel _ ((left.world.realm twin.realm).teardowns.find? key)
        ((right.world.realm twin.realm).teardowns.find? key)
      rw [fresh.vacant.1, fresh.vacant.2]
      exact .none
    handles := fun asked _ => by
      show Option.Rel _ (left.world.handles.find? asked) (right.world.handles.find? asked)
      rw [fresh.blank.1, fresh.blank.2]
      exact .none
    arrivals := fun asked _ => congrArg (Directory.find? · asked) fresh.arrivals
    tracing := fresh.tracing }

/-- Several containers live side by side and their scripts take turns in any order. If the scripts
keep to the estates of their containers and nobody keeps the numbers that containers share then
each container fares as if it were alone: its errands come to the same and make the same visible,
but for these numbers, it holds the same under the same keys, the same teardowns wait for these
keys, and whatever comes next finds the same again. -/
theorem containers_do_not_interfere {Owner : Type} [DecidableEq Owner] {company : Company Owner}
    {crowd : Session} {alone : Owner → Session} (alike : company.Alike crowd alone) {steps : Nat}
    {errands : List (Errand Owner)} (keeps : company.keeps true crowd steps errands = true)
    (owner : Owner) :
    let twin := company.twin owner
    let own := errands.filter (·.owner = owner)
    let later := crowd.after steps (errands.map (·.action))
    let after := (alone owner).after steps (own.map (·.action))
    (crowd.accounts steps errands).filter (·.1 = owner) = (alone owner).accounts steps own ∧
      (after.world.container twin.other).contents =
        (later.world.container twin.estate.container).contents ∧
      (∀ key, twin.number = some key.container → List.Forall₂ twin.Callbacks
        ((later.world.realm twin.realm).teardowns.pending key)
        ((after.world.realm twin.realm).teardowns.pending key)) ∧
      twin.Alike later after := by
  intro twin own later after
  obtain ⟨accounts, still⟩ := alike.performAll keeps
  have same : twin.Alike later after := still.alike owner
  refine ⟨accounts owner, ?_, fun key number => ?_, same⟩
  · obtain ⟨bond, lasting, _⟩ := same
    exact (Container.bare_eq.mp lasting.bare).2.2.1
  · obtain ⟨bond, lasting, _⟩ := same
    exact lasting.pending number

/-- The cell C, with a variable and a handle of its own. -/
def cellTwin : Twin where
  estate := ⟨0, (· == "C"), (· == "kept"), (· == "kept"), fun _ => false, (· == "c")⟩
  other := 0
  realm := 0
  number := none

/-- The list L, with a handle of its own. In company it is the second container. -/
def listTwin : Twin where
  estate := ⟨1, (· == "L"), (· == "item"), fun _ => false, fun _ => false, (· == "l")⟩
  other := 0
  realm := 0
  number := some 0

/-- The cell C and the list L side by side. -/
def cellAndList : Company Bool where
  twin isList := bif isList then listTwin else cellTwin
  apart one other differ := by
    cases one <;> cases other
    · exact absurd rfl differ
    · refine ⟨by decide, fun name own => ?_, fun name own => ?_, fun name own => ?_⟩
      · cases eq_of_beq own
        rfl
      · cases own
      · cases eq_of_beq own
        rfl
    · refine ⟨by decide, fun name own => ?_, fun name own => ?_, fun name own => ?_⟩
      · cases own
      · cases own
      · cases eq_of_beq own
        rfl
    · exact absurd rfl differ

/-- Both have been made. -/
def bothMade : Moment := ((Moment.start false).begin cellMade).begin (emptyMade "L" none)

/-- One of them has been made. -/
def oneMade (isList : Bool) : Moment :=
  (Moment.start false).begin (bif isList then emptyMade "L" none else cellMade)

/-- The cell and the list have the same in company and alone when they have been made. -/
theorem cellAndList_alike :
    cellAndList.Alike bothMade.session fun isList => (oneMade isList).session := by
  have both : bothMade.IsReached :=
    ((Moment.IsReached.start false).begin rfl cellMade).begin rfl (emptyMade "L" none)
  have one (isList : Bool) : (oneMade isList).IsReached :=
    (Moment.IsReached.start false).begin rfl _
  have labels (isList : Bool) (realm : RealmRef) :
      ((oneMade isList).world.realm realm).label = (bothMade.world.realm realm).label := by
    cases realm with
    | zero => cases isList <;> rfl
    | succ realm => cases isList <;> rfl
  refine ⟨⟨bothMade, both, rfl, rfl⟩, fun isList => ⟨_, one isList, ?_, rfl⟩, fun isList => ?_⟩
  · cases isList <;> rfl
  · refine Twin.Fresh.alike ?_ both (one isList)
    have named : ∃ name, (cellAndList.twin isList).estate.names name = true := by
      cases isList with
      | false => exact ⟨"C", rfl⟩
      | true => exact ⟨"L", rfl⟩
    have alike := labels isList
    cases isList <;> exact {
      silent := ⟨rfl, rfl⟩, blank := ⟨rfl, rfl⟩, vacant := ⟨rfl, rfl⟩, realm := rfl, bare := rfl
      number := rfl
      names := fun name own => by
        cases eq_of_beq own
        exact ⟨rfl, rfl⟩
      named := named, realmNames := rfl, labels := alike, arrivals := rfl, tracing := rfl
      locals := rfl }

/-- An action that adds the item that a body was given to the list L. -/
def itemReturned : Action :=
  ⟨"push", none, some (.literal (.text "L")), .operate (.push (.variable "item"))⟩

/-- The errands of both take turns. A subscriber of the list binds a teardown to what is added,
which adds the element again when it is removed. -/
def turns : List (Errand Bool) :=
  [⟨true, subscribing "L" "l" (some .added)
      [⟨"register", none, none, .register none (.literal (.text "t")) .direct [itemReturned]⟩]⟩,
    ⟨false, subscribing "C" "c" none []⟩, ⟨true, elementPushed "L"⟩, ⟨false, numberStored 5⟩,
    ⟨true, ⟨"pop", none, some (.literal (.text "L")), .operate .pop⟩⟩]

/-- The cell and the list fare as if they were alone, although the subscription of the cell has
another number then. -/
theorem containers_do_not_interfere_turns :
    cellAndList.keeps true bothMade.session 40 turns = true ∧
      (bothMade.session.accounts 40 turns).filter (·.1 = false) =
        (oneMade false).session.accounts 40 (turns.filter (·.owner = false)) ∧
      (bothMade.session.accounts 40 turns).filter (·.1 = true) =
        (oneMade true).session.accounts 40 (turns.filter (·.owner = true)) := by
  have keeps : cellAndList.keeps true bothMade.session 40 turns = true := by decide +kernel
  obtain ⟨cell, _⟩ := containers_do_not_interfere cellAndList_alike keeps false
  obtain ⟨list, _⟩ := containers_do_not_interfere cellAndList_alike keeps true
  exact ⟨keeps, cell, list⟩

/-- After the list has been subscribed to, the number of a subscription of the cell is kept and
stored. -/
def numberUsed : List (Errand Bool) :=
  [⟨true, subscribing "L" "l" (some .change) []⟩,
    ⟨false, ⟨"subscribe", some "kept", some (.literal (.text "C")),
      .operate (.subscribe (.literal (.text "c")) none [])⟩⟩,
    ⟨false, ⟨"set", none, some (.literal (.text "C")), .operate (.set [] (.variable "kept"))⟩⟩]

/-- Containers interfere if numbers of subscriptions are kept: whoever stores such a number stores
another one when the container is alone. -/
theorem kept_numbers_interfere :
    ¬ ∀ (company : Company Bool) (crowd : Session) (alone : Bool → Session) (steps : Nat)
      (errands : List (Errand Bool)), company.Alike crowd alone →
      company.keeps false crowd steps errands = true → ∀ owner,
      let own := errands.filter (·.owner = owner)
      (((alone owner).after steps (own.map (·.action))).world.container
          (company.twin owner).other).contents =
        ((crowd.after steps (errands.map (·.action))).world.container
          (company.twin owner).estate.container).contents := by
  intro always
  have same := always cellAndList bothMade.session _ 30 numberUsed cellAndList_alike
    (by decide +kernel) false
  have alone : (((oneMade false).session.after 30
      ((numberUsed.filter (·.owner = false)).map (·.action))).world.container 0).contents =
    .cell (.int 0) := rfl
  have together : ((bothMade.session.after 30
      (numberUsed.map (·.action))).world.container 0).contents = .cell (.int 1) := rfl
  cases alone.symm.trans (same.trans together)

end Observables
