import Observables.Proofs.Effect

/-!
# What a machine retains

Most steps leave alone what is kept under names: containers, realms, handles
and counts of arrivals. They also leave alone the variables of the outermost
level, which a call puts aside and a return takes up again. Only a few
commands and the end of an action do more.
-/

namespace Observables

open Script

/-- Tracing an event does not turn the trace on or off. -/
theorem Journal.tracing_trace (journal : Journal) (event : TraceEvent) :
    (journal.trace event).tracing = journal.tracing := by
  unfold Journal.trace
  split
  · rfl
  · rfl

/-- Tracing several events does not turn the trace on or off. -/
theorem Journal.tracing_traceAll (journal : Journal) (events : List TraceEvent) :
    (journal.traceAll events).tracing = journal.tracing := by
  induction events generalizing journal with
  | nil => rfl
  | cons event events ih => exact (ih (journal.trace event)).trans (journal.tracing_trace event)

/-- What is kept under names is the same, and so is the wish for a trace. -/
structure World.Retains (world other : World) : Prop where
  /-- The names of containers are the same. -/
  names : other.names = world.names
  /-- The names of realms are the same. -/
  realmNames : other.realmNames = world.realmNames
  /-- The handles are the same. -/
  handles : other.handles = world.handles
  /-- The counts of arrivals are the same. -/
  arrivals : other.arrivals = world.arrivals
  /-- The trace is wanted or not as before. -/
  tracing : other.journal.tracing = world.journal.tracing

namespace World.Retains

variable {world other : World}

/-- A world that does not change retains what it has. -/
theorem refl (world : World) : world.Retains world := ⟨rfl, rfl, rfl, rfl, rfl⟩

/-- An event of the trace changes nothing else. -/
theorem trace (retains : world.Retains other) (event : TraceEvent) :
    world.Retains (other.trace event) :=
  { retains with tracing := (other.journal.tracing_trace event).trans retains.tracing }

/-- Several events of the trace change nothing else. -/
theorem traceAll (retains : world.Retains other) (events : List TraceEvent) :
    world.Retains (other.traceAll events) :=
  { retains with tracing := (other.journal.tracing_traceAll events).trans retains.tracing }

/-- Realms have no part in what is kept under names. -/
theorem modifyRealm (retains : world.Retains other) (realm : RealmRef)
    (change : Realm → Realm) : world.Retains (other.modifyRealm realm change) :=
  ⟨retains.names, retains.realmNames, retains.handles, retains.arrivals, retains.tracing⟩

/-- Containers have no part in what is kept under names. -/
theorem modifyContainer (retains : world.Retains other) (container : ContainerRef)
    (change : Container → Container) : world.Retains (other.modifyContainer container change) :=
  ⟨retains.names, retains.realmNames, retains.handles, retains.arrivals, retains.tracing⟩

/-- What is retained twice is retained. -/
theorem trans {last : World} (first : world.Retains other) (second : other.Retains last) :
    world.Retains last :=
  ⟨second.names.trans first.names, second.realmNames.trans first.realmNames,
    second.handles.trans first.handles, second.arrivals.trans first.arrivals,
    second.tracing.trans first.tracing⟩

end World.Retains

/-- The variables that are taken up again when a frame is left. -/
def Frame.caller (locals : Variables) : Frame → Variables
  | .restore outer => outer
  | _ => locals

namespace Machine

/-- The variables of the outermost level, as they will be when all calls have returned. -/
def ground (machine : Machine) : Variables := machine.stack.foldl Frame.caller machine.locals

/-- A machine keeps what it has under names and at the outermost level. -/
structure Retains (before after : Machine) : Prop where
  /-- What is kept under names is the same. -/
  world : before.world.Retains after.world
  /-- The variables of the outermost level are the same. -/
  ground : after.ground = before.ground

/-- What is retained in two steps is retained. -/
theorem Retains.trans {first second third : Machine} (early : first.Retains second)
    (late : second.Retains third) : first.Retains third :=
  ⟨early.world.trans late.world, late.ground.trans early.ground⟩

variable (machine : Machine)

/-- Frames that take up no variables leave the outermost level alone. -/
theorem retains_push {frames : List Frame}
    (quiet : frames.foldl Frame.caller machine.locals = machine.locals) :
    machine.Retains (machine.push frames) := by
  refine ⟨.refl _, ?_⟩
  unfold ground push
  rw [List.foldl_append]
  exact congrArg (machine.stack.foldl Frame.caller) quiet

theorem retains_call (callback : Callback) (event : Option Key → Event)
    (arguments : List (String × Value)) :
    machine.Retains (machine.call callback event arguments) := by
  refine ⟨⟨rfl, rfl, rfl, rfl, rfl⟩, ?_⟩
  unfold call guard
  cases callback.surface <;> rfl

theorem retains_invoke (surface : Surface) (arguments : List (String × Value))
    (body : List Action) (result : Expression) :
    machine.Retains (machine.invoke surface arguments body result) := by
  refine ⟨.refl _, ?_⟩
  unfold invoke edge
  cases surface <;> rfl

theorem retains_runTeardowns (realm : RealmRef) (key : Key) :
    machine.Retains (machine.runTeardowns realm key) := by
  unfold runTeardowns World.takeTeardowns
  cases (machine.world.realm realm).teardowns.find? key with
  | none => exact ⟨.refl _, rfl⟩
  | some waiting => exact ⟨((World.Retains.refl _).modifyRealm _ _).trace _, rfl⟩

variable (container : ContainerRef)

theorem retains_tell (notice : Notice) (callback : Callback) :
    machine.Retains (machine.tell container notice callback) := by
  cases notice with
  | changed | added | removed => exact machine.retains_call callback _ _

theorem retains_dispatch (notice : Notice) (waiting : List SubscriptionRef) :
    machine.Retains (machine.dispatch container notice waiting) := by
  cases waiting with
  | nil => exact ⟨.refl _, rfl⟩
  | cons subscription waiting =>
    unfold dispatch
    dsimp only
    split
    · exact ⟨.refl _, rfl⟩
    · exact (machine.retains_push rfl).trans (retains_tell _ container notice _)

theorem retains_teardown (realm : RealmRef) (key : Key) (waiting : List Callback) :
    machine.Retains (machine.teardown realm key waiting) := by
  cases waiting with
  | nil => exact ⟨.refl _, rfl⟩
  | cons callback waiting => exact (machine.retains_push rfl).trans (retains_call _ callback _ _)

theorem retains_discharge (realm : RealmRef) (keys : List Key) :
    machine.Retains (machine.discharge realm keys) := by
  cases keys with
  | nil => exact ⟨.refl _, rfl⟩
  | cons key keys => exact (machine.retains_push rfl).trans (retains_runTeardowns _ realm key)

theorem retains_settle (key : Key) : machine.Retains (machine.settle container key) := by
  unfold settle
  split
  · exact ⟨.refl _, rfl⟩
  · exact machine.retains_runTeardowns _ key

theorem retains_insertAt (position : Nat) (item : Value) :
    machine.Retains (machine.insertAt container position item) := by
  unfold insertAt
  split
  · exact ⟨.refl _, rfl⟩
  · exact ⟨((World.Retains.refl _).modifyContainer _ _).traceAll _, rfl⟩

theorem retains_removeAt (position : Nat) :
    machine.Retains (machine.removeAt container position) := by
  unfold removeAt
  split
  · exact ⟨.refl _, rfl⟩
  · dsimp only
    split
    · exact ⟨.refl _, rfl⟩
    · exact ⟨((World.Retains.refl _).modifyContainer _ _).traceAll _, rfl⟩

theorem retains_pop : machine.Retains (machine.pop container) := by
  unfold pop
  split
  · exact ⟨.refl _, rfl⟩
  · exact machine.retains_removeAt container _

theorem retains_search (position : Nat) (rest : List Value) (body : List Action)
    (test : Expression) :
    machine.Retains (machine.search container position rest body test) := by
  cases rest with
  | nil => exact ⟨.refl _, rfl⟩
  | cons item rest => exact (machine.retains_push rfl).trans (retains_invoke _ _ _ body test)

theorem retains_verdict (position : Nat) (rest : List Value) (body : List Action)
    (test : Expression) (answer : Value) :
    machine.Retains (machine.verdict container position rest body test answer) := by
  unfold verdict
  split
  · exact machine.retains_removeAt container position
  · exact machine.retains_search container _ rest body test

theorem retains_store (value : Value) : machine.Retains (machine.store container value) := by
  unfold store
  split
  · exact ⟨.refl _, rfl⟩
  · exact ⟨(World.Retains.refl _).modifyContainer _ _, rfl⟩

theorem retains_replace (value : Value) : machine.Retains (machine.replace container value) := by
  unfold replace
  dsimp only
  split
  · exact ⟨.refl _, rfl⟩
  · have rekeyed (count : Nat) :
        machine.world.Retains (machine.world.replaceKeys container count) :=
      ((World.Retains.refl _).modifyContainer _ _).traceAll _
    split
    · exact ⟨rekeyed _, rfl⟩
    · exact ⟨((rekeyed _).modifyContainer _ _).trace _, rfl⟩

theorem retains_borrow : machine.Retains (machine.withWorld (machine.world.borrow container)) :=
  ⟨(World.Retains.refl _).modifyContainer _ _, rfl⟩

theorem retains_set (body : List Action) (result : Expression) :
    machine.Retains (machine.set container body result) := by
  have target : (setterTarget container (machine.world.container container).contents).caller
      machine.locals = machine.locals := by
    cases (machine.world.container container).contents with
    | cell | list => rfl
  unfold set
  dsimp only
  refine Retains.trans ?_ (retains_invoke _ _ _ body result)
  split
  · exact (machine.retains_borrow container).trans (retains_push _ target)
  · exact machine.retains_push target

theorem retains_withBorrow (body : List Action) (result : Expression) :
    machine.Retains (machine.withBorrow container body result) :=
  ((machine.retains_borrow container).trans (retains_push _ rfl)).trans
    (retains_invoke _ _ _ body result)

end Machine

/-- A command changes nothing that is kept under names. -/
def Script.Command.leavesNames : Command (List Action) → Bool
  | .limit .. | .openRealm .. | .handle _ .forget | .makeCell .. | .makeList .. | .drop _ | .alias _
  | .operate (.subscribe ..) => false
  | _ => true

namespace Machine

variable (machine : Machine)

/-- Of the operations only a subscription keeps something under a name. -/
theorem retains_operate (container : ContainerRef) {operation : Operation (List Action)}
    (other : Command.leavesNames (.operate operation) = true) :
    machine.Retains (machine.operate container operation) := by
  have still (value : Value) : machine.Retains (machine.answer value) := ⟨.refl _, rfl⟩
  unfold operate
  cases operation with
  | subscribe => cases other
  | borrow body result => exact machine.retains_withBorrow container body result
  | set body result => exact machine.retains_set container body result
  | keyAt position =>
    dsimp only
    exact atPosition_elim (still _) fun _ _ => still _
  | positionOf key =>
    dsimp only
    split
    · exact ⟨.refl _, rfl⟩
    · exact ⟨.refl _, rfl⟩
  | push item => exact machine.retains_insertAt container _ _
  | insertAt position item =>
    dsimp only
    exact atPosition_elim (still _) fun _ _ => machine.retains_insertAt container _ _
  | pop => exact machine.retains_pop container
  | removeAt position =>
    dsimp only
    exact atPosition_elim (still _) fun _ _ => machine.retains_removeAt container _
  | findAndRemove body test => exact machine.retains_search container 0 _ body test
  | _ => exact ⟨.refl _, rfl⟩

/-- A command that leaves names alone keeps what is under them. -/
theorem retains_command (subject : String) {command : Command (List Action)}
    (plain : command.leavesNames = true) : machine.Retains (machine.command subject command) := by
  have still (value : Value) : machine.Retains (machine.answer value) := ⟨.refl _, rfl⟩
  unfold Machine.command
  cases command with
  | log => exact ⟨⟨rfl, rfl, rfl, rfl, rfl⟩, rfl⟩
  | evaluate | throw | branch | attempt => exact ⟨.refl _, rfl⟩
  | sameRealm left right =>
    dsimp only
    exact inRealm_elim (still _) fun _ _ => inRealm_elim (still _) fun _ _ => still _
  | realm name query =>
    dsimp only
    refine inRealm_elim (still _) fun realm _ => ?_
    unfold askRealm
    cases query with
    | nextSubscription | nextContainer => exact ⟨(World.Retains.refl _).modifyRealm _ _, rfl⟩
    | label | tracked | describe | activeKey => exact still _
  | pending name key =>
    dsimp only
    exact inRealm_elim (still _) fun _ _ => withKeyOf_elim (still _) fun _ _ => still _
  | runTeardowns name key =>
    dsimp only
    exact inRealm_elim (still _) fun realm _ => withKeyOf_elim (still _) fun key _ =>
      machine.retains_runTeardowns realm key
  | withKey name key body =>
    dsimp only
    exact inRealm_elim (still _) fun _ _ => withKeyOf_elim (still _) fun _ _ =>
      ⟨⟨rfl, rfl, rfl, rfl, rfl⟩, rfl⟩
  | register name tag surface body =>
    dsimp only
    refine inRealm_elim (still _) fun realm _ => ?_
    unfold World.register
    dsimp only
    split
    · exact ⟨(World.Retains.refl _).trace _, rfl⟩
    · exact ⟨((World.Retains.refl _).modifyRealm _ _).trace _, rfl⟩
  | handle handle query =>
    dsimp only
    unfold askHandle
    split
    · cases plain
    · exact still _
    · dsimp only
      split
      · exact ⟨⟨rfl, rfl, rfl, rfl, rfl⟩, rfl⟩
      · exact ⟨.refl _, rfl⟩
    · split <;> exact still _
    · split <;> exact still _
  | operate operation =>
    dsimp only
    exact operateOn_elim (still _) (still _) fun container _ _ =>
      (machine.retains_push rfl).trans (retains_operate _ container plain)
  | limit | openRealm | makeCell | makeList | drop | «alias» => cases plain

/-- Going on with a frame keeps what is under names, unless an action begins or ends. -/
theorem retains_resume (frame : Frame) (reply : Reply)
    (inside : ∀ action actions, frame ≠ .body (action :: actions))
    (unfinished : ∀ action, frame ≠ .finish action) :
    ({ machine with stack := frame :: machine.stack } : Machine).Retains
      (machine.resume frame reply) := by
  have dropped (same : frame.caller machine.locals = machine.locals) :
      ({ machine with stack := frame :: machine.stack } : Machine).Retains machine := by
    refine ⟨.refl _, ?_⟩
    exact congrArg (machine.stack.foldl Frame.caller) same.symm
  unfold resume
  cases frame with
  | body actions =>
    cases actions with
    | nil => exact ⟨.refl _, rfl⟩
    | cons action actions => exact absurd rfl (inside action actions)
  | finish action => exact absurd rfl (unfinished action)
  | scope => exact ⟨⟨rfl, rfl, rfl, rfl, rfl⟩, rfl⟩
  | borrowed => exact ⟨(World.Retains.refl _).modifyContainer _ _, rfl⟩
  | store container => exact (dropped rfl).trans (machine.retains_store container _)
  | replace container => exact (dropped rfl).trans (machine.retains_replace container _)
  | notify => exact ⟨(World.Retains.refl _).trace _, rfl⟩
  | dispatch container notice waiting =>
    exact (dropped rfl).trans (machine.retains_dispatch container notice waiting)
  | announce => exact ⟨⟨rfl, rfl, rfl, rfl, rfl⟩, rfl⟩
  | settle container key => exact (dropped rfl).trans (machine.retains_settle container key)
  | discharge realm keys => exact (dropped rfl).trans (machine.retains_discharge realm keys)
  | teardown realm key waiting =>
    exact (dropped rfl).trans (machine.retains_teardown realm key waiting)
  | search container position rest body test =>
    exact (dropped rfl).trans (machine.retains_search container position rest body test)
  | verdict container position rest body test =>
    exact (dropped rfl).trans (machine.retains_verdict container position rest body test _)
  | answer | yield | restore | attempt | shield | boundary | operating => exact ⟨.refl _, rfl⟩

/-- Leaving a frame because of a failure keeps what is under names. -/
theorem retains_unwind (frame : Frame) (failure : Failure) :
    ({ machine with stack := frame :: machine.stack } : Machine).Retains
      (machine.unwind frame failure) := by
  unfold unwind
  cases frame with
  | shield =>
    dsimp only
    split <;> exact ⟨.refl _, rfl⟩
  | scope => exact ⟨⟨rfl, rfl, rfl, rfl, rfl⟩, rfl⟩
  | borrowed => exact ⟨(World.Retains.refl _).modifyContainer _ _, rfl⟩
  | _ => exact ⟨.refl _, rfl⟩

end Machine

end Observables
