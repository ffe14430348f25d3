import Observables.Proofs.Convergence
import Observables.Proofs.Chain
import Observables.Proofs.Seizure

/-!
# Changes that are refused

While a reader holds on to the contents of a list, every operation that would
change them is refused. The elements stay as they are for as long as the reader
has a frame, and nobody is told anything about the list above that frame. The
keys stay as well, with one exception: an operation that replaces the whole
list has replaced the keys by the time it is refused. So keys and elements are
out of step after it, and this is the only way in which a refused operation
leaves a trace.
-/

namespace Observables

open Script

section

variable {world other : World} {rest taken put : List Frame} {deed : Deed} {history : List Deed}
  {container : ContainerRef}

/-- What is read is not changed. -/
theorem Turn.not_affects (turn : Turn world rest taken deed other put)
    (read : world.isBorrowed container = true) (channel : Channel) :
    deed.affects container channel = false := by
  have apart {target : ContainerRef} (free : world.isBorrowed target = false) :
      target ≠ container := by
    rintro rfl
    simp [read] at free
  cases turn with
  | inserted _ _ _ free => cases channel <;> simp [Deed.affects, apart free]
  | removed _ _ free => cases channel <;> simp [Deed.affects, apart free]
  | stored free => cases channel <;> simp [Deed.affects, apart free]
  | replaced free => cases channel <;> simp [Deed.affects, apart free]
  | _ => cases channel <;> rfl

/-- Where the keys are replaced the elements stay. -/
theorem Deed.items_onContainer (still : deed.affects container .change = false)
    (held : Container) : (deed.onContainer container held).items = held.items := by
  by_cases rekeyed : ∃ released allotted, deed = .rekeyed container released allotted
  · obtain ⟨released, allotted, rfl⟩ := rekeyed
    simp [Deed.onContainer, Container.items]
  · have kept : ∀ released allotted, deed ≠ .rekeyed container released allotted :=
      fun released allotted same => rekeyed ⟨released, allotted, same⟩
    exact congrArg Contents.items (contents_onContainer still kept held)

/-- A frame that tells the subscriptions of a container something, or is about to. -/
def Frame.addresses (container : ContainerRef) : Frame → Bool
  | .notify other _ | .dispatch other _ _ | .announce other _ _ _ => container == other
  | _ => false

/-- A frame that tells about a container and is put on the stack goes on with another one, or
the container is free. No reader comes together with it. -/
theorem Turn.addresses_put (turn : Turn world rest taken deed other put) {frame : Frame}
    (inside : frame ∈ put) (tells : frame.addresses container = true) :
    ((∃ old ∈ taken, old.addresses container = true) ∨ world.isBorrowed container = false) ∧
      .borrowed container ∉ put := by
  have unread (other : deed ≠ .borrowed container)
      (others : ∀ within, deed ≠ .setBegun container within) : .borrowed container ∉ put := by
    intro read
    cases turn.arises _ read with
    | plain plain => cases plain
    | borrowed => exact other rfl
    | setBegun => exact others _ rfl
  cases turn.arises _ inside with
  | plain plain => cases frame <;> first | cases tells | cases plain
  | yield | replace | scope | borrowed | setBegun | dischargedEmpty | discharged | ranAsked
  | ranSettled | ranDischarged | tornDown | insertedSettle | removedDischarge
  | replacedDischarge => cases tells
  | announced there | notified there | passed there | told there =>
    exact ⟨.inl ⟨_, there, tells⟩, unread nofun nofun⟩
  | insertedNotify free | insertedAnnounce _ free | removedNotify free | storedNotify free
  | replacedNotify free =>
    have same := eq_of_beq tells
    exact ⟨.inr (same ▸ free), unread nofun nofun⟩

end

/-- Above the frame of a reader nothing is told about the container. -/
def Muted (stack : List Frame) : Prop :=
  stack.Pairwise fun upper lower =>
    ∀ container, upper.addresses container = true → lower ≠ .borrowed container

/-- Every turn keeps quiet about what is read. -/
theorem Muted.turn {world other : World} {rest taken put : List Frame} {deed : Deed}
    {history : List Deed} (muted : Muted (taken ++ rest))
    (held : world.Held (taken ++ rest) history) (turn : Turn world rest taken deed other put) :
    Muted (put ++ rest) := by
  obtain ⟨_, beneath, above⟩ := List.pairwise_append.mp muted
  refine List.pairwise_append.mpr ⟨?_, beneath, ?_⟩
  · refine List.pairwise_of_forall_mem_list fun upper there lower inside container tells same => ?_
    exact (turn.addresses_put there tells).2 (same ▸ inside)
  · rintro upper there lower inside container tells rfl
    rcases (turn.addresses_put there tells).1 with ⟨old, before, addressed⟩ | free
    · exact above old before _ inside container addressed rfl
    · have read := (held.read.isBorrowed_iff container).mpr (List.mem_append_right taken inside)
      simp [free] at read

/-- Whenever a script runs nothing is told about what is read. -/
theorem Muted.preserved :
    Preserved World.Held fun _ stack _ => Muted stack where
  first _ := List.Pairwise.nil
  alike _ muted := muted
  turn held muted _ turn := muted.turn held turn

/-- At every moment nothing is told about what is read. -/
theorem Moment.IsReached.muted {moment : Moment} (reached : moment.IsReached) :
    Muted moment.machine.stack :=
  Muted.preserved.reached (fun reached => reached.held) (fun same held => held.alike same) reached

/-- A deed that tells the subscriptions of a container something, or begins to. -/
def Deed.notifies (container : ContainerRef) : Deed → Bool
  | .notified other _ _ | .told other _ _ => container == other
  | _ => false

/-- What tells subscriptions something goes on with a frame that does so. -/
theorem Turn.addresses_of_notifies {world other : World} {rest taken put : List Frame}
    {deed : Deed} {container : ContainerRef} (turn : Turn world rest taken deed other put)
    (notifies : deed.notifies container = true) :
    ∃ frame, taken = [frame] ∧ frame.addresses container = true := by
  cases turn with
  | notified | told => exact ⟨_, rfl, notifies⟩
  | _ => cases notifies

namespace Moment

variable {moment next : Moment} {container : ContainerRef}

/-- While a container is read, no step tells anything about it or changes what it holds; only
its keys may be replaced. -/
theorem IsReached.refuses (reached : moment.IsReached) (follows : moment.Next next) {deed : Deed}
    (latest : next.history = deed :: moment.history)
    (read : .borrowed container ∈ moment.machine.stack) :
    deed.notifies container = false ∧
      (next.world.container container).items = (moment.world.container container).items ∧
      ((∀ released allotted, deed ≠ .rekeyed container released allotted) →
        (next.world.container container).contents =
          (moment.world.container container).contents) := by
  obtain ⟨world, rest, taken, put, alike, before, _, turn⟩ := follows.turn latest
  have same : world.container container = moment.world.container container :=
    alike.container container
  have inside : container < world.containers.size := by
    rw [alike.containers]
    exact reached.held.read.lt_size read
  have held : world.isBorrowed container = true := by
    rw [World.isBorrowed, same]
    exact (reached.isBorrowed_iff container).mpr read
  have still : deed.affects container .change = false := turn.not_affects held .change
  have after : (next.world.container container).contents =
      (deed.onContainer container (moment.world.container container)).contents := by
    rw [← same]
    exact congrArg (·.contents) (turn.container inside)
  have muted := reached.muted
  rw [before] at muted read
  refine ⟨?_, ?_, fun kept => ?_⟩
  · cases notifies : deed.notifies container with
    | false => rfl
    | true =>
      obtain ⟨frame, rfl, tells⟩ := turn.addresses_of_notifies notifies
      rcases List.mem_cons.mp read with reader | beneath
      · rw [← reader] at tells
        cases tells
      · exact absurd rfl ((List.pairwise_cons.mp muted).1 _ beneath container tells)
  · exact (congrArg Contents.items after).trans (Deed.items_onContainer still _)
  · rw [after, Deed.contents_onContainer still kept]

/-- For as long as a container is read nothing is told about it and it holds the same; only its
keys may be replaced. -/
theorem IsReached.refuses_run (reached : moment.IsReached) {inner base : List Frame} {steps : Nat}
    (stack : moment.machine.stack = inner ++ base) (read : .borrowed container ∈ base)
    (above : moment.machine.StaysAbove base.length steps) :
    ∃ recent, (moment.run steps).history = recent ++ moment.history ∧
      (∀ deed ∈ recent, deed.notifies container = false) ∧
      ((moment.run steps).world.container container).items =
        (moment.world.container container).items ∧
      ((∀ released allotted, .rekeyed container released allotted ∉ recent) →
        ((moment.run steps).world.container container).contents =
          (moment.world.container container).contents) := by
  induction steps generalizing moment inner with
  | zero => exact ⟨[], rfl, by simp, rfl, fun _ => rfl⟩
  | succ steps ih =>
    have high : base.length < moment.machine.stack.length := above 0 (Nat.succ_pos _)
    have busy := Machine.not_isFinished high
    have follows : moment.Next moment.step := .step busy
    have runs := Moment.run_succ_of_busy busy steps
    have there : .borrowed container ∈ moment.machine.stack := by
      rw [stack]
      exact List.mem_append_right _ read
    obtain ⟨others, next⟩ := Machine.step_stack stack high
    obtain ⟨recent, history, silent, items, contents⟩ :=
      ih (reached.leads (.single follows)) next (above.step high)
    obtain ⟨mute, same, kept⟩ := reached.refuses follows rfl there
    refine ⟨recent ++ [moment.machine.deed], ?_, ?_, ?_, fun none => ?_⟩
    · rw [runs, history, List.append_assoc]
      rfl
    · intro deed inside
      rcases List.mem_append.mp inside with later | now
      · exact silent deed later
      · rw [List.mem_singleton.mp now]
        exact mute
    · rw [runs, items, same]
    · rw [runs, contents fun released allotted inside =>
        none released allotted (List.mem_append_left _ inside)]
      exact kept fun released allotted now =>
        none released allotted (List.mem_append_right _ (List.mem_singleton.mpr now.symm))

end Moment

/-- The operations that change a list. -/
def Script.Operation.isChange {Body : Type} : Operation Body → Bool
  | .push _ | .insertAt .. | .pop | .removeAt _ | .findAndRemove .. | .set .. => true
  | _ => false

/-- The operation replaces the whole contents. -/
def Script.Operation.isReplacement {Body : Type} : Operation Body → Bool
  | .set .. => true
  | _ => false

/-- A predicate or setter runs on behalf of an operation whose frame is at a height. -/
inductive Hosts (container : ContainerRef) (height : Nat) : List Frame → Prop where
  /-- The predicate of a search. -/
  | asked {frame inner position rest body test base} (level : base.length = height) :
      Hosts container height (frame :: inner ++
        .verdict container position rest body test :: .operating container :: base)
  /-- The setter of a replacement. -/
  | setting {frame inner base} (level : base.length = height) :
      Hosts container height (frame :: inner ++
        .borrowed container :: .replace container :: .operating container :: base)

/-- The frames of a change of a list that is read. Only one that replaces the list has those
that come with a setter. -/
inductive Engaged (container : ContainerRef) (base : List Frame) (replaces : Bool) :
    List Frame → Prop where
  /-- The operation is about to end. -/
  | ending : Engaged container base replaces (.operating container :: base)
  /-- A predicate runs or has answered. -/
  | asking {position rest body test} (inner : List Frame) :
      Engaged container base replaces
        (inner ++ .verdict container position rest body test :: .operating container :: base)
  /-- A setter runs or has answered. -/
  | setting (inner : List Frame) (sets : replaces = true) :
      Engaged container base replaces
        (inner ++ .borrowed container :: .replace container :: .operating container :: base)
  /-- The answer of the setter is about to be taken. -/
  | replacing (sets : replaces = true) :
      Engaged container base replaces (.replace container :: .operating container :: base)

/-- The frames of a change lie above those that were there before it. -/
theorem Engaged.exists_stack {container : ContainerRef} {base stack : List Frame}
    {replaces : Bool} (engaged : Engaged container base replaces stack) :
    ∃ inner, stack = inner ++ base := by
  cases engaged with
  | ending => exact ⟨[_], rfl⟩
  | asking inner => exact ⟨inner ++ [_, _], (List.append_assoc inner [_, _] base).symm⟩
  | setting inner => exact ⟨inner ++ [_, _, _], (List.append_assoc inner [_, _, _] base).symm⟩
  | replacing => exact ⟨[_, _], rfl⟩

namespace Machine

variable {machine : Machine} {container : ContainerRef} {base : List Frame} {replaces : Bool}

/-- A search in a list begins or goes on with its predicate, or it is over. -/
theorem engaged_search (stack : machine.stack = .operating container :: base) (position : Nat)
    (rest : List Value) (body : List Action) (test : Expression) :
    Engaged container base replaces
      (machine.search container position rest body test).stack := by
  cases rest with
  | nil =>
    have same : (machine.search container position [] body test).stack =
        .operating container :: base := stack
    rw [same]
    exact .ending
  | cons item rest =>
    let inner := invoked body test (machine.world.container container).surface machine.locals
    have same : (machine.search container position (item :: rest) body test).stack =
        inner ++ .verdict container position rest body test :: machine.stack := by
      simp [search, invoke, push, proceed, answer, inner, invoked]
    rw [same, stack]
    exact .asking inner

/-- A change of a list that is read is over at once, or it begins with its predicate or setter. -/
theorem engaged_operate (stack : machine.stack = .operating container :: base)
    (read : machine.world.isBorrowed container = true)
    (direct : (machine.world.container container).surface = .direct)
    (isList : (machine.world.container container).contents.isList = true)
    {operation : Operation (List Action)} (changes : operation.isChange = true) :
    Engaged container base operation.isReplacement
      (machine.operate container operation).stack := by
  have ends {after : Machine} (same : after.stack = machine.stack) :
      Engaged container base operation.isReplacement after.stack := by
    rw [same, stack]
    exact .ending
  have inserting (position : Nat) (item : Value) :
      (machine.insertAt container position item).stack = machine.stack := by
    simp [insertAt, read, fail]
  have removing (position : Nat) :
      (machine.removeAt container position).stack = machine.stack := by
    simp [removeAt, read, fail]
  cases operation with
  | push item => exact ends (inserting _ _)
  | insertAt position item =>
    refine ends ?_
    simp only [operate, atPosition]
    split
    · rfl
    · exact inserting _ _
  | pop =>
    refine ends ?_
    simp only [operate, pop]
    split
    · rfl
    · exact removing _
  | removeAt position =>
    refine ends ?_
    simp only [operate, atPosition]
    split
    · rfl
    · exact removing _
  | findAndRemove body test => exact engaged_search stack _ _ _ _
  | set body result =>
    obtain ⟨items, keys, list⟩ := Contents.exists_list isList
    let inner := invoked body result .direct machine.locals
    have same : (machine.operate container (.set body result)).stack =
        inner ++ .borrowed container :: .replace container :: machine.stack := by
      simp [operate, set, direct, list, setterTarget, invoke, push, withWorld, proceed, answer,
        inner, invoked]
    rw [same, stack]
    exact .setting inner rfl
  | _ => cases changes

/-- A predicate or setter that runs has frames above those of the operation, and the next step
leaves these where they are. -/
theorem step_stack_inner {frame : Frame} {inner below : List Frame}
    (stack : machine.stack = frame :: inner ++ below) :
    ∃ others, machine.step.stack = others ++ below := by
  refine step_stack stack ?_
  rw [stack, List.length_append, List.length_cons]
  omega

/-- A change of a list that is read goes on as it should, or it is over. -/
theorem engaged_step (engaged : Engaged container base replaces machine.stack)
    (read : machine.world.isBorrowed container = true) :
    Engaged container base replaces machine.step.stack ∨ machine.step.stack = base := by
  generalize before : machine.stack = stack at engaged
  cases engaged with
  | ending =>
    right
    cases focus : machine.focus with
    | resume reply =>
      rw [step_of_resume before focus]
      rfl
    | unwind failure =>
      rw [step_of_unwind before focus]
      rfl
  | @asking position rest body test inner =>
    left
    cases inner with
    | cons frame inner =>
      obtain ⟨others, after⟩ := step_stack_inner before
      rw [after]
      exact .asking others
    | nil =>
      cases focus : machine.focus with
      | resume reply =>
        rw [step_of_resume before focus]
        simp only [resume, verdict]
        split
        · have refused : ({ machine with stack := .operating container :: base }.removeAt
              container position).stack = .operating container :: base := by
            simp [removeAt, read, fail]
          rw [refused]
          exact .ending
        · exact engaged_search rfl _ _ _ _
      | unwind failure =>
        rw [step_of_unwind before focus]
        exact .ending
  | setting inner sets =>
    left
    cases inner with
    | cons frame inner =>
      obtain ⟨others, after⟩ := step_stack_inner before
      rw [after]
      exact .setting others sets
    | nil =>
      cases focus : machine.focus with
      | resume reply =>
        rw [step_of_resume before focus]
        exact .replacing sets
      | unwind failure =>
        rw [step_of_unwind before focus]
        exact .replacing sets
  | replacing sets =>
    left
    cases focus : machine.focus with
    | unwind failure =>
      rw [step_of_unwind before focus]
      exact .ending
    | resume reply =>
      have refused : ({ machine with stack := .operating container :: base }.replace container
          reply.content).stack = .operating container :: base := by
        simp only [replace]
        split
        · rfl
        · simp [read, withWorld, fail]
      rw [step_of_resume before focus]
      simp only [resume, refused]
      exact .ending

/-- Keys that are replaced under a reader are those of a list whose setter has answered. -/
theorem replace_of_rekeyed {released allotted : List Key}
    (rekeyed : machine.deed = .rekeyed container released allotted) :
    ∃ rest, machine.stack = .replace container :: rest := by
  cases stack : machine.stack with
  | nil =>
    simp [deed, stack] at rekeyed
  | cons frame rest =>
    obtain ⟨put, _, turn⟩ := step_turns stack
    rw [rekeyed] at turn
    cases turn with
    | rekeyed => exact ⟨rest, rfl⟩

/-- A change of a list that is read replaces the keys inside its own predicate or setter, or
when its setter has answered. -/
theorem hosts_of_rekeyed (engaged : Engaged container base replaces machine.stack)
    {released allotted : List Key}
    (rekeyed : machine.deed = .rekeyed container released allotted) :
    Hosts container base.length machine.stack ∨
      replaces = true ∧ machine.stack = .replace container :: .operating container :: base := by
  obtain ⟨rest, top⟩ := replace_of_rekeyed rekeyed
  generalize machine.stack = stack at engaged top
  cases engaged with
  | ending => cases top
  | asking inner =>
    cases inner with
    | nil => cases top
    | cons frame inner => exact .inl (.asked rfl)
  | setting inner sets =>
    cases inner with
    | nil => cases top
    | cons frame inner => exact .inl (.setting rfl)
  | replacing sets => exact .inr ⟨sets, rfl⟩

end Machine

namespace Moment

variable {moment next : Moment} {container : ContainerRef} {base : List Frame} {replaces : Bool}

/-- For as long as it lasts, a change of a list that is read has the frames that it should. -/
theorem IsReached.engaged (reached : moment.IsReached)
    (engaged : Engaged container base replaces moment.machine.stack)
    (read : .borrowed container ∈ base) {steps : Nat}
    (above : moment.machine.StaysAbove base.length (steps + 1)) :
    Engaged container base replaces (moment.run steps).machine.stack := by
  induction steps generalizing moment with
  | zero => exact engaged
  | succ steps ih =>
    have high : base.length < moment.machine.stack.length := above 0 (Nat.succ_pos _)
    have busy := Machine.not_isFinished high
    have further := above.step high
    have runs := Moment.run_succ_of_busy busy steps
    obtain ⟨inner, stack⟩ := engaged.exists_stack
    have there : .borrowed container ∈ moment.machine.stack := by
      rw [stack]
      exact List.mem_append_right _ read
    have held := (reached.isBorrowed_iff container).mpr there
    rw [runs]
    rcases Machine.engaged_step engaged held with goes | returned
    · exact ih (reached.leads (.single (.step busy))) goes further
    · have low : base.length < moment.machine.step.stack.length := further 0 (Nat.succ_pos _)
      rw [returned] at low
      omega

/-- A change of a list that is read begins as it should. -/
theorem Performs.engaged {action : Action} {height : Nat} {operation : Operation (List Action)}
    (performs : moment.Performs action height next) (reached : moment.IsReached)
    (read : .borrowed container ∈ moment.machine.stack)
    (isList : (moment.world.container container).contents.isList = true)
    (does : action.command = .operate operation) (changes : operation.isChange = true)
    (named : moment.world.names.find? (moment.machine.subjectName action) = some container) :
    ∃ base, base.length = height ∧ .borrowed container ∈ base ∧
      Engaged container base operation.isReplacement next.machine.stack := by
  cases performs with
  | outermost finished =>
    rw [Machine.stack_eq_nil finished] at read
    cases read
  | @inside _ actions below reply stack focus =>
    have held := (reached.isBorrowed_iff container).mpr read
    have direct := reached.held.read.direct container read
    have known : operation.isKnown (moment.world.container container).surface
        (moment.world.container container).contents.isList = true := by
      rw [direct, isList]
      cases operation <;> first | rfl | cases changes
    let base : List Frame := .finish action :: .body actions :: below
    let begun : Machine :=
      { moment.machine with stack := below }.push [.finish action, .body actions]
    let operating := begun.push [.operating container]
    have step : moment.step.machine = operating.operate container operation := by
      have first : moment.step.machine = begun.perform action := Machine.step_of_resume stack focus
      have name : begun.world.names.find? (begun.subjectName action) = some container := named
      have fits : operation.isKnown (begun.world.container container).surface
          (begun.world.container container).contents.isList = true := known
      rw [first, Machine.perform, does, Machine.command, Machine.operateOn, name]
      simp only [fits, if_true]
      rfl
    refine ⟨base, rfl, ?_, ?_⟩
    · rw [stack] at read
      have below : .borrowed container ∈ below := by simpa using read
      exact List.mem_cons_of_mem _ (List.mem_cons_of_mem _ below)
    · have stack : operating.stack = .operating container :: base := rfl
      rw [step]
      exact Machine.engaged_operate stack held direct isList changes

/-- What stays above a height has not finished. -/
theorem busy_of_staysAbove (moment : Moment) {height steps earlier : Nat}
    (above : moment.machine.StaysAbove height steps) (within : earlier < steps) :
    (moment.run earlier).machine.isFinished = false := by
  have high := above earlier within
  rw [← (moment.machine_run earlier).1] at high
  exact Machine.not_isFinished high

/-- Every step of a change of a list that is read leaves what the list holds as it is, unless a
predicate or setter of the change runs or the answer of its setter is taken. -/
theorem IsReached.changes_each (reached : moment.IsReached)
    (engaged : Engaged container base replaces moment.machine.stack)
    (read : .borrowed container ∈ base) {steps : Nat}
    (above : moment.machine.StaysAbove base.length steps) (earlier : Nat)
    (within : earlier < steps) :
    ((moment.run earlier).step.world.container container).contents =
        ((moment.run earlier).world.container container).contents ∨
      Hosts container base.length (moment.run earlier).machine.stack ∨
      replaces = true ∧ ∃ below, below.length = base.length ∧
        (moment.run earlier).machine.stack =
          .replace container :: .operating container :: below := by
  have still : moment.machine.StaysAbove base.length (earlier + 1) :=
    fun sooner before => above sooner (by omega)
  have goes := reached.engaged engaged read still
  obtain ⟨others, stack⟩ := goes.exists_stack
  have inside : .borrowed container ∈ (moment.run earlier).machine.stack := by
    rw [stack]
    exact List.mem_append_right _ read
  have follows : (moment.run earlier).Next (moment.run earlier).step :=
    .step (moment.busy_of_staysAbove above within)
  have refuses := (reached.run earlier).refuses follows rfl inside
  by_cases rekeyed : ∃ released allotted,
      (moment.run earlier).machine.deed = .rekeyed container released allotted
  · obtain ⟨released, allotted, rekeyed⟩ := rekeyed
    rcases Machine.hosts_of_rekeyed goes rekeyed with hosts | ⟨replaces, top⟩
    · exact .inr (.inl hosts)
    · exact .inr (.inr ⟨replaces, base, rfl, top⟩)
  · exact .inl (refuses.2.2 fun released allotted same => rekeyed ⟨released, allotted, same⟩)

/-- The first step of an action does not replace keys under a reader. -/
theorem Performs.keys_stay {action : Action} {height : Nat}
    (performs : moment.Performs action height next) {deed : Deed}
    (latest : next.history = deed :: moment.history) (released allotted : List Key) :
    deed ≠ .rekeyed container released allotted := by
  rintro rfl
  obtain ⟨world, rest, taken, put, _, before, _, turn⟩ := performs.next.turn latest
  cases turn with
  | rekeyed =>
    cases performs with
    | outermost finished =>
      rw [Machine.stack_eq_nil finished] at before
      cases before
    | inside stack focus =>
      rw [stack] at before
      cases before

/-- Where no step changes what a container holds it holds the same in the end. -/
theorem contents_run {steps : Nat}
    (busy : ∀ earlier < steps, (moment.run earlier).machine.isFinished = false)
    (kept : ∀ earlier < steps, ((moment.run earlier).step.world.container container).contents =
      ((moment.run earlier).world.container container).contents) :
    ((moment.run steps).world.container container).contents =
      (moment.world.container container).contents := by
  induction steps with
  | zero => rfl
  | succ steps ih =>
    have last := kept steps (Nat.lt_succ_self steps)
    have before := ih (fun earlier within => busy earlier (Nat.lt_succ_of_lt within))
      fun earlier within => kept earlier (Nat.lt_succ_of_lt within)
    rw [run_succ (busy steps (Nat.lt_succ_self steps)), last, before]

end Moment

/-- When a change of a list begins while the list is read, then for as long as it lasts

* its first step leaves what the list holds as it is, and the elements stay to the end;
* nothing is told about the list;
* every other step leaves what the list holds as it is, elements and keys with their counter,
  unless a predicate or setter of the change runs, or the change is a replacement and takes the
  answer of its setter;
* so what the list holds is the same in the end if the change is no replacement and no
  predicate of it runs, and in any case if no keys are replaced on the way. -/
theorem refused_changes_keep_elements {moment next : Moment} (reached : moment.IsReached)
    {container : ContainerRef} (read : .borrowed container ∈ moment.machine.stack)
    (isList : (moment.world.container container).contents.isList = true)
    {action : Action} {height : Nat} (performs : moment.Performs action height next)
    {operation : Operation (List Action)} (does : action.command = .operate operation)
    (changes : operation.isChange = true)
    (named : moment.world.names.find? (moment.machine.subjectName action) = some container)
    {steps : Nat} (lasts : next.machine.StaysAbove height steps) :
    let before := moment.world.container container
    let after := (next.run steps).world.container container
    (next.world.container container).contents = before.contents ∧
    after.items = before.items ∧
    (∃ recent, (next.run steps).history = recent ++ moment.history ∧
      (∀ deed ∈ recent, deed.notifies container = false) ∧
      ((∀ released allotted, .rekeyed container released allotted ∉ recent) →
        after.contents = before.contents)) ∧
    (∀ earlier < steps,
      let during := next.run earlier
      (during.step.world.container container).contents =
          (during.world.container container).contents ∨
        Hosts container height during.machine.stack ∨
        operation.isReplacement = true ∧ ∃ base, base.length = height ∧
          during.machine.stack = .replace container :: .operating container :: base) ∧
    (operation.isReplacement = false →
      (∀ earlier < steps, ¬ Hosts container height (next.run earlier).machine.stack) →
      after.contents = before.contents) := by
  intro before after
  obtain ⟨base, rfl, under, engaged⟩ :=
    performs.engaged reached read isList does changes named
  have follows := performs.next
  have onward := reached.leads (.single follows)
  obtain ⟨inner, stack⟩ := engaged.exists_stack
  have busy (earlier : Nat) (within : earlier < steps) := next.busy_of_staysAbove lasts within
  have each := onward.changes_each engaged under lasts
  obtain ⟨deed, first⟩ : ∃ deed, next.history = deed :: moment.history := by
    obtain ⟨_, _, _, _, deed, _, _, _, _, history, _⟩ := follows.exists_turn
    exact ⟨deed, history⟩
  obtain ⟨mute, _, kept⟩ := reached.refuses follows first read
  have contents : (next.world.container container).contents = before.contents :=
    kept (performs.keys_stay first)
  obtain ⟨recent, history, silent, items, same⟩ := onward.refuses_run stack under lasts
  refine ⟨contents, items.trans (congrArg Contents.items contents),
    ⟨recent ++ [deed], ?_, fun told inside => ?_, fun none => ?_⟩, each,
    fun small alone => ?_⟩
  · rw [history, first, List.append_assoc]
    rfl
  · rcases List.mem_append.mp inside with later | now
    · exact silent told later
    · rw [List.mem_singleton.mp now]
      exact mute
  · have unkeyed (released allotted : List Key) :
        .rekeyed container released allotted ∉ recent :=
      fun inside => none released allotted (List.mem_append_left _ inside)
    exact (same unkeyed).trans contents
  · refine (Moment.contents_run busy fun earlier within => ?_).trans contents
    rcases each earlier within with kept | hosts | ⟨replaces, _⟩
    · exact kept
    · exact absurd hosts (alone earlier within)
    · simp [small] at replaces

/-- The change is performed next. -/
theorem changeDue_performs (change : Action) :
    (changeDue change).Performs change 10 (changeDue change).step := by
  have stack : (changeDue change).machine.stack =
      .body [change] :: (changeDue change).machine.stack.tail := rfl
  exact .inside stack rfl

/-- Adding an element inside a borrowing body leaves the elements and the keys as they are. -/
theorem refused_changes_keep_elements_push :
    let moment := changeDue itemAdded
    moment.IsReached ∧ .borrowed 0 ∈ moment.machine.stack ∧
      moment.Performs itemAdded 10 moment.step ∧ moment.step.machine.HasCollided ∧
      (moment.step.world.container 0).contents = (moment.world.container 0).contents := by
  intro moment
  have reached := changeDue_isReached itemAdded
  have read := changeDue_reads itemAdded
  have performs := changeDue_performs itemAdded
  have lasts : moment.step.machine.StaysAbove 10 0 := fun earlier within => absurd within (by simp)
  have kept := refused_changes_keep_elements reached read rfl performs rfl rfl rfl lasts
  exact ⟨reached, read, performs, rfl, kept.1⟩

/-- An action that replaces the elements of the list L by one, with a setter that does nothing
else. -/
def nineSet : Action :=
  ⟨"set", none, some (.literal (.text "L")), .operate (.set [] (.literal (.list [.int 9])))⟩

/-- When the replacement inside a borrowing body of the list has been refused. -/
def nineRefused : Moment := (changeDue nineSet).step.run 7

/-- Replacing a list inside a borrowing body is refused as well, the elements stay, and yet the
keys have been replaced: there are two elements and one key then. -/
theorem refused_replacements_change_keys :
    (changeDue nineSet).IsReached ∧ .borrowed 0 ∈ (changeDue nineSet).machine.stack ∧
      (changeDue nineSet).Performs nineSet 10 (changeDue nineSet).step ∧
      (changeDue nineSet).step.machine.Returns 10 7 ∧ nineRefused.machine.HasCollided ∧
      ((changeDue nineSet).world.container 0).items = [.int 1, .int 2] ∧
      (nineRefused.world.container 0).items = [.int 1, .int 2] ∧
      ((changeDue nineSet).world.container 0).keys.inUse = [⟨0, 0⟩, ⟨0, 1⟩] ∧
      (nineRefused.world.container 0).keys.inUse = [⟨0, 2⟩] := by
  have above : ∀ earlier < 7,
      10 < ((changeDue nineSet).step.machine.run earlier).stack.length := by decide +kernel
  have low : ((changeDue nineSet).step.machine.run 7).stack.length ≤ 10 := by decide +kernel
  have collides : nineRefused.machine.HasCollided := rfl
  have items : (nineRefused.world.container 0).items = [.int 1, .int 2] := rfl
  have keys : (nineRefused.world.container 0).keys.inUse = [⟨0, 2⟩] := rfl
  exact ⟨changeDue_isReached nineSet, changeDue_reads nineSet, changeDue_performs nineSet,
    ⟨low, above⟩, collides, rfl, items, rfl, keys⟩

end Observables
