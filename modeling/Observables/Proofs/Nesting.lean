import Observables.Proofs.Effect
import Observables.Proofs.Return

/-!
# How frames nest

What an operation has left to do lies under the frames of the callbacks that it
calls, and under the keys that are open meanwhile: only the frames of a
dispatch, of a run of teardowns and of an open key come between. So a failure
can reach the rest of an operation only through a callback of a dispatch or a
run of teardowns. The add subscriptions are told about an element directly over
the frame of its key, which lies directly over the frame that settles the
element; any other key was opened by an action.
-/

namespace Observables

open Script

/-- The frame belongs to what an operation has left to do itself. -/
def Frame.isOwn : Frame → Bool
  | .notify .. | .announce .. | .settle .. | .discharge .. | .yield _ | .scope .. => true
  | _ => false

/-- The frame calls callbacks one after the other. -/
def Frame.isCaller : Frame → Bool
  | .dispatch .. | .teardown .. => true
  | _ => false

/-- Under the keys that are innermost, if any, is not the rest of an operation. -/
def Clear : List Frame → Prop
  | [] => True
  | .scope _ _ :: beneath => Clear beneath
  | frame :: _ => frame.isOwn = false

/-- A frame lies on others as it may. -/
def Frame.Lies (world : World) (history : List Deed) (frame : Frame) (beneath : List Frame) :
    Prop :=
  match frame with
  | .announce container key _ _ => (world.container container).contents.isList = true ∧
      ∃ further, beneath = .settle container key :: further
  | .notify container (.added _ _) | .dispatch container (.added _ _) _ =>
      (world.container container).contents.isList = true ∧
        ∃ key further, beneath =
          .scope (world.realmOf container) key :: .settle container key :: further
  | .scope realm key =>
      (∃ container further, beneath = .settle container key :: further ∧
        (world.container container).contents.isList = true ∧ world.realmOf container = realm) ∨
      .opened .asked realm key ∈ history ∧ Clear beneath
  | frame => frame.isOwn = true ∨ frame.isCaller = true ∨ Clear beneath

/-- Every frame lies on the others as it may. -/
def World.Nested (world : World) (history : List Deed) : List Frame → Prop
  | [] => True
  | frame :: beneath => frame.Lies world history beneath ∧ world.Nested history beneath

/-- No action of the script opens a key itself. -/
def Unscoped (history : List Deed) : Prop :=
  ∀ realm key, Deed.opened .asked realm key ∉ history

/-- What was unscoped in the end was unscoped before. -/
theorem Unscoped.of_cons {deed : Deed} {history : List Deed}
    (unscoped : Unscoped (deed :: history)) : Unscoped history :=
  fun realm key inside => unscoped realm key (List.mem_cons_of_mem _ inside)

/-- The frames belong to bodies: they neither are the rest of an operation nor call callbacks. -/
def Inner (frames : List Frame) : Prop :=
  ∀ frame ∈ frames, frame.isOwn = false ∧ frame.isCaller = false

namespace Inner

variable {first second : List Frame}

theorem append (left : Inner first) (right : Inner second) : Inner (first ++ second) := by
  intro frame inside
  rcases List.mem_append.mp inside with inside | inside
  · exact left frame inside
  · exact right frame inside

theorem cons {frame : Frame} (own : frame.isOwn = false) (caller : frame.isCaller = false)
    (rest : Inner second) : Inner (frame :: second) := by
  intro other inside
  rcases List.mem_cons.mp inside with same | inside
  · rw [same]
    exact ⟨own, caller⟩
  · exact rest other inside

end Inner

/-- Frames that only say how a script goes on belong to bodies. -/
theorem Plain.inner {frames : List Frame} (plain : Plain frames) : Inner frames := by
  intro frame inside
  have plain := plain frame inside
  cases frame with
  | body | finish | answer | restore | attempt | shield | boundary | operating | store | search
  | verdict => exact ⟨rfl, rfl⟩
  | _ => cases plain

section

variable {body : List Action} {result : Expression} {locals : Variables}
  {container : ContainerRef} {target tail : List Frame}

/-- The frames of a body that reads a container, or of a setter that does, belong to bodies. -/
theorem inner_reading (inner : Inner target) (plain : Plain tail) :
    Inner (invoked body result .direct locals ++ .borrowed container :: target ++ tail) :=
  ((plain_invoked _ _ _ _).inner.append (.cons rfl rfl inner)).append plain.inner

/-- So do those of the setter of a shielded list. -/
theorem inner_setting (plain : Plain tail) :
    Inner (invoked body result .shielded locals ++ .replace container :: tail) :=
  (plain_invoked _ _ _ _).inner.append (.cons rfl rfl plain.inner)

/-- So does the frame that takes the answer of a setter of a list. -/
theorem inner_replace (container : ContainerRef) : Inner [.replace container] :=
  .cons rfl rfl Plain.nil.inner

end

/-- Frames of bodies leave a stack clear. -/
theorem Clear.append {put rest : List Frame} (clear : Clear rest) (inner : Inner put) :
    Clear (put ++ rest) := by
  cases put with
  | nil => exact clear
  | cons frame put =>
    have own := (inner frame List.mem_cons_self).1
    cases frame with
    | scope => cases own
    | _ => exact own

namespace Frame

variable {world : World} {history : List Deed} {frame : Frame} {beneath : List Frame}

/-- A frame of a body may lie on a clear stack. -/
theorem lies_of_clear (own : frame.isOwn = false) (caller : frame.isCaller = false)
    (clear : Clear beneath) : frame.Lies world history beneath := by
  cases frame with
  | announce | notify | scope => cases own
  | dispatch => cases caller
  | _ => exact .inr (.inr clear)

/-- A stack is clear under a frame of a body. -/
theorem Lies.clear (lies : frame.Lies world history beneath) (own : frame.isOwn = false)
    (caller : frame.isCaller = false) : Clear beneath := by
  cases frame with
  | announce | notify | scope => cases own
  | dispatch => cases caller
  | _ =>
    rcases lies with outer | calls | clear
    · rw [outer] at own
      cases own
    · rw [calls] at caller
      cases caller
    · exact clear

/-- What a notice and its dispatch may lie on is the same. -/
theorem Lies.dispatch {container : ContainerRef} {notice : Notice}
    (lies : (Frame.notify container notice).Lies world history beneath)
    (waiting : List SubscriptionRef) :
    (Frame.dispatch container notice waiting).Lies world history beneath := by
  cases notice with
  | added item position => exact lies
  | changed => exact .inr (.inl rfl)
  | removed position => exact .inr (.inl rfl)

/-- A dispatch may lie where it has lain before. -/
theorem Lies.waits {container : ContainerRef} {notice : Notice}
    {waiting : List SubscriptionRef}
    (lies : (Frame.dispatch container notice waiting).Lies world history beneath)
    (others : List SubscriptionRef) :
    (Frame.dispatch container notice others).Lies world history beneath := by
  cases notice with
  | added item position => exact lies
  | changed => exact .inr (.inl rfl)
  | removed position => exact .inr (.inl rfl)

end Frame

namespace World.Nested

variable {world other : World} {rest taken put stack : List Frame} {deed : Deed}
  {history : List Deed}

/-- Frames of bodies can be put on a clear stack. -/
theorem append (nested : world.Nested history rest) (clear : Clear rest) (inner : Inner put) :
    world.Nested history (put ++ rest) := by
  induction put with
  | nil => exact nested
  | cons frame put ih =>
    obtain ⟨own, caller⟩ := inner frame List.mem_cons_self
    have others : Inner put := fun frame inside => inner frame (List.mem_cons_of_mem _ inside)
    exact ⟨Frame.lies_of_clear own caller (clear.append others), ih others⟩

/-- What lies under other frames is nested. -/
theorem of_append (nested : world.Nested history (taken ++ rest)) :
    world.Nested history rest := by
  induction taken with
  | nil => exact nested
  | cons frame taken ih => exact ih nested.2

/-- Under plain frames the stack is clear. -/
theorem clear_of_plain (nested : world.Nested history (taken ++ rest)) (plain : Plain taken)
    (ground : taken = [] → rest = []) : Clear rest := by
  induction taken with
  | nil =>
    rw [ground rfl]
    trivial
  | cons frame taken ih =>
    cases taken with
    | nil =>
      obtain ⟨own, caller⟩ := plain.inner frame List.mem_cons_self
      exact nested.1.clear own caller
    | cons next taken =>
      exact ih nested.2 (fun frame inside => plain frame (List.mem_cons_of_mem _ inside))
        (fun none => by cases none)

/-- What is nested stays so while lists and their realms are kept and the history grows. -/
theorem mono {later : List Deed} (nested : world.Nested history stack)
    (kept : ∀ container, (world.container container).contents.isList = true →
      (other.container container).contents.isList = true ∧
        other.realmOf container = world.realmOf container)
    (grows : history ⊆ later) : other.Nested later stack := by
  induction stack with
  | nil => trivial
  | cons frame beneath ih =>
    refine ⟨?_, ih nested.2⟩
    cases frame with
    | announce container key item position =>
      obtain ⟨isList, below⟩ := nested.1
      exact ⟨(kept container isList).1, below⟩
    | notify container notice | dispatch container notice waiting =>
      cases notice with
      | added item position =>
        obtain ⟨isList, key, further, below⟩ := nested.1
        obtain ⟨still, same⟩ := kept container isList
        exact ⟨still, key, further, by rw [same]; exact below⟩
      | changed => exact nested.1
      | removed position => exact nested.1
    | scope realm key =>
      rcases nested.1 with ⟨container, further, below, isList, belongs⟩ | ⟨asked, clear⟩
      · obtain ⟨still, same⟩ := kept container isList
        exact .inl ⟨container, further, below, still, same.trans belongs⟩
      · exact .inr ⟨grows asked, clear⟩
    | _ => exact nested.1

/-- Every turn keeps frames nested. -/
theorem turn (nested : world.Nested history (taken ++ rest))
    (ground : taken = [] → rest = []) (turn : Turn world rest taken deed other put) :
    other.Nested (deed :: history) (put ++ rest) := by
  have kept (container : ContainerRef)
      (isList : (world.container container).contents.isList = true) :
      (other.container container).contents.isList = true ∧
        other.realmOf container = world.realmOf container := by
    have inside := World.lt_size_of_isList isList
    exact ⟨(turn.isList inside).trans isList, turn.realmOf inside⟩
  have still : other.Nested (deed :: history) (taken ++ rest) :=
    nested.mono kept (List.subset_cons_self _ _)
  have below : other.Nested (deed :: history) rest := still.of_append
  have free (plain : Plain taken) : Clear rest := nested.clear_of_plain plain ground
  -- Where a frame of a body is taken, it has lain on a clear stack, so others may lie there.
  cases turn with
  | dropped | settled | settledEmpty | closed | released | rekeyed | abandoned => exact below
  | quiet spent plain | bound spent plain | refused spent plain | listMade spent plain
  | cellMade spent plain | realmOpened spent plain | drawn spent plain
  | subscribed spent plain | unsubscribed spent plain =>
    exact below.append (free spent) plain.inner
  | passed => exact ⟨still.1.waits _, below⟩
  | notified => exact ⟨still.1.dispatch _, below⟩
  | stored | dischargedEmpty => exact ⟨.inl rfl, below⟩
  | replaced => exact ⟨.inl rfl, .inl rfl, below⟩
  | ranSettled => exact ⟨.inr (.inl rfl), .inl rfl, below⟩
  | ranDischarged => exact ⟨.inr (.inl rfl), .inl rfl, .inl rfl, below⟩
  | @told container notice _ waiting callback locals =>
    have caller : other.Nested _ (.dispatch container notice waiting :: rest) :=
      ⟨still.1.waits _, below⟩
    rw [List.append_assoc]
    exact caller.append rfl (plain_called _ _ _).inner
  | @tornDown realm key _ waiting =>
    have caller : other.Nested _ (.teardown realm key waiting :: rest) :=
      ⟨.inr (.inl rfl), below⟩
    rw [List.append_assoc]
    exact caller.append rfl (plain_called _ _ _).inner
  | @announced container key _ _ _ same =>
    obtain ⟨isList, further, settles⟩ := still.1
    have realm : other.realmOf container = world.realmOf container := by
      rw [World.realmOf, same.container]
      rfl
    refine ⟨⟨isList, key, further, ?_⟩, .inl ⟨container, further, settles, isList, realm⟩, below⟩
    rw [realm]
    exact congrArg (List.cons (.scope (world.realmOf container) key)) settles
  | @opened _ tail realm key body _ spent plain =>
    have clear : Clear (tail ++ rest) := (free spent).append plain.inner
    have scope : other.Nested (.opened .asked realm key :: history)
        (.scope realm key :: (tail ++ rest)) :=
      ⟨.inr ⟨List.mem_cons_self, clear⟩, below.append (free spent) plain.inner⟩
    exact scope.append clear (plain_scoped body).inner
  | ranAsked spent plain =>
    exact ⟨.inr (.inl rfl), .inl rfl, below.append (free spent) plain.inner⟩
  | borrowed spent plain _ inner =>
    exact below.append (free spent) (inner_reading inner.inner plain)
  | setBegun spent plain => exact below.append (free spent) (inner_reading (inner_replace _) plain)
  | setShielded spent plain => exact below.append (free spent) (inner_setting plain)
  | inserted spent plain isList =>
    exact ⟨.inl rfl, ⟨(kept _ isList).1, _, rfl⟩, .inl rfl, .inl rfl,
      below.append (free spent) plain.inner⟩
  | removed spent plain =>
    exact ⟨.inl rfl, .inl rfl, .inl rfl, .inl rfl, below.append (free spent) plain.inner⟩

/-- Frames are nested whenever a script runs. -/
theorem preserved : Invariant fun world stack history => world.Nested history stack where
  first tracing := trivial
  alike same nested := by
    refine nested.mono (fun container isList => ?_) (List.Subset.refl _)
    rw [World.realmOf, World.realmOf, same.container]
    exact ⟨isList, rfl⟩
  turn _ nested ground turn := nested.turn ground turn

/-- A key is open over the frame that settles its element, unless an action has opened it. -/
theorem scope (nested : world.Nested history stack) {realm : RealmRef} {key : Key}
    (inside : Frame.scope realm key ∈ stack) :
    (∃ container, Frame.settle container key ∈ stack ∧
      (world.container container).contents.isList = true ∧ world.realmOf container = realm) ∨
    .opened .asked realm key ∈ history := by
  induction stack with
  | nil => cases inside
  | cons frame beneath ih =>
    rcases List.mem_cons.mp inside with same | inside
    · subst same
      rcases nested.1 with ⟨container, further, below, isList, belongs⟩ | ⟨asked, _⟩
      · left
        refine ⟨container, ?_, isList, belongs⟩
        rw [below]
        exact List.mem_cons_of_mem _ List.mem_cons_self
      · exact .inr asked
    · rcases ih nested.2 inside with ⟨container, due, belongs⟩ | asked
      · exact .inl ⟨container, List.mem_cons_of_mem _ due, belongs⟩
      · exact .inr asked

end World.Nested

/-- Frames are nested at every moment. -/
theorem Moment.IsReached.nested {moment : Moment} (reached : moment.IsReached) :
    moment.world.Nested moment.history moment.machine.stack :=
  World.Nested.preserved.reached reached

/-- The first step of the command can be a failure. -/
def Script.Command.canFail : Command (List Action) → Bool
  | .throw _ | .makeList .. | .operate _ => true
  | _ => false

/-- Going on with the frame can begin a failure. -/
def Frame.canFail : Frame → Bool
  | .body (_ :: _) | .store _ | .replace _ | .verdict .. => true
  | _ => false

theorem Focus.resume_ne_unwind {reply : Reply} {failure : Failure} :
    Focus.resume reply ≠ .unwind failure :=
  nofun

namespace Machine

variable {machine : Machine} {failure : Failure}

/-- An insertion that fails leaves the stack alone. -/
theorem insertAt_fails {container : ContainerRef} {position : Nat} {item : Value}
    (fails : (machine.insertAt container position item).focus = .unwind failure) :
    (machine.insertAt container position item).stack = machine.stack := by
  unfold insertAt at fails ⊢
  split
  · rfl
  · next free =>
    rw [if_neg free] at fails
    cases fails

/-- A removal that fails leaves the stack alone. -/
theorem removeAt_fails {container : ContainerRef} {position : Nat}
    (fails : (machine.removeAt container position).focus = .unwind failure) :
    (machine.removeAt container position).stack = machine.stack := by
  unfold removeAt at fails ⊢
  split
  · rfl
  · next free =>
    rw [if_neg free] at fails
    simp only at fails ⊢
    split at fails
    · cases fails
    · cases fails

/-- Running teardowns does not begin with a failure. -/
theorem runTeardowns_resumes (machine : Machine) (realm : RealmRef) (key : Key) :
    (machine.runTeardowns realm key).focus ≠ .unwind failure := by
  unfold runTeardowns
  split
  · simp [answer]
  · simp [push, proceed, answer]

/-- An operation that fails at once leaves the stack alone. -/
theorem operate_fails {container : ContainerRef} {operation : Operation (List Action)}
    (fails : (machine.operate container operation).focus = .unwind failure) :
    (machine.operate container operation).stack = machine.stack := by
  cases operation with
  | push => exact insertAt_fails fails
  | insertAt position item =>
    simp only [operate, atPosition] at fails ⊢
    split
    · rfl
    · next found =>
      rw [found] at fails
      exact insertAt_fails fails
  | pop =>
    simp only [operate, pop] at fails ⊢
    split
    · rfl
    · next length =>
      rw [length] at fails
      exact removeAt_fails fails
  | removeAt position =>
    simp only [operate, atPosition] at fails ⊢
    split
    · rfl
    · next found =>
      rw [found] at fails
      exact removeAt_fails fails
  | keyAt position =>
    simp only [operate, atPosition] at fails
    split at fails <;> cases fails
  | positionOf key =>
    simp only [operate] at fails
    split at fails <;> cases fails
  | findAndRemove body test =>
    simp only [operate, search] at fails
    split at fails <;> cases fails
  | _ => cases fails

/-- Other commands do not begin with a failure. -/
theorem command_resumes (subject : String) {command : Command (List Action)}
    (mild : command.canFail = false) :
    (machine.command subject command).focus ≠ .unwind failure := by
  have answered (value : Value) : (machine.answer value).focus ≠ .unwind failure :=
    Focus.resume_ne_unwind
  unfold Machine.command
  cases command with
  | throw | makeList | operate => cases mild
  | limit id times body =>
    dsimp only
    exact limit_elim (fun _ => Focus.resume_ne_unwind) fun _ => Focus.resume_ne_unwind
  | sameRealm left right =>
    dsimp only
    exact inRealm_elim (answered _) fun _ _ => inRealm_elim (answered _) fun _ _ => answered _
  | realm named query =>
    dsimp only
    refine inRealm_elim (answered _) fun realm _ => ?_
    cases query <;> exact Focus.resume_ne_unwind
  | pending named key =>
    dsimp only
    exact inRealm_elim (answered _) fun _ _ => withKeyOf_elim (answered _) fun _ _ => answered _
  | runTeardowns named key =>
    dsimp only
    exact inRealm_elim (answered _) fun realm _ => withKeyOf_elim (answered _) fun key _ =>
      machine.runTeardowns_resumes realm key
  | withKey named key body =>
    dsimp only
    exact inRealm_elim (answered _) fun _ _ => withKeyOf_elim (answered _) fun _ _ =>
      Focus.resume_ne_unwind
  | register named tag surface body =>
    dsimp only
    exact inRealm_elim (answered _) fun _ _ => Focus.resume_ne_unwind
  | handle name query =>
    dsimp only
    unfold askHandle
    split
    · exact Focus.resume_ne_unwind
    · exact Focus.resume_ne_unwind
    · exact Focus.resume_ne_unwind
    · split <;> exact Focus.resume_ne_unwind
    · split <;> exact Focus.resume_ne_unwind
  | makeCell name value named surface =>
    dsimp only
    exact inRealm_elim (answered _) fun _ _ => Focus.resume_ne_unwind
  | «alias» name =>
    dsimp only
    split <;> exact Focus.resume_ne_unwind
  | _ => exact Focus.resume_ne_unwind

/-- An action that fails at once has put at most frames that only say how a script
goes on. -/
theorem command_fails {subject : String} {command : Command (List Action)}
    (fails : (machine.command subject command).focus = .unwind failure) :
    ∃ put, Plain put ∧ (machine.command subject command).stack = put ++ machine.stack := by
  have still (same : (machine.command subject command).stack = machine.stack) :
      ∃ put, Plain put ∧ (machine.command subject command).stack = put ++ machine.stack :=
    ⟨[], Plain.nil, same⟩
  cases command with
  | throw value => exact still rfl
  | makeList name value named surface =>
    refine still ?_
    simp only [command, inRealm, makeList]
    split
    · rfl
    · split <;> rfl
  | operate operation =>
    simp only [command, operateOn] at fails ⊢
    split
    · exact ⟨[], Plain.nil, rfl⟩
    · next container found =>
      rw [found] at fails
      simp only at fails ⊢
      split
      · next known =>
        rw [if_pos known] at fails
        exact ⟨[.operating container], Plain.cons rfl Plain.nil, operate_fails fails⟩
      · exact ⟨[], Plain.nil, rfl⟩
  | _ => exact absurd fails (command_resumes subject rfl)

/-- Going on with other frames does not begin a failure. -/
theorem resume_resumes {frame : Frame} (mild : frame.canFail = false) {reply going : Reply}
    (resuming : machine.focus = .resume going) :
    (machine.resume frame reply).focus ≠ .unwind failure := by
  have stays : machine.focus ≠ .unwind failure := by simp [resuming]
  cases frame with
  | store | replace | verdict => cases mild
  | body actions =>
    cases actions with
    | nil => exact Focus.resume_ne_unwind
    | cons action actions => cases mild
  | restore | boundary | operating | scope | borrowed => exact stays
  | dispatch container notice waiting =>
    cases waiting with
    | nil => exact Focus.resume_ne_unwind
    | cons subscription waiting =>
      simp only [resume, dispatch]
      split
      · exact Focus.resume_ne_unwind
      · cases notice <;> exact Focus.resume_ne_unwind
  | settle container key =>
    simp only [resume, settle]
    split
    · exact Focus.resume_ne_unwind
    · exact machine.runTeardowns_resumes _ _
  | discharge realm keys =>
    cases keys with
    | nil => exact Focus.resume_ne_unwind
    | cons key keys => exact runTeardowns_resumes _ realm key
  | teardown realm key waiting => cases waiting <;> exact Focus.resume_ne_unwind
  | search container position others body test => cases others <;> exact Focus.resume_ne_unwind
  | _ => exact Focus.resume_ne_unwind

/-- A step that begins a failure takes a frame off that neither belongs to an operation
nor calls callbacks, and puts at most frames that only say how a script goes on. -/
theorem resume_fails {frame : Frame} {reply going : Reply}
    (resuming : machine.focus = .resume going)
    (fails : (machine.resume frame reply).focus = .unwind failure) :
    frame.isOwn = false ∧ frame.isCaller = false ∧
      ∃ put, Plain put ∧ (machine.resume frame reply).stack = put ++ machine.stack := by
  cases frame with
  | body actions =>
    cases actions with
    | nil => cases fails
    | cons action actions =>
      obtain ⟨put, plain, stack⟩ := command_fails fails
      have all : Plain (put ++ [.finish action, .body actions]) :=
        plain.append (Plain.cons rfl (Plain.cons rfl Plain.nil))
      exact ⟨rfl, rfl, _, all, stack.trans (List.append_assoc ..).symm⟩
  | store container =>
    refine ⟨rfl, rfl, [], Plain.nil, ?_⟩
    simp only [resume, store] at fails ⊢
    split
    · rfl
    · next free =>
      rw [if_neg free] at fails
      cases fails
  | replace container =>
    refine ⟨rfl, rfl, [], Plain.nil, ?_⟩
    simp only [resume, replace] at fails ⊢
    split
    · rfl
    · next items found =>
      rw [found] at fails
      simp only at fails ⊢
      split
      · rfl
      · next free =>
        rw [if_neg free] at fails
        cases fails
  | verdict container position others body test =>
    refine ⟨rfl, rfl, [], Plain.nil, ?_⟩
    simp only [resume, verdict] at fails ⊢
    split
    · next accepted =>
      rw [if_pos accepted] at fails
      exact removeAt_fails fails
    · next refused =>
      rw [if_neg refused] at fails
      cases others <;> cases fails
  | _ => exact absurd fails (resume_resumes rfl resuming)

/-- What an action does is not to lose a frame. -/
theorem CommandDoes.ne_abandoned {subject : String} {command : Command (List Action)} {deed : Deed}
    (does : machine.CommandDoes subject command deed) (frame : Frame) :
    deed ≠ .abandoned frame := by
  rintro rfl
  cases does with
  | operated _ _ operates => cases operates

/-- An action loses no frame. -/
theorem commandDeed_ne_abandoned (machine : Machine) (subject : String)
    (command : Command (List Action)) (frame : Frame) :
    machine.commandDeed subject command ≠ .abandoned frame :=
  (machine.command_does subject command).ne_abandoned frame

/-- A frame that goes on is not lost. -/
theorem resumeDeed_ne_abandoned (machine : Machine) (frame other : Frame) (reply : Reply) :
    machine.resumeDeed frame reply ≠ .abandoned other := by
  intro deed
  have does := machine.frame_does frame reply
  rw [deed] at does
  cases does with
  | acted does => exact does.ne_abandoned other rfl

/-- Leaving a frame puts none. -/
theorem stack_unwind (machine : Machine) (frame : Frame) (failure : Failure) :
    (machine.unwind frame failure).stack = machine.stack := by
  cases frame with
  | shield =>
    simp only [unwind]
    split <;> rfl
  | _ => rfl

end Machine

/-- A frame that a failure passes through is the innermost one. -/
theorem Moment.Next.abandoned {before after : Moment} (last : before.Next after) {frame : Frame}
    (latest : after.history = .abandoned frame :: before.history) :
    ∃ rest failure, before.machine.stack = frame :: rest ∧
      before.machine.focus = .unwind failure := by
  cases last with
  | begin finished action =>
    exact absurd (List.cons.inj latest).1 (Machine.commandDeed_ne_abandoned _ _ _ _)
  | step busy =>
    have deed := (List.cons.inj latest).1
    obtain ⟨top, rest, stack⟩ := Machine.exists_frame busy
    cases focus : before.machine.focus with
    | resume reply =>
      simp only [Machine.deed, stack, focus] at deed
      exact absurd deed (Machine.resumeDeed_ne_abandoned _ _ _ _)
    | unwind failure =>
      simp only [Machine.deed, stack, focus] at deed
      cases top with
      | scope | borrowed => cases deed
      | _ =>
        cases deed
        exact ⟨rest, failure, stack, rfl⟩

/-- No subscriber and no teardown is left by a failure. -/
structure Calm (history : List Deed) : Prop where
  /-- No dispatch is left by a failure of one of its subscribers. -/
  dispatches : ∀ container notice waiting,
    Deed.abandoned (.dispatch container notice waiting) ∉ history
  /-- No run of teardowns is left by a failure of one of them. -/
  teardowns : ∀ realm key waiting, Deed.abandoned (.teardown realm key waiting) ∉ history

/-- What was calm in the end was calm before. -/
theorem Calm.of_cons {deed : Deed} {history : List Deed} (calm : Calm (deed :: history)) :
    Calm history :=
  ⟨fun container notice waiting inside =>
    calm.dispatches container notice waiting (List.mem_cons_of_mem _ inside),
    fun realm key waiting inside =>
      calm.teardowns realm key waiting (List.mem_cons_of_mem _ inside)⟩

/-- Where nothing fails the script is calm. -/
theorem Calm.of_all {history : List Deed}
    (smooth : history.all (fun deed => !deed.isFailing) = true) : Calm history := by
  constructor
  · intro container notice waiting inside
    cases List.all_eq_true.mp smooth _ inside
  · intro realm key waiting inside
    cases List.all_eq_true.mp smooth _ inside

/-- The rest of no operation has been lost. -/
def Unbroken (history : List Deed) : Prop :=
  ∀ frame : Frame, frame.isOwn = true → Deed.abandoned frame ∉ history

/-- What was unbroken in the end was unbroken before. -/
theorem Unbroken.of_cons {deed : Deed} {history : List Deed}
    (unbroken : Unbroken (deed :: history)) : Unbroken history :=
  fun frame own inside => unbroken frame own (List.mem_cons_of_mem _ inside)

namespace Moment

/-- No failure stands before the rest of an operation. -/
def IsSafe (moment : Moment) : Prop :=
  ∀ failure, moment.machine.focus = .unwind failure → Clear moment.machine.stack

variable {moment : Moment}

/-- Between two actions no failure stands before the rest of an operation. -/
theorem IsSafe.of_isFinished (finished : moment.machine.isFinished = true) :
    moment.IsSafe := by
  intro failure _
  have empty : moment.machine.stack = [] := Machine.stack_eq_nil finished
  rw [empty]
  trivial

/-- The first step of an action does not let a failure reach the rest of an operation. -/
theorem isSafe_begin (action : Action) :
    (moment.begin action).IsSafe ∧ ∀ frame, moment.idle.actionDeed action ≠ .abandoned frame := by
  refine ⟨fun failure fails => ?_, fun frame => Machine.commandDeed_ne_abandoned _ _ _ frame⟩
  obtain ⟨put, plain, stack⟩ := Machine.command_fails fails
  have ground : Clear moment.idle.stack := trivial
  show Clear (moment.idle.perform action).stack
  rw [Machine.perform, stack]
  exact ground.append plain.inner

/-- A step does not let a failure reach the rest of an operation, unless it leaves a
subscriber or a teardown. -/
theorem IsSafe.step (safe : moment.IsSafe) (busy : moment.machine.isFinished = false)
    (nested : moment.world.Nested moment.history moment.machine.stack)
    {recent : List Deed} (calm : Calm (moment.machine.deed :: recent)) :
    moment.step.IsSafe ∧
      ∀ frame : Frame, frame.isOwn = true → moment.machine.deed ≠ .abandoned frame := by
  obtain ⟨frame, rest, top⟩ := Machine.exists_frame busy
  rw [top] at nested
  cases focus : moment.machine.focus with
  | resume reply =>
    have next := Machine.step_of_resume top focus
    have resuming : Machine.focus { moment.machine with stack := rest } = .resume reply := focus
    refine ⟨fun failure fails => ?_, fun other _ same => ?_⟩
    · change moment.machine.step.focus = _ at fails
      rw [next] at fails
      obtain ⟨own, caller, put, plain, above⟩ := Machine.resume_fails resuming fails
      show Clear moment.machine.step.stack
      rw [next, above]
      exact (nested.1.clear own caller).append plain.inner
    · simp only [Machine.deed, top, focus] at same
      exact Machine.resumeDeed_ne_abandoned _ _ _ _ same
  | unwind failure =>
    have next := Machine.step_of_unwind top focus
    have clear : Clear (frame :: rest) := top ▸ safe failure focus
    have deed : moment.machine.deed = Machine.unwindDeed frame := by
      simp only [Machine.deed, top, focus]
    rw [deed] at calm ⊢
    have caller : frame.isCaller = false := by
      cases frame with
      | dispatch => exact (calm.dispatches _ _ _ List.mem_cons_self).elim
      | teardown => exact (calm.teardowns _ _ _ List.mem_cons_self).elim
      | _ => rfl
    refine ⟨fun failing fails => ?_, fun other own same => ?_⟩
    · show Clear moment.machine.step.stack
      rw [next, Machine.stack_unwind]
      cases frame with
      | scope realm key => exact clear
      | _ => exact nested.1.clear clear caller
    · cases frame with
      | scope => cases same
      | borrowed => cases same
      | _ =>
        cases same
        rw [show Frame.isOwn _ = false from clear] at own
        cases own

/-- On a calm stretch no failure reaches the rest of an operation. -/
theorem Stretch.unbroken {first later : Moment} {recent : List Deed}
    (stretch : first.Stretch recent later) (reached : first.IsReached) (safe : first.IsSafe)
    (calm : Calm recent) : later.IsSafe ∧ Unbroken recent := by
  induction stretch with
  | refl => exact ⟨safe, fun frame _ inside => by cases inside⟩
  | @next recent before after deed earlier last latest ih =>
    obtain ⟨safe, unbroken⟩ := ih calm.of_cons
    have kept : after.IsSafe ∧ ∀ frame : Frame, frame.isOwn = true → deed ≠ .abandoned frame := by
      cases last with
      | step busy =>
        cases latest
        exact safe.step busy (reached.leads earlier.leads).nested calm
      | begin finished action =>
        cases latest
        obtain ⟨still, none⟩ := before.isSafe_begin action
        exact ⟨still, fun frame _ => none frame⟩
    refine ⟨kept.1, fun frame own inside => ?_⟩
    rcases List.mem_cons.mp inside with same | inside
    · exact kept.2 frame own same.symm
    · exact unbroken frame own inside

/-- In a calm script the rest of no operation is lost. -/
theorem IsReached.unbroken (reached : moment.IsReached) (calm : Calm moment.history) :
    Unbroken moment.history := by
  obtain ⟨tracing, leads⟩ := reached
  obtain ⟨recent, stretch⟩ := leads.exists_stretch
  have all : moment.history = recent := stretch.history.trans (List.append_nil _)
  rw [all] at calm ⊢
  exact (stretch.unbroken (.start tracing) (.of_isFinished rfl) calm).2

end Moment

end Observables
