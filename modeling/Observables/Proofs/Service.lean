import Observables.Proofs.Chain

/-!
# Whom frames serve

Everything that an operation leaves to frames lies over the frame that says that
the operation is in progress, and this one lies directly over the frames that
were there when the operation began. What comes between belongs to the operation
as well, and of these frames only the key of an element that is being announced
keeps a key open. So the frame of a dispatch or of a run of teardowns can be
traced to the action on whose behalf it calls. The same holds of a run of
teardowns that an action of the script has ordered itself.
-/

namespace Observables

open Script

/-- What is known about the action that is in progress over some frames, in terms of the
container that it operates on, if it does, and of the deed that it began with. -/
abbrev Account := Option ContainerRef → Deed → List Frame → Prop

/-- The frame belongs to what an operation on the container has left to do. -/
def Frame.isLeft (container : ContainerRef) : Frame → Bool
  | .store other | .replace other | .notify other _ | .dispatch other _ _
  | .announce other _ _ _ | .settle other _ | .search other .. | .verdict other .. =>
    container = other
  | .discharge _ _ | .teardown _ _ _ | .yield _ => true
  | _ => false

/-- The frames are what an operation on the container that began with the deed has left to do,
with those that were there before. -/
inductive Remains (known : Account) (container : ContainerRef) (deed : Deed) :
    List Frame → Prop where
  /-- The operation is about to end. -/
  | ending {floor} (account : known (some container) deed floor) :
      Remains known container deed (.operating container :: floor)
  /-- There is more to do. -/
  | more {frame rest} (left : frame.isLeft container = true)
      (remains : Remains known container deed rest) :
      Remains known container deed (frame :: rest)

/-- The frames are what is left of some operation, or what was there before a run of teardowns
that an action has ordered. -/
def Runs (known : Account) (frames : List Frame) : Prop :=
  (∃ container deed, Remains known container deed frames) ∨ ∃ deed, known none deed frames

/-- A frame lies over what is left of the action that it serves. -/
def Frame.Serves (known : Account) (frame : Frame) (beneath : List Frame) : Prop :=
  match frame with
  | .operating container => ∃ deed, known (some container) deed beneath
  | .announce container key item position =>
    Remains known container (.inserted container position key item) beneath
  | .notify container (.added item position) | .dispatch container (.added item position) _ =>
    ∃ realm key further, beneath = .scope realm key :: further ∧
      Remains known container (.inserted container position key item) further
  | .store container | .replace container | .notify container _ | .dispatch container _ _
  | .settle container _ | .search container .. | .verdict container .. =>
    ∃ deed, Remains known container deed beneath
  | .discharge _ _ => ∃ container deed, Remains known container deed beneath
  | .teardown _ _ _ => ∃ value further, beneath = .yield value :: further ∧ Runs known further
  | _ => True

/-- Every frame lies over what is left of the action that it serves. -/
def Served (known : Account) : List Frame → Prop
  | [] => True
  | frame :: beneath => frame.Serves known beneath ∧ Served known beneath

/-- The frame serves nobody in particular. -/
def Frame.isUnbound : Frame → Bool
  | .body _ | .finish _ | .answer _ | .yield _ | .restore _ | .attempt | .shield | .boundary
  | .scope _ _ | .borrowed _ => true
  | _ => false

section

variable {known other : Account} {container : ContainerRef} {deed : Deed}
  {frames beneath : List Frame}

/-- What an operation has left to do lies over the frames that were there before. -/
theorem Remains.exists_floor (remains : Remains known container deed frames) :
    ∃ left floor, frames = left ++ .operating container :: floor ∧
      (∀ frame ∈ left, frame.isLeft container = true) ∧ known (some container) deed floor := by
  induction remains with
  | @ending floor account =>
    exact ⟨[], floor, rfl, fun frame inside => absurd inside List.not_mem_nil, account⟩
  | @more frame rest first _ ih =>
    obtain ⟨left, floor, rfl, others, account⟩ := ih
    exact ⟨frame :: left, floor, rfl, List.forall_mem_cons.mpr ⟨first, others⟩, account⟩

/-- What is known may change as long as it holds of the same frames. -/
theorem Remains.mono (remains : Remains known container deed frames)
    (still : ∀ container deed floor, floor <:+ frames → known container deed floor →
      other container deed floor) : Remains other container deed frames := by
  induction remains with
  | ending account => exact .ending (still _ _ _ (List.suffix_cons _ _) account)
  | more left _ ih =>
    exact .more left (ih fun container deed floor inside =>
      still container deed floor (inside.trans (List.suffix_cons _ _)))

/-- What is known may change as long as it holds of the same frames. -/
theorem Runs.mono (runs : Runs known frames)
    (still : ∀ container deed floor, floor <:+ frames → known container deed floor →
      other container deed floor) : Runs other frames := by
  rcases runs with ⟨container, deed, remains⟩ | ⟨deed, account⟩
  · exact .inl ⟨container, deed, remains.mono still⟩
  · exact .inr ⟨deed, still _ _ _ (List.suffix_refl _) account⟩

/-- What is known may change as long as it holds of the same frames. -/
theorem Frame.Serves.mono {frame : Frame} (serves : frame.Serves known beneath)
    (still : ∀ container deed floor, floor <:+ beneath → known container deed floor →
      other container deed floor) : frame.Serves other beneath := by
  have beyond {first : Frame} {further : List Frame} (same : beneath = first :: further)
      (container : Option ContainerRef) (deed : Deed) (floor : List Frame)
      (inside : floor <:+ further) : known container deed floor → other container deed floor :=
    still container deed floor (same ▸ inside.trans (List.suffix_cons _ _))
  cases frame with
  | operating container =>
    obtain ⟨deed, account⟩ := serves
    exact ⟨deed, still _ _ _ (List.suffix_refl _) account⟩
  | announce => exact Remains.mono serves still
  | notify container notice | dispatch container notice =>
    cases notice with
    | added item position =>
      obtain ⟨realm, key, further, same, remains⟩ := serves
      exact ⟨realm, key, further, same, remains.mono (beyond same)⟩
    | changed | removed =>
      obtain ⟨deed, remains⟩ := serves
      exact ⟨deed, remains.mono still⟩
  | store | replace | settle | search | verdict =>
    obtain ⟨deed, remains⟩ := serves
    exact ⟨deed, remains.mono still⟩
  | discharge =>
    obtain ⟨container, deed, remains⟩ := serves
    exact ⟨container, deed, remains.mono still⟩
  | teardown =>
    obtain ⟨value, further, same, runs⟩ := serves
    exact ⟨value, further, same, runs.mono (beyond same)⟩
  | _ => exact trivial

/-- What is known of the frames beneath may change as long as it holds of the same frames. -/
theorem Served.mono (served : Served known frames)
    (still : ∀ container deed floor, floor <:+ frames → floor.length < frames.length →
      known container deed floor → other container deed floor) : Served other frames := by
  induction frames with
  | nil => exact trivial
  | cons frame frames ih =>
    have beneath (container : Option ContainerRef) (deed : Deed) (floor : List Frame)
        (inside : floor <:+ frames) : known container deed floor → other container deed floor :=
      still container deed floor (inside.trans (List.suffix_cons _ _))
        (Nat.lt_succ_of_le inside.length_le)
    exact ⟨served.1.mono beneath, ih served.2 fun container deed floor inside _ =>
      beneath container deed floor inside⟩

/-- Frames that serve nobody may lie anywhere. -/
theorem Served.append (served : Served known beneath)
    (unbound : ∀ frame ∈ frames, frame.isUnbound = true) : Served known (frames ++ beneath) := by
  induction frames with
  | nil => exact served
  | cons frame frames ih =>
    refine ⟨?_, ih fun other inside => unbound other (List.mem_cons_of_mem _ inside)⟩
    have first := unbound frame List.mem_cons_self
    cases frame with
    | body | finish | answer | yield | restore | attempt | shield | boundary | scope | borrowed =>
      exact trivial
    | _ => cases first

/-- The frames beneath a frame are served if all are. -/
theorem Served.of_append (served : Served known (frames ++ beneath)) : Served known beneath := by
  induction frames with
  | nil => exact served
  | cons frame frames ih => exact ih served.2

end

theorem unbound_called (body : List Action) (surface : Surface) (locals : Variables) :
    ∀ frame ∈ called body surface locals, frame.isUnbound = true := by
  cases surface <;> simp [called, Machine.guard, Frame.isUnbound]

theorem unbound_invoked (body : List Action) (result : Expression) (surface : Surface)
    (locals : Variables) :
    ∀ frame ∈ invoked body result surface locals, frame.isUnbound = true := by
  cases surface <;> simp [invoked, Machine.edge, Frame.isUnbound]

namespace Machine

variable {known : Account} {machine : Machine} {container : ContainerRef} {deed : Deed}
  {floor : List Frame}

theorem served_call (served : Served known machine.stack) (callback : Callback)
    (event : Option Key → Event) (arguments : List (String × Value)) :
    Served known (machine.call callback event arguments).stack :=
  served.append (unbound_called callback.body callback.surface machine.locals)

theorem served_invoke (served : Served known machine.stack) (surface : Surface)
    (arguments : List (String × Value)) (body : List Action) (result : Expression) :
    Served known (machine.invoke surface arguments body result).stack :=
  served.append (unbound_invoked body result surface machine.locals)

/-- The teardowns of a key run over what is left of an operation, or on order of an action. -/
theorem served_runTeardowns (served : Served known machine.stack)
    (runs : Runs known machine.stack) (realm : RealmRef) (key : Key) :
    Served known (machine.runTeardowns realm key).stack := by
  unfold runTeardowns
  split
  · exact served
  · exact ⟨⟨_, _, rfl, runs⟩, trivial, served⟩

/-- An insertion leaves its notices to frames, of which one keeps the new key open. -/
theorem served_insertAt (served : Served known machine.stack) {position : Nat} {item : Value}
    (remains : Remains known container (machine.world.insertion container position item)
      machine.stack) :
    Served known (machine.insertAt container position item).stack := by
  unfold insertAt
  unfold World.insertion at remains
  split
  · exact served
  · next free =>
    rw [if_neg free] at remains
    let key := (machine.world.container container).keys.freshKey
    let place := min position (machine.world.container container).items.length
    have yields : Remains known container _ (.yield .null :: machine.stack) := .more rfl remains
    have settles : Remains known container _
        (.settle container key :: .yield .null :: machine.stack) :=
      .more (decide_eq_true rfl) yields
    have announces : Remains known container _
        (.announce container key item place :: .settle container key :: .yield .null ::
          machine.stack) :=
      .more (decide_eq_true rfl) settles
    exact ⟨⟨_, announces⟩, settles, ⟨_, yields⟩, trivial, served⟩

/-- A removal leaves teardowns and notices to frames. -/
theorem served_removeAt (served : Served known machine.stack)
    (remains : Remains known container deed machine.stack) (position : Nat) :
    Served known (machine.removeAt container position).stack := by
  unfold removeAt
  split
  · exact served
  · dsimp only
    split
    · exact served
    · next item _ =>
      have yields (value : Value) :
          Remains known container deed (.yield value :: machine.stack) := .more rfl remains
      have removes (value : Value) : Remains known container deed
          (.notify container (.removed position) :: .yield value :: machine.stack) :=
        .more (decide_eq_true rfl) (yields value)
      have changes (value : Value) : Remains known container deed (.notify container .changed ::
          .notify container (.removed position) :: .yield value :: machine.stack) :=
        .more (decide_eq_true rfl) (removes value)
      exact ⟨⟨_, _, changes _⟩, ⟨_, removes _⟩, ⟨_, yields _⟩, trivial, served⟩

theorem served_pop (served : Served known machine.stack)
    (remains : Remains known container deed machine.stack) :
    Served known (machine.pop container).stack := by
  unfold pop
  split
  · exact served
  · exact served_removeAt served remains _

theorem served_search (served : Served known machine.stack)
    (remains : Remains known container deed machine.stack) (position : Nat) (rest : List Value)
    (body : List Action) (test : Expression) :
    Served known (machine.search container position rest body test).stack := by
  cases rest with
  | nil => exact served
  | cons item rest =>
    have waits : Served known
        (machine.push [.verdict container position rest body test]).stack :=
      ⟨⟨deed, remains⟩, served⟩
    exact served_invoke waits _ _ _ _

theorem served_verdict (served : Served known machine.stack)
    (remains : Remains known container deed machine.stack) (position : Nat) (rest : List Value)
    (body : List Action) (test : Expression) (answer : Value) :
    Served known (machine.verdict container position rest body test answer).stack := by
  unfold verdict
  split
  · exact served_removeAt served remains _
  · exact served_search served remains _ _ _ _

theorem served_store (served : Served known machine.stack)
    (remains : Remains known container deed machine.stack) (value : Value) :
    Served known (machine.store container value).stack := by
  unfold store
  split
  · exact served
  · exact ⟨⟨deed, remains⟩, served⟩

theorem served_replace (served : Served known machine.stack)
    (remains : Remains known container deed machine.stack) (value : Value) :
    Served known (machine.replace container value).stack := by
  unfold replace
  dsimp only
  split
  · exact served
  · split
    · exact served
    · have changes : Remains known container deed (.notify container .changed :: machine.stack) :=
        .more (decide_eq_true rfl) remains
      exact ⟨⟨_, _, changes⟩, ⟨_, remains⟩, served⟩

theorem served_set (served : Served known machine.stack)
    (remains : Remains known container deed machine.stack) (body : List Action)
    (result : Expression) : Served known (machine.set container body result).stack := by
  have target (contents : Contents) :
      (setterTarget container contents).Serves known machine.stack := by
    cases contents <;> exact ⟨deed, remains⟩
  unfold set
  dsimp only
  split
  · have waits : Served known ((machine.withWorld (machine.world.borrow container)).push
        [.borrowed container,
          setterTarget container (machine.world.container container).contents]).stack :=
      ⟨trivial, target _, served⟩
    exact served_invoke waits _ _ _ _
  · have waits : Served known (machine.push
        [setterTarget container (machine.world.container container).contents]).stack :=
      ⟨target _, served⟩
    exact served_invoke waits _ _ _ _

theorem served_withBorrow (served : Served known machine.stack) (container : ContainerRef)
    (body : List Action) (result : Expression) :
    Served known (machine.withBorrow container body result).stack := by
  have waits : Served known ((machine.withWorld (machine.world.borrow container)).push
      [.borrowed container]).stack := ⟨trivial, served⟩
  exact served_invoke waits _ _ _ _

theorem served_dispatch (served : Served known machine.stack) {notice : Notice}
    {waiting : List SubscriptionRef}
    (serves : (Frame.dispatch container notice waiting).Serves known machine.stack) :
    Served known (machine.dispatch container notice waiting).stack := by
  cases waiting with
  | nil => exact served
  | cons subscription waiting =>
    have waits : Served known (machine.push [.dispatch container notice waiting]).stack := by
      refine ⟨?_, served⟩
      cases notice <;> exact serves
    simp only [dispatch]
    split
    · exact waits
    · unfold tell
      cases notice <;> exact served_call waits _ _ _

theorem served_teardown (served : Served known machine.stack) {realm : RealmRef} {key : Key}
    {waiting : List Callback}
    (serves : (Frame.teardown realm key waiting).Serves known machine.stack) :
    Served known (machine.teardown realm key waiting).stack := by
  cases waiting with
  | nil => exact served
  | cons callback waiting =>
    have waits : Served known (machine.push [.teardown realm key waiting]).stack :=
      ⟨serves, served⟩
    exact served_call waits _ _ _

theorem served_discharge (served : Served known machine.stack)
    (remains : Remains known container deed machine.stack) (realm : RealmRef) (keys : List Key) :
    Served known (machine.discharge realm keys).stack := by
  cases keys with
  | nil => exact served
  | cons key keys =>
    have waits : Served known (machine.push [.discharge realm keys]).stack :=
      ⟨⟨container, deed, remains⟩, served⟩
    have left : Remains known container deed (machine.push [.discharge realm keys]).stack :=
      .more rfl remains
    exact served_runTeardowns waits (.inl ⟨container, deed, left⟩) realm key

theorem served_settle (served : Served known machine.stack)
    (remains : Remains known container deed machine.stack) (target : ContainerRef) (key : Key) :
    Served known (machine.settle target key).stack := by
  unfold settle
  split
  · exact served
  · exact served_runTeardowns served (.inl ⟨container, deed, remains⟩) _ _

theorem served_announce (served : Served known machine.stack) {key : Key} {item : Value}
    {position : Nat}
    (remains : Remains known container (.inserted container position key item) machine.stack) :
    Served known (machine.announce container key item position).stack :=
  ⟨⟨_, key, _, rfl, remains⟩, trivial, served⟩

theorem served_notify (served : Served known machine.stack) {notice : Notice}
    (serves : (Frame.notify container notice).Serves known machine.stack) :
    Served known (machine.notify container notice).stack := by
  refine ⟨?_, served⟩
  cases notice <;> exact serves

/-- What is left when a frame goes on is served, unless it goes on with an action. -/
theorem served_resume {frame : Frame} (served : Served known (frame :: machine.stack))
    (reply : Reply) (idle : ∀ action actions, frame ≠ .body (action :: actions)) :
    Served known (machine.resume frame reply).stack := by
  obtain ⟨serves, served⟩ := served
  unfold resume
  cases frame with
  | body actions =>
    cases actions with
    | nil => exact served
    | cons action actions => exact absurd rfl (idle action actions)
  | store container =>
    obtain ⟨deed, remains⟩ := serves
    exact served_store served remains _
  | replace container =>
    obtain ⟨deed, remains⟩ := serves
    exact served_replace served remains _
  | notify container notice => exact served_notify served serves
  | dispatch container notice waiting => exact served_dispatch served serves
  | announce container key item position => exact served_announce served serves
  | settle container key =>
    obtain ⟨deed, remains⟩ := serves
    exact served_settle served remains container key
  | discharge realm keys =>
    obtain ⟨container, deed, remains⟩ := serves
    exact served_discharge served remains realm keys
  | teardown realm key waiting => exact served_teardown served serves
  | search container position rest body test =>
    obtain ⟨deed, remains⟩ := serves
    exact served_search served remains _ _ _ _
  | verdict container position rest body test =>
    obtain ⟨deed, remains⟩ := serves
    exact served_verdict served remains _ _ _ _ _
  | finish action =>
    dsimp only
    unfold finish
    dsimp only
    split <;> exact served
  | _ => exact served

/-- What is left when a failure has passed a frame is served. -/
theorem served_unwind {frame : Frame} (served : Served known (frame :: machine.stack))
    (failure : Failure) : Served known (machine.unwind frame failure).stack := by
  obtain ⟨_, served⟩ := served
  cases frame with
  | shield =>
    simp only [unwind]
    split <;> exact served
  | _ => exact served

/-- An operation leaves frames that serve it. -/
theorem served_operate (stack : machine.stack = .operating container :: floor)
    (served : Served known floor) {operation : Operation (List Action)}
    (account : known (some container) (machine.operationDeed container operation) floor) :
    Served known (machine.operate container operation).stack := by
  have remains : Remains known container (machine.operationDeed container operation)
      machine.stack := stack ▸ .ending account
  have served : Served known machine.stack := by
    rw [stack]
    exact ⟨⟨_, account⟩, served⟩
  unfold operate
  cases operation with
  | borrow body result => exact served_withBorrow served container body result
  | set body result => exact served_set served remains body result
  | keyAt position =>
    dsimp only
    exact atPosition_elim served fun _ _ => served
  | positionOf key =>
    dsimp only
    split <;> exact served
  | push item => exact served_insertAt served remains
  | insertAt position item =>
    dsimp only
    refine atPosition_elim served fun place found => ?_
    simp only [operationDeed, found] at remains
    exact served_insertAt served remains
  | pop => exact served_pop served remains
  | removeAt position =>
    dsimp only
    exact atPosition_elim served fun _ _ => served_removeAt served remains _
  | findAndRemove body test => exact served_search served remains _ _ _ _
  | _ => exact served

/-- A command leaves frames that serve it, if something is known about it in case it operates on
a container or runs teardowns. -/
theorem served_command (served : Served known machine.stack) {subject : String}
    {command : Command (List Action)}
    (operates : ∀ container operation, command = .operate operation →
      machine.world.names.find? subject = some container →
      operation.isKnown (machine.world.container container).surface
        (machine.world.container container).contents.isList = true →
      known (some container) (machine.commandDeed subject command) machine.stack)
    (runs : ∀ realm key, command = .runTeardowns realm key →
      known none (machine.commandDeed subject command) machine.stack) :
    Served known (machine.command subject command).stack := by
  unfold Machine.command
  cases command with
  | limit id times body =>
    dsimp only
    exact limit_elim (fun _ => ⟨trivial, served⟩) fun _ => served
  | branch | attempt => exact served.append (by simp [Frame.isUnbound])
  | sameRealm left right =>
    dsimp only
    exact inRealm_elim served fun _ _ => inRealm_elim served fun _ _ => served
  | realm name query =>
    dsimp only
    refine inRealm_elim served fun realm _ => ?_
    unfold askRealm
    cases query <;> exact served
  | pending name key =>
    dsimp only
    exact inRealm_elim served fun _ _ => withKeyOf_elim served fun _ _ => served
  | runTeardowns name key =>
    dsimp only
    exact inRealm_elim served fun realm _ => withKeyOf_elim served fun read _ =>
      served_runTeardowns served (.inr ⟨_, runs name key rfl⟩) realm read
  | withKey name key body =>
    dsimp only
    exact inRealm_elim served fun _ _ => withKeyOf_elim served fun _ _ =>
      ⟨trivial, trivial, trivial, served⟩
  | register name tag surface body =>
    dsimp only
    exact inRealm_elim served fun _ _ => served
  | handle name query =>
    dsimp only
    unfold askHandle
    split
    · exact served
    · exact served
    · exact served
    · split <;> exact served
    · split <;> exact served
  | makeCell name value realm surface =>
    dsimp only
    exact inRealm_elim served fun _ _ => served
  | makeList name value realm surface =>
    dsimp only
    refine inRealm_elim served fun realm _ => ?_
    unfold makeList
    split <;> exact served
  | «alias» name =>
    dsimp only
    split <;> exact served
  | operate operation =>
    dsimp only
    refine operateOn_elim served served fun container named known => ?_
    have account := operates container operation rfl named known
    simp only [commandDeed, named, known, if_true] at account
    exact served_operate rfl served account
  | _ => exact served

end Machine

end Observables
