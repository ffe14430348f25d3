import Observables.Proofs.Retention

/-!
# Handles of containers that exist

A handle is made when a container that has a name is subscribed to, and is
never changed. So whatever handles a script has are of containers that exist,
also when the names of these containers have been forgotten.
-/

namespace Observables

open Script

/-- A handle is kept unless its name is empty. -/
theorem World.handles_keepHandle (world : World) (name : String)
    (handle : Handle) : (world.keepHandle name handle).handles =
      if name.isEmpty then world.handles else world.handles.insert name handle := by
  unfold World.keepHandle
  split
  · rfl
  · rfl

namespace Machine

/-- The handles after a step are handles from before it or of containers with names. -/
def Gains (before after : Machine) : Prop :=
  ∀ name handle, after.world.handles.find? name = some handle →
    before.world.handles.find? name = some handle ∨
      ∃ subject, before.world.names.find? subject = some handle.container

/-- A machine that keeps its handles gains none. -/
theorem Gains.of_eq {before after : Machine}
    (kept : after.world.handles = before.world.handles) : before.Gains after := by
  intro name handle found
  rw [kept] at found
  exact .inl found

/-- The handle of a subscription to a channel of a container, if it is made next. -/
def newHandle (machine : Machine) (container : ContainerRef) (channel : Option Channel) : Handle :=
  let held := machine.world.container container
  ⟨machine.world.nextSubscriptionId held.realm, container,
    if held.contents.isList then channel.getD .change else .change, held.surface⟩

/-- A subscription keeps its handle. -/
theorem handles_subscribe (machine : Machine) (container : ContainerRef) (tag : Expression)
    (channel : Option Channel) (body : List Action) :
    ((machine.push [.operating container]).operate container
      (.subscribe tag channel body)).world.handles =
        (machine.world.keepHandle (machine.evaluateName tag)
          (machine.newHandle container channel)).handles := by
  rw [World.handles_keepHandle]
  exact World.handles_keepHandle _ _ _

/-- What becomes of the handles when a command is performed: they stay, one is forgotten, or a
container with a name is subscribed to and its new handle kept under the tag, unless the tag is
empty. -/
inductive Files (machine : Machine) (subject : String) :
    Command (List Action) → Directory Handle → Prop where
  /-- The handles stay. -/
  | kept {command} : Files machine subject command machine.world.handles
  /-- A handle is forgotten. -/
  | forgotten {name} : Files machine subject (.handle name .forget)
      (machine.world.handles.erase (machine.evaluateName name))
  /-- A handle is kept. -/
  | issued {container tag channel body}
      (named : machine.world.names.find? subject = some container)
      (known : (Operation.subscribe tag channel body).isKnown
        (machine.world.container container).surface
        (machine.world.container container).contents.isList = true) :
      Files machine subject (.operate (.subscribe tag channel body))
        (machine.world.keepHandle (machine.evaluateName tag)
          (machine.newHandle container channel)).handles

/-- The handles stay where a command does not change them. -/
theorem Files.of_eq {machine : Machine} {subject : String} {command : Command (List Action)}
    {handles : Directory Handle} (same : handles = machine.world.handles) :
    machine.Files subject command handles := same ▸ .kept

/-- Every command does one of these to the handles. -/
theorem command_files (machine : Machine) (subject : String) (command : Command (List Action)) :
    machine.Files subject command (machine.command subject command).world.handles := by
  cases plain : command.leavesNames with
  | true => exact .of_eq (machine.retains_command subject plain).world.handles
  | false =>
    unfold Machine.command
    cases command with
    | limit id times body =>
      dsimp only
      exact limit_elim (fun _ => .of_eq rfl) fun _ => .of_eq rfl
    | handle handle query =>
      cases query with
      | forget => exact .forgotten
      | unsubscribe | id | describe => cases plain
    | makeCell name value realm surface =>
      dsimp only
      exact inRealm_elim (.of_eq rfl) fun _ _ => .of_eq rfl
    | makeList name value realm surface =>
      dsimp only
      refine inRealm_elim (.of_eq rfl) fun realm _ => .of_eq ?_
      unfold makeList
      split <;> rfl
    | «alias» name =>
      refine .of_eq ?_
      dsimp only
      split <;> rfl
    | openRealm | drop => exact .of_eq rfl
    | operate operation =>
      cases operation with
      | subscribe tag channel body =>
        dsimp only
        refine operateOn_elim (.of_eq rfl) (.of_eq rfl) fun container named known => ?_
        rw [handles_subscribe]
        exact .issued named known
      | _ => cases plain
    | _ => cases plain

/-- A handle that is found after a command was there before, or it is the new one of a
subscription to a container with a name. -/
theorem Files.find? {machine : Machine} {subject : String} {command : Command (List Action)}
    {handles : Directory Handle} (files : machine.Files subject command handles) {name : String}
    {handle : Handle} (found : handles.find? name = some handle) :
    machine.world.handles.find? name = some handle ∨
      ∃ container tag channel body, command = .operate (.subscribe tag channel body) ∧
        machine.world.names.find? subject = some container ∧
        (Operation.subscribe tag channel body).isKnown (machine.world.container container).surface
          (machine.world.container container).contents.isList = true ∧
        handle = machine.newHandle container channel := by
  cases files with
  | kept => exact .inl found
  | forgotten =>
    rw [Directory.find?_erase] at found
    split at found
    · cases found
    · exact .inl found
  | issued named known =>
    rw [World.handles_keepHandle] at found
    split at found
    · exact .inl found
    · rw [Directory.find?_insert] at found
      split at found
      · cases found
        exact .inr ⟨_, _, _, _, rfl, named, known, rfl⟩
      · exact .inl found

/-- A command gains no handles but of containers with names. -/
theorem command_gains (machine : Machine) (subject : String) (command : Command (List Action)) :
    machine.Gains (machine.command subject command) := by
  intro name handle found
  rcases (machine.command_files subject command).find? found with
    before | ⟨container, _, _, _, _, named, _, rfl⟩
  · exact .inl before
  · exact .inr ⟨subject, named⟩

/-- A step gains no handles but of containers with names. -/
theorem resume_gains (machine : Machine) (frame : Frame) (reply : Reply) :
    machine.Gains (machine.resume frame reply) := by
  by_cases inside : ∃ action actions, frame = .body (action :: actions)
  · obtain ⟨action, actions, rfl⟩ := inside
    exact command_gains (machine.push [.finish action, .body actions]) _ _
  · by_cases finishes : ∃ action, frame = .finish action
    · obtain ⟨action, rfl⟩ := finishes
      refine .of_eq ?_
      unfold resume finish
      dsimp only
      split <;> rfl
    · exact .of_eq (machine.retains_resume frame reply
        (fun action actions same => inside ⟨action, actions, same⟩)
        fun action same => finishes ⟨action, same⟩).world.handles

/-- Leaving a frame because of a failure gains no handles. -/
theorem unwind_gains (machine : Machine) (frame : Frame) (failure : Failure) :
    machine.Gains (machine.unwind frame failure) :=
  .of_eq (machine.retains_unwind frame failure).world.handles

/-- A step gains no handles but of containers with names. -/
theorem step_gains (machine : Machine) : machine.Gains machine.step := by
  rcases machine with ⟨world, locals, stack, focus⟩
  cases stack with
  | nil => exact .of_eq rfl
  | cons frame stack =>
    cases focus with
    | resume reply => exact resume_gains ⟨world, locals, stack, .resume reply⟩ frame reply
    | unwind failure => exact unwind_gains ⟨world, locals, stack, .unwind failure⟩ frame failure

end Machine

/-- Every handle is of a container that exists. -/
theorem Moment.IsReached.lt_size_of_handle {moment : Moment} (reached : moment.IsReached) :
    ∀ name handle, moment.world.handles.find? name = some handle →
      handle.container < moment.world.containers.size := by
  have kept (before after : Moment) (reached : before.IsReached)
      (known : ∀ name handle, before.world.handles.find? name = some handle →
        handle.container < before.world.containers.size)
      (next : before.Next after) (gains : before.machine.Gains after.machine) :
      ∀ name handle, after.world.handles.find? name = some handle →
        handle.container < after.world.containers.size := by
    have sound : before.world.Sound := World.sound_invariant.reached reached
    obtain ⟨world, _, _, _, _, same, _, _, _, _, turn⟩ := next.exists_turn
    have grows : before.world.containers.size ≤ after.world.containers.size :=
      same.containers ▸ turn.size_le
    intro name handle found
    rcases gains name handle found with earlier | ⟨subject, named⟩
    · exact Nat.lt_of_lt_of_le (known name handle earlier) grows
    · exact Nat.lt_of_lt_of_le (sound.names subject handle.container named) grows
  refine reached.induction (fun tracing name handle found => by cases found)
    fun before after reached known next => kept before after reached known next ?_
  cases next with
  | step busy => exact before.machine.step_gains
  | begin finished action => exact Machine.command_gains before.idle _ _

end Observables
