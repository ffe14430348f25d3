import Observables.Proofs.Handle
import Observables.Proofs.Performer

/-!
# Handles on file

A subscription is made by subscribing to a container with a name and ended by an
order to its handle, and no other action does either. Every handle that a script
keeps or has used is of a subscription that was made. A container exists while
it has a name or an operation on it is in progress.
-/

namespace Observables

open Script

/-- Keeping a handle leaves the names of containers alone. -/
theorem World.names_keepHandle (world : World) (name : String) (handle : Handle) :
    (world.keepHandle name handle).names = world.names := by
  unfold World.keepHandle
  split
  · rfl
  · rfl

/-- The deed makes or ends a subscription. -/
def Deed.isEnrolling : Deed → Bool
  | .subscribed .. | .unsubscribed _ => true
  | _ => false

namespace Machine

variable {machine : Machine} {subject : String} {command : Command (List Action)}

/-- Every command leaves the names of containers distinct. -/
theorem distinct_command {machine : Machine} (distinct : machine.world.names.Distinct)
    (subject : String) (command : Command (List Action)) :
    (machine.command subject command).world.names.Distinct := by
  cases plain : command.leavesNames with
  | true => exact (machine.retains_command subject plain).world.names ▸ distinct
  | false =>
    unfold Machine.command
    cases command with
    | limit id times body =>
      dsimp only
      exact limit_elim (fun _ => distinct) fun _ => distinct
    | makeCell name value realm surface =>
      dsimp only
      exact inRealm_elim distinct fun _ _ => distinct.insert _ _
    | makeList name value realm surface =>
      dsimp only
      refine inRealm_elim distinct fun realm _ => ?_
      unfold makeList
      split
      · exact distinct
      · exact distinct.insert _ _
      · exact distinct
      · exact distinct.insert _ _
    | «alias» name =>
      dsimp only
      split
      · exact distinct
      · exact distinct.insert _ _
    | drop name => exact distinct.erase _
    | openRealm => exact distinct
    | handle handle query =>
      cases query with
      | forget => exact distinct
      | unsubscribe | id | describe => cases plain
    | operate operation =>
      cases operation with
      | subscribe tag channel body =>
        dsimp only
        refine operateOn_elim distinct distinct fun container _ _ => ?_
        have same : ((machine.push [.operating container]).operate container
            (.subscribe tag channel body)).world.names = machine.world.names :=
          World.names_keepHandle _ _ _
        exact same ▸ distinct
      | _ => cases plain
    | _ => cases plain

/-- What the first step of a command does about subscriptions: nothing, or it makes one on a
container with a name, or it ends one through a handle. -/
inductive Enrols (machine : Machine) (subject : String) :
    Command (List Action) → Deed → Prop where
  /-- Nothing is done about subscriptions. -/
  | other {command deed} (apart : deed.isEnrolling = false) : Enrols machine subject command deed
  /-- A container with a name is subscribed to. -/
  | subscribed {container tag channel body}
      (named : machine.world.names.find? subject = some container)
      (known : (Operation.subscribe tag channel body).isKnown
        (machine.world.container container).surface
        (machine.world.container container).contents.isList = true) :
      Enrols machine subject (.operate (.subscribe tag channel body))
        (.subscribed container (machine.newHandle container channel).channel
          (machine.newHandle container channel).id machine.world.subscriptions.size)
  /-- The subscription of a handle is ended. -/
  | unsubscribed {name handle}
      (found : machine.world.handles.find? (machine.evaluateName name) = some handle)
      (alive : machine.isAlive handle.container = true)
      (success : (machine.world.unsubscribe handle).1 = true) :
      Enrols machine subject (.handle name .unsubscribe) (.unsubscribed handle)

/-- Every command does one of these about subscriptions. -/
theorem command_enrols (machine : Machine) (subject : String) (command : Command (List Action)) :
    machine.Enrols subject command (machine.commandDeed subject command) := by
  have does := machine.command_does subject command
  generalize machine.commandDeed subject command = deed at does ⊢
  cases does with
  | unsubscribed found alive success => exact .unsubscribed found alive success
  | operated named known operates =>
    cases operates with
    | subscribed => exact .subscribed named known
    | _ => exact .other rfl
  | _ => exact .other rfl

/-- What ends a subscription is an order to its handle that succeeds. -/
theorem Enrols.of_unsubscribed {handle : Handle}
    (enrols : machine.Enrols subject command (.unsubscribed handle)) :
    ∃ name, command = .handle name .unsubscribe ∧
      machine.world.handles.find? (machine.evaluateName name) = some handle ∧
      machine.isAlive handle.container = true ∧ (machine.world.unsubscribe handle).1 = true := by
  cases enrols with
  | other apart => cases apart
  | unsubscribed found alive success => exact ⟨_, rfl, found, alive, success⟩

/-- What makes a subscription is a subscription to a container with a name. -/
theorem Enrols.of_subscribed {container : ContainerRef} {channel : Channel} {id : Nat}
    {subscription : SubscriptionRef}
    (enrols : machine.Enrols subject command (.subscribed container channel id subscription)) :
    ∃ tag named body, command = .operate (.subscribe tag named body) ∧
      machine.world.names.find? subject = some container := by
  cases enrols with
  | other apart => cases apart
  | subscribed found => exact ⟨_, _, _, rfl, found⟩

/-- A subscription to a container with a name makes the one that its new handle ends. -/
theorem commandDeed_subscribe {container : ContainerRef} {tag : Expression}
    {channel : Option Channel} {body : List Action}
    (named : machine.world.names.find? subject = some container)
    (known : (Operation.subscribe tag channel body).isKnown
      (machine.world.container container).surface
      (machine.world.container container).contents.isList = true) :
    machine.commandDeed subject (.operate (.subscribe tag channel body)) =
      .subscribed container (machine.newHandle container channel).channel
        (machine.newHandle container channel).id machine.world.subscriptions.size := by
  simp only [commandDeed, named, known, if_true]
  rfl

end Machine

/-- The handle that ends a subscription. -/
def Enrolment.handle (made : Enrolment) (world : World) : Handle :=
  ⟨made.id, made.container, made.channel, (world.container made.container).surface⟩

/-- The handle is of a subscription that was made. -/
def Moment.Issued (moment : Moment) (handle : Handle) : Prop :=
  ∃ made ∈ enrolled moment.history, handle = made.handle moment.world

/-- Names and handles are in order: no name stands twice, and every handle that is kept or was
used is of a subscription that was made. -/
structure Moment.Filed (moment : Moment) : Prop where
  /-- No container name stands twice. -/
  names : moment.world.names.Distinct
  /-- The handles that are kept were issued. -/
  kept : ∀ name handle, moment.world.handles.find? name = some handle → moment.Issued handle
  /-- The handles that were used were issued. -/
  used : ∀ handle, .unsubscribed handle ∈ moment.history → moment.Issued handle

namespace Moment

variable {moment after : Moment} {handle : Handle}

/-- Containers that exist keep their surface. -/
theorem Next.surface (follows : moment.Next after) {container : ContainerRef}
    (inside : container < moment.world.containers.size) :
    (after.world.container container).surface = (moment.world.container container).surface := by
  obtain ⟨world, _, _, _, _, alike, _, _, _, _, turn⟩ := follows.exists_turn
  have there : container < world.containers.size := by rw [alike.containers]; exact inside
  rw [← alike.container]
  exact turn.surface there

/-- A handle stays issued. -/
theorem Issued.next (issued : moment.Issued handle) (reached : moment.IsReached)
    (follows : moment.Next after) : after.Issued handle := by
  obtain ⟨made, known, rfl⟩ := issued
  have suffix := Leads.history_suffix (.single follows)
  have inside := (reached.enrolled.drawn made known).1
  refine ⟨made, (enrolled_suffix suffix).subset known, ?_⟩
  rw [Enrolment.handle, Enrolment.handle, follows.surface inside]

/-- From each moment to the next names and handles stay in order. -/
theorem Filed.next (filed : moment.Filed) (reached : moment.IsReached)
    (follows : moment.Next after) : after.Filed := by
  have still {handle : Handle} (issued : moment.Issued handle) : after.Issued handle :=
    issued.next reached follows
  rcases follows.performs_or with ⟨action, height, performs⟩ | ⟨names, handles, deed, latest, quiet⟩
  · obtain ⟨machine, begun⟩ := performs.exists_begun
    have same := begun.world_eq
    have handles : machine.world.handles = moment.world.handles := by rw [same]
    have world : after.world =
        (machine.command (machine.subjectName action) action.command).world :=
      congrArg Machine.world begun.performs
    refine ⟨?_, fun name handle found => ?_, fun handle used => ?_⟩
    · rw [world]
      refine Machine.distinct_command ?_ _ _
      rw [same]
      exact filed.names
    · rw [world] at found
      rcases (machine.command_files _ _).find? found with
        before | ⟨container, tag, channel, body, subscribes, named, known, rfl⟩
      · rw [handles] at before
        exact still (filed.kept name handle before)
      · let handle := machine.newHandle container channel
        let made : Enrolment :=
          ⟨container, handle.channel, handle.id, machine.world.subscriptions.size⟩
        have deed : machine.actionDeed action =
            .subscribed container handle.channel handle.id machine.world.subscriptions.size := by
          rw [Machine.actionDeed, subscribes]
          exact Machine.commandDeed_subscribe named known
        have enrols : made ∈ enrolled after.history := by
          rw [begun.history, deed, enrolled_cons]
          exact List.mem_append_right _ (List.mem_singleton_self made)
        have sound : moment.world.Sound := World.sound_invariant.reached reached
        rw [same] at named
        refine ⟨made, enrols, ?_⟩
        rw [Enrolment.handle, follows.surface (sound.names _ container named),
          ← begun.container_eq]
        rfl
    · rw [begun.history] at used
      rcases List.mem_cons.mp used with now | before
      · have enrols := machine.command_enrols (machine.subjectName action) action.command
        rw [← Machine.actionDeed, ← now] at enrols
        obtain ⟨name, _, found, _⟩ := enrols.of_unsubscribed
        rw [handles] at found
        exact still (filed.kept _ handle found)
      · exact still (filed.used handle before)
  · refine ⟨names ▸ filed.names, fun name handle found => ?_, fun handle used => ?_⟩
    · rw [handles] at found
      exact still (filed.kept name handle found)
    · rw [latest] at used
      rcases List.mem_cons.mp used with now | before
      · rw [← now] at quiet
        cases quiet
      · exact still (filed.used handle before)

/-- Names and handles are in order at every moment. -/
theorem IsReached.filed (reached : moment.IsReached) : moment.Filed :=
  reached.induction (fun _ => ⟨List.nodup_nil, fun _ _ found => (nomatch found),
    fun _ used => (nomatch used)⟩)
    fun _ _ reached filed follows => filed.next reached follows

/-- A container exists while it has a name or an operation on it is in progress. -/
theorem IsReached.isAlive_iff (reached : moment.IsReached) (container : ContainerRef) :
    moment.machine.isAlive container = true ↔
      (∃ name, moment.world.names.find? name = some container) ∨
        .operating container ∈ moment.machine.stack := by
  have names := reached.filed.names.mem_values container
  have operates : moment.machine.operatesOn container = true ↔
      .operating container ∈ moment.machine.stack := by
    rw [Machine.operatesOn, List.any_eq_true]
    constructor
    · rintro ⟨frame, inside, same⟩
      cases frame with
      | operating other =>
        rw [eq_of_beq same]
        exact inside
      | _ => cases same
    · exact fun inside => ⟨_, inside, beq_self_eq_true container⟩
  rw [Machine.isAlive, Bool.or_eq_true, List.contains_iff_mem, operates]
  exact or_congr_left names

end Moment

end Observables
