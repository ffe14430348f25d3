import Observables.Proofs.Course
import Observables.Proofs.Convergence
import Observables.Proofs.Placement
import Observables.Proofs.TeardownRun

/-!
# Where no failure comes

A shielded container calls its subscribers under shields, and so are teardowns
called that were registered for a shielded surface. A shield stops what a
callback throws itself and lets through only what has left a direct call. As
long as nothing passes a shield, no failure comes to the dispatches of a
shielded container, to the teardowns of its keys, or to what an operation on it
has left to do before or after them.
-/

namespace Observables

open Script

namespace World

/-- The container treats the failures of its script functions as a shielded one does. -/
def IsShielded (world : World) (container : ContainerRef) : Prop :=
  (world.container container).surface = .shielded

/-- A shielded list has given out the key. -/
def Shelters (world : World) (realm : RealmRef) (key : Key) : Prop :=
  ∃ container, world.Owns realm key container ∧ world.IsShielded container

/-- The innermost frame belongs to what a shielded container has left to do, calls teardowns of
a key of a shielded list, or is about to go back to such a frame. -/
def Haven (world : World) : List Frame → Prop
  | .notify container _ :: _ | .dispatch container _ _ :: _ | .announce container _ _ _ :: _
  | .settle container _ :: _ | .restore _ :: .dispatch container _ _ :: _ =>
    world.IsShielded container
  | .teardown realm key _ :: _ | .restore _ :: .teardown realm key _ :: _ =>
    world.Shelters realm key
  | .discharge _ _ :: beneath | .yield _ :: beneath | .scope _ _ :: beneath =>
    world.Haven beneath
  | _ => False

/-- Directly on a haven lies only a haven or a shield. -/
def Walled (world : World) : List Frame → Prop
  | [] => True
  | frame :: beneath =>
    (world.Haven beneath → world.Haven (frame :: beneath) ∨ frame = .shield) ∧
      world.Walled beneath

/-- Every callback treats failures as the container does that it was subscribed to. -/
def Guarded (world : World) (history : List Deed) : Prop :=
  ∀ made ∈ enrolled history, ∀ callback, world.callback? made.subscription = some callback →
    callback.surface = (world.container made.container).surface

end World

namespace Machine

variable {machine : Machine} {container : ContainerRef} {channel : Channel} {id : Nat}
  {subscription : SubscriptionRef}

/-- Where a shield or the end of a call was, nothing is put. -/
theorem step_stack_of_seam {frame : Frame} {rest : List Frame}
    (top : machine.stack = frame :: rest)
    (seam : frame = .shield ∨ ∃ locals, frame = .restore locals) :
    machine.step.stack = rest := by
  cases focus : machine.focus with
  | resume reply =>
    rw [step_of_resume top focus]
    rcases seam with rfl | ⟨locals, rfl⟩
    · rfl
    · rfl
  | unwind failure =>
    rw [step_of_unwind top focus]
    exact stack_unwind _ _ _

/-- An action that subscribes adds a callback with the surface of the container. -/
theorem command_subscribed {subject : String} {command : Command (List Action)}
    (deed : machine.commandDeed subject command =
      .subscribed container channel id subscription) :
    ∃ callback, (machine.command subject command).world.subscriptions =
        machine.world.subscriptions.add ⟨id, callback, true⟩ ∧
      callback.surface = (machine.world.container container).surface := by
  have does := machine.command_does subject command
  rw [deed] at does
  cases does with
  | @operated operation _ _ named known operates =>
    cases operates with
    | @subscribed tag _ body =>
      refine ⟨⟨machine.evaluateName tag, _, body, machine.locals⟩, ?_, rfl⟩
      simp only [command, operateOn, named, known, if_true]
      show (World.keepHandle _ _ _).subscriptions = _
      unfold World.keepHandle
      split
      · rfl
      · rfl

end Machine

/-- What an action does is told from the machine without the rest of its body as well. -/
theorem Machine.commandDeed_body (machine : Machine) (action : Action) (actions : List Action)
    (subject : String) (command : Command (List Action)) :
    (machine.push [.finish action, .body actions]).commandDeed subject command =
      machine.commandDeed subject command := by
  cases command with
  | operate operation => cases operation <;> rfl
  | _ => rfl

/-- A step that subscribes adds a callback with the surface of the container. -/
theorem Moment.Next.subscribed {before after : Moment} (last : before.Next after)
    {container : ContainerRef} {channel : Channel} {id : Nat} {subscription : SubscriptionRef}
    (latest : after.history =
      .subscribed container channel id subscription :: before.history) :
    ∃ callback, after.world.subscriptions =
        before.world.subscriptions.add ⟨id, callback, true⟩ ∧
      callback.surface = (before.world.container container).surface := by
  cases last with
  | step busy =>
    have deed := (List.cons.inj latest).1
    have scripted : before.machine.deed.isScripted = true := by
      rw [deed]
      rfl
    obtain ⟨action, actions, rest, reply, top, focus⟩ := Machine.body_of_isScripted scripted
    simp only [Machine.deed, top, focus] at deed
    have next := Machine.step_of_resume top focus
    show ∃ callback, before.machine.step.world.subscriptions = _ ∧ _
    rw [next]
    have same := Machine.commandDeed_body { before.machine with stack := rest } action actions
    exact Machine.command_subscribed ((same _ _).trans deed)
  | begin finished action => exact Machine.command_subscribed (List.cons.inj latest).1

/-- A callback that is switched on after a subscription is ended was so before. -/
theorem World.callback?_of_modify {world other : World} {ended subscription : SubscriptionRef}
    (table : other.subscriptions = world.subscriptions.modify ended Subscription.deactivate)
    {callback : Callback} (on : other.callback? subscription = some callback) :
    world.callback? subscription = some callback := by
  rw [World.callback?, table, Table.get?_modify] at on
  split at on
  · cases found : world.subscriptions.get? subscription with
    | none =>
      rw [found] at on
      cases on
    | some held =>
      rw [found] at on
      cases on
  · exact on

/-- Every callback treats failures as the container does that it was subscribed to, whenever a
script runs. -/
theorem Moment.IsReached.guarded {moment : Moment} (reached : moment.IsReached) :
    moment.world.Guarded moment.history := by
  have first (tracing : Bool) :
      (Moment.start tracing).world.Guarded (Moment.start tracing).history :=
    fun _ inside => by cases inside
  have kept (before after : Moment) (reached : before.IsReached)
      (guarded : before.world.Guarded before.history) (last : before.Next after) :
      after.world.Guarded after.history := by
    intro made inside callback on
    obtain ⟨world, rest, taken, put, deed, alike, _, _, _, latest, turn⟩ := last.exists_turn
    have surface {container : ContainerRef} (known : container < before.world.containers.size) :
        (after.world.container container).surface = (before.world.container container).surface := by
      rw [← alike.containers] at known
      rw [turn.surface known, alike.container]
    have drawn {made : Enrolment} (old : made ∈ Observables.enrolled before.history) :=
      surface (reached.enrolled.drawn made old).1
    have history := latest
    rw [latest, enrolled_cons] at inside
    rcases turn.subscriptions with ⟨none, _, same⟩ | ⟨_, container, channel, _, found, rfl, same⟩ |
      ⟨handle, rfl, success, same⟩
    · rw [none, List.append_nil] at inside
      rw [World.callback?, same, alike.subscriptions] at on
      rw [drawn inside]
      exact guarded made inside callback on
    · obtain ⟨new, table, agrees⟩ := last.subscribed history
      rw [World.callback?, table, Table.get?_add] at on
      rcases List.mem_append.mp inside with old | fresh
      · have row := reached.enrolled.lt_size old
        rw [if_neg (Nat.ne_of_lt row)] at on
        rw [drawn old]
        exact guarded made old callback on
      · cases List.mem_singleton.mp fresh
        rw [if_pos (congrArg Table.size alike.subscriptions)] at on
        cases on
        have known := reached.held.sound.alike alike |>.names _ _ found
        rw [surface (alike.containers ▸ known), agrees]
    · rw [show Deed.enrolments (.unsubscribed handle) = [] from rfl, List.append_nil] at inside
      obtain ⟨ended, _, undone⟩ := World.unsubscribe_eq success
      have table : after.world.subscriptions =
          before.world.subscriptions.modify ended Subscription.deactivate := by
        rw [same.subscriptions, undone, ← alike.subscriptions]
        rfl
      rw [drawn inside]
      exact guarded made inside callback (World.callback?_of_modify table on)
  exact IsReached.induction first kept reached

/-- What a world has is still there in a later one. -/
structure World.Within (world later : World) : Prop where
  /-- Containers are kept. -/
  size : world.containers.size ≤ later.containers.size
  /-- Containers treat failures as before. -/
  surface : ∀ container < world.containers.size,
    (later.container container).surface = (world.container container).surface
  /-- Lists keep what they have given out. -/
  owns : ∀ {realm key container}, world.Owns realm key container →
    later.Owns realm key container

namespace World.Within

variable {world between later : World}

theorem refl (world : World) : world.Within world :=
  ⟨Nat.le_refl _, fun _ _ => rfl, fun owns => owns⟩

theorem trans (first : world.Within between) (second : between.Within later) :
    world.Within later where
  size := Nat.le_trans first.size second.size
  surface container inside :=
    (second.surface container (Nat.lt_of_lt_of_le inside first.size)).trans
      (first.surface container inside)
  owns owns := second.owns (first.owns owns)

theorem of_alike (same : world.Alike later) : world.Within later where
  size := Nat.le_of_eq (congrArg Table.size same.containers).symm
  surface container _ := by rw [same.container]
  owns owns := owns.alike same

theorem of_turn {rest taken put : List Frame} {deed : Deed}
    (turn : Turn world rest taken deed later put) : world.Within later :=
  ⟨turn.size_le, fun _ inside => turn.surface inside, turn.owns⟩

/-- What is in a world is in every later one of those that it is like. -/
theorem alike (within : world.Within later) (same : world.Alike between) :
    between.Within later where
  size := Nat.le_trans (Nat.le_of_eq (congrArg Table.size same.containers)) within.size
  surface container inside := by
    rw [same.containers] at inside
    rw [within.surface container inside, same.container]
  owns {realm key container} owns := by
    refine within.owns ⟨?_, ?_, ?_⟩
    · rw [← same.container]
      exact owns.isList
    · rw [← owns.realm, World.realmOf, World.realmOf, same.container]
    · rw [← same.container]
      exact owns.allotted

/-- A container that is there is shielded later if it is so before. -/
theorem isShielded_iff (within : world.Within later) {container : ContainerRef}
    (inside : container < world.containers.size) :
    later.IsShielded container ↔ world.IsShielded container := by
  rw [World.IsShielded, within.surface container inside, World.IsShielded]

end World.Within

/-- What there is at a moment is there at all later ones. -/
theorem Moment.Next.within {before after : Moment} (last : before.Next after) :
    before.world.Within after.world := by
  obtain ⟨world, rest, taken, put, deed, alike, _, _, _, _, turn⟩ := last.exists_turn
  exact (World.Within.of_alike alike).trans (.of_turn turn)

/-- What there is at a moment is there at all later ones. -/
theorem Moment.Leads.within {first later : Moment} (leads : first.Leads later) :
    first.world.Within later.world := by
  induction leads with
  | refl => exact .refl _
  | tail _ last ih => exact ih.trans last.within

/-- A frame that settles an element is put on the stack when the element is added. -/
theorem Turn.settle_put {world other : World} {rest taken put : List Frame} {deed : Deed}
    (turn : Turn world rest taken deed other put) {container : ContainerRef} {key : Key}
    (inside : Frame.settle container key ∈ put) :
    ∃ position item, deed = .inserted container position key item ∧
      (world.container container).contents.isList = true := by
  cases turn.arises _ inside with
  | plain plain => cases plain
  | insertedSettle isList => exact ⟨_, _, rfl, isList⟩

/-- The element that a frame settles was added to its list. -/
def World.Arriving (world : World) (stack : List Frame) : Prop :=
  ∀ container key, Frame.settle container key ∈ stack →
    world.Owns (world.realmOf container) key container

/-- Alike worlds have added the same elements. -/
theorem World.Arriving.alike {world other : World} {stack : List Frame}
    (arriving : world.Arriving stack) (same : world.Alike other) : other.Arriving stack := by
  intro container key inside
  have owns := (arriving container key inside).alike same
  exact owns.realm ▸ owns

/-- Every element that is to be settled was added to its list, whenever a script runs. -/
theorem World.Arriving.preserved : Invariant fun world stack _ => world.Arriving stack where
  first _ _ _ inside := by cases inside
  alike same arriving := arriving.alike same
  turn _ arriving _ turn := by
    intro container key inside
    rcases List.mem_append.mp inside with new | old
    · obtain ⟨position, item, rfl, isList⟩ := turn.settle_put new
      have given := turn
      cases turn with
      | inserted =>
        obtain ⟨still, allotted⟩ := given.allotted_insert isList
        exact ⟨still, rfl, allotted⟩
    · have owns := turn.owns (arriving container key (List.mem_append_right _ old))
      exact owns.realm ▸ owns

/-- Every element that is to be settled was added to its list, at every moment. -/
theorem Moment.IsReached.arriving {moment : Moment} (reached : moment.IsReached) :
    moment.world.Arriving moment.machine.stack :=
  World.Arriving.preserved.reached reached

namespace World

variable {final world other : World} {rest taken put stack : List Frame} {frame : Frame}
  {deed : Deed} {history : List Deed}

/-- A frame of a body does not belong to a haven, unless it goes back to a call in one. -/
theorem not_haven_of_inner (own : frame.isOwn = false) (caller : frame.isCaller = false)
    (away : ¬ final.Haven stack) : ¬ final.Haven (frame :: stack) := by
  intro haven
  cases frame with
  | restore locals =>
    cases stack with
    | nil => exact haven
    | cons next stack =>
      cases next with
      | dispatch | teardown => exact away haven
      | _ => exact haven
  | notify | announce | settle | discharge | yield | scope => cases own
  | dispatch | teardown => cases caller
  | _ => exact haven

namespace Walled

/-- What lies under other frames is walled. -/
theorem of_append (walled : final.Walled (taken ++ rest)) : final.Walled rest := by
  induction taken with
  | nil => exact walled
  | cons frame taken ih => exact ih walled.2

/-- Frames of bodies may be put where no haven is, and no haven is there then. -/
theorem append (walled : final.Walled stack) (away : ¬ final.Haven stack) (inner : Inner put) :
    final.Walled (put ++ stack) ∧ ¬ final.Haven (put ++ stack) := by
  induction put with
  | nil => exact ⟨walled, away⟩
  | cons frame put ih =>
    obtain ⟨own, caller⟩ := inner frame List.mem_cons_self
    obtain ⟨others, free⟩ := ih fun frame inside => inner frame (List.mem_cons_of_mem _ inside)
    exact ⟨⟨fun haven => absurd haven free, others⟩, not_haven_of_inner own caller free⟩

/-- Under a frame of a body that neither is a shield nor goes back to a call is no haven. -/
theorem away_of_inner (walled : final.Walled (frame :: rest)) (own : frame.isOwn = false)
    (caller : frame.isCaller = false) (unshielded : frame ≠ .shield)
    (stays : ∀ locals, frame ≠ .restore locals) : ¬ final.Haven rest := by
  intro haven
  rcases walled.1 haven with above | same
  · cases frame with
    | restore locals => exact stays locals rfl
    | notify | announce | settle | discharge | yield | scope => cases own
    | dispatch | teardown => cases caller
    | _ => exact above
  · exact unshielded same

/-- A call may be put on its caller, under a shield if the caller is in a haven. -/
theorem called {caller : Frame} (walled : final.Walled (caller :: rest))
    (calls : caller.isCaller = true) {surface : Surface}
    (shields : final.Haven (caller :: rest) → surface = .shielded) (body : List Action)
    (locals : Variables) : final.Walled (called body surface locals ++ caller :: rest) := by
  have back : final.Haven (.restore locals :: caller :: rest) ↔ final.Haven (caller :: rest) := by
    cases caller with
    | dispatch | teardown => rfl
    | _ => cases calls
  refine ⟨fun haven => ?_, fun haven => ?_, fun haven => .inl (back.mpr haven), walled⟩
  · cases surface with
    | direct => exact haven.elim
    | shielded => exact haven.elim
  · rw [shields (back.mp haven)]
    exact .inr rfl

/-- Every turn leaves only havens and shields on havens, if callbacks have the surfaces that
they should and a frame of a body does not lie on a haven. -/
theorem turn (walled : final.Walled (taken ++ rest)) (within : world.Within final)
    (arriving : world.Arriving (taken ++ rest)) (pertinent : world.Pertinent (taken ++ rest))
    (free : Plain taken → ¬ final.Haven rest)
    (tells : ∀ container notice subscription waiting callback,
      Frame.dispatch container notice (subscription :: waiting) ∈ taken →
      world.callback? subscription = some callback → final.IsShielded container →
      callback.surface = .shielded)
    (tears : ∀ realm key teardown waiting,
      Frame.teardown realm key (teardown :: waiting) ∈ taken → final.Shelters realm key →
      teardown.surface = .shielded)
    (turn : Turn world rest taken deed other put) : final.Walled (put ++ rest) := by
  have below : final.Walled rest := walled.of_append
  have bodies (spent : Plain taken) {frames : List Frame} (inner : Inner frames) :
      final.Walled (frames ++ rest) ∧ ¬ final.Haven (frames ++ rest) :=
    below.append (free spent) inner
  cases turn with
  | dropped | settled | settledEmpty | closed | released | rekeyed | abandoned => exact below
  | quiet spent plain | bound spent plain | refused spent plain | listMade spent plain
  | cellMade spent plain | realmOpened spent plain | drawn spent plain
  | subscribed spent plain | unsubscribed spent plain => exact (bodies spent plain.inner).1
  | passed | notified => exact ⟨fun haven => (walled.1 haven).imp id nofun, below⟩
  | dischargedEmpty => exact ⟨.inl, below⟩
  | @told container notice _ waiting _ _ _ on =>
    have caller : final.Walled (.dispatch container notice waiting :: rest) :=
      ⟨fun haven => (walled.1 haven).imp id nofun, below⟩
    rw [List.append_assoc]
    exact caller.called rfl (tells _ _ _ _ _ (List.mem_singleton_self _) on) _ _
  | @tornDown realm key _ waiting =>
    have caller : final.Walled (.teardown realm key waiting :: rest) :=
      ⟨fun haven => (walled.1 haven).imp id nofun, below⟩
    rw [List.append_assoc]
    exact caller.called rfl (tears _ _ _ _ (List.mem_singleton_self _)) _ _
  | announced => exact ⟨fun haven => (walled.1 haven).imp id nofun, .inl, below⟩
  | ranSettled =>
    refine ⟨fun haven => ?_, .inl, below⟩
    have shielded := (walled.1 haven).resolve_right nofun
    exact .inl ⟨_, within.owns (arriving _ _ List.mem_cons_self), shielded⟩
  | ranDischarged =>
    refine ⟨fun haven => ?_, .inl, .inl, below⟩
    obtain ⟨container, further, rfl, owned⟩ := pertinent.1
    exact .inl ⟨container, within.owns (owned _ List.mem_cons_self), haven⟩
  | @opened _ tail realm key body _ spent plain =>
    obtain ⟨others, away⟩ := bodies spent plain.inner
    have scope : final.Walled (.scope realm key :: (tail ++ rest)) :=
      ⟨fun haven => absurd haven away, others⟩
    exact (scope.append away (plain_scoped body).inner).1
  | ranAsked spent plain =>
    obtain ⟨others, away⟩ := bodies spent plain.inner
    exact ⟨fun haven => absurd haven away, fun haven => absurd haven away, others⟩
  | borrowed spent plain _ inner => exact (bodies spent (inner_reading inner.inner plain)).1
  | setBegun spent plain => exact (bodies spent (inner_reading (inner_replace _) plain)).1
  | setShielded spent plain => exact (bodies spent (inner_setting plain)).1
  | inserted spent plain =>
    obtain ⟨others, away⟩ := bodies spent plain.inner
    exact ⟨.inl, .inl, fun haven => absurd haven away, fun haven => absurd haven away, others⟩
  | removed spent plain =>
    obtain ⟨others, away⟩ := bodies spent plain.inner
    exact ⟨.inl, .inl, fun haven => absurd haven away, fun haven => absurd haven away, others⟩
  | stored =>
    have away := walled.away_of_inner rfl rfl nofun nofun
    exact ⟨fun haven => absurd haven away, below⟩
  | replaced =>
    have away := walled.away_of_inner rfl rfl nofun nofun
    exact ⟨.inl, fun haven => absurd haven away, below⟩

end Walled

end World

/-- Havens are walled, no failure is in one, elements that are to be settled there have keys of
shielded lists, and nobody reads a shielded container. -/
structure Machine.IsInsulated (machine : Machine) (final : World) : Prop where
  /-- On havens lie only havens and shields. -/
  walled : final.Walled machine.stack
  /-- No failure is in a haven. -/
  safe : ∀ failure, machine.focus = .unwind failure → ¬ final.Haven machine.stack
  /-- A shielded list has given out the keys that it settles. -/
  settles : ∀ container key, .settle container key ∈ machine.stack →
    final.IsShielded container → final.Shelters (machine.world.realmOf container) key
  /-- Shielded containers are free. -/
  free : ∀ container, final.IsShielded container → machine.world.isBorrowed container = false

/-- Where no failure is in a haven, control goes on in a haven. -/
theorem Machine.IsInsulated.resumes {machine : Machine} {final : World}
    (insulated : machine.IsInsulated final) (haven : final.Haven machine.stack) :
    ∃ reply, machine.focus = .resume reply := by
  cases focus : machine.focus with
  | resume reply => exact ⟨reply, rfl⟩
  | unwind failure => exact absurd haven (insulated.safe failure focus)

namespace Moment

/-- A failure that no shield stops is about to pass one. -/
def isPierced (moment : Moment) : Bool :=
  match moment.machine.stack, moment.machine.focus with
  | .shield :: _, .unwind failure => !failure.isStoppable
  | _, _ => false

/-- Whatever is done next, no failure passes a shield. -/
def withstands (moment : Moment) (_ : Deed) : Bool := !moment.isPierced

/-- What the script has bound to keys of shielded lists is shielded, and it has opened none of
these keys itself. -/
structure RespectsKeys (moment : Moment) : Prop where
  /-- Teardowns for keys of shielded lists are shielded. -/
  teardowns : ∀ realm key teardown, .registered realm (some key) teardown ∈ moment.history →
    moment.world.Shelters realm key → teardown.surface = .shielded
  /-- No action opens a key of a shielded list. -/
  unopened : ∀ realm key, .opened .asked realm key ∈ moment.history →
    ¬ moment.world.Shelters realm key

/-- A script that binds no direct teardowns to keys and opens no keys keeps to the rules. -/
theorem RespectsKeys.of_all {moment : Moment} (all : moment.history.all (fun
    | .registered _ (some _) teardown => teardown.surface == .shielded
    | .opened .asked _ _ => false
    | _ => true) = true) : moment.RespectsKeys := by
  refine ⟨fun realm key teardown inside _ => ?_, fun realm key inside _ => ?_⟩
  · exact eq_of_beq (List.all_eq_true.mp all _ inside)
  · cases List.all_eq_true.mp all _ inside

variable {before after : Moment} {final : World}

/-- Who waits for a turn in a dispatch of a shielded container is called under a shield. -/
theorem IsReached.surface_of_dispatch (reached : before.IsReached)
    (within : before.world.Within final) {container : ContainerRef} {notice : Notice}
    {subscription : SubscriptionRef} {waiting : List SubscriptionRef} {callback : Callback}
    (inside : .dispatch container notice (subscription :: waiting) ∈ before.machine.stack)
    (on : before.world.callback? subscription = some callback)
    (shielded : final.IsShielded container) : callback.surface = .shielded := by
  obtain ⟨made, known, rfl, _, rfl⟩ :=
    reached.attended _ _ _ inside subscription List.mem_cons_self
  rw [reached.guarded made known callback on]
  exact (within.isShielded_iff (reached.enrolled.drawn made known).1).mp shielded

/-- What waits in a run of teardowns was registered for the key. -/
theorem IsReached.registered_of_waits (reached : before.IsReached) {realm : RealmRef} {key : Key}
    {waiting : List Callback} (inside : .teardown realm key waiting ∈ before.machine.stack)
    {teardown : Callback} (waits : teardown ∈ waiting) :
    .registered realm (some key) teardown ∈ before.history := by
  have accounts := reached.accounted
  have due : teardown ∈ before.machine.stack.flatMap (Frame.waits realm key) := by
    refine List.mem_flatMap.mpr ⟨_, inside, ?_⟩
    rw [Frame.waits, if_pos ⟨rfl, rfl⟩]
    exact waits
  have taken := (accounts.taken realm key).mem_iff.mpr (List.mem_append_right _ due)
  have accepted : teardown ∈ recorded (Deed.accepts realm key) before.history := by
    rw [accounts.accepted]
    exact List.mem_append_left _ taken
  obtain ⟨deed, done, accepts⟩ := List.mem_flatMap.mp accepted
  rw [List.mem_reverse] at done
  unfold Deed.accepts at accepts
  split at accepts
  · split at accepts
    · next same =>
      obtain ⟨rfl, rfl⟩ := same
      rw [List.mem_singleton.mp accepts]
      exact done
    · cases accepts
  · cases accepts

/-- Nobody reads a shielded container. -/
theorem IsReached.free (reached : before.IsReached) (within : before.world.Within final)
    {container : ContainerRef} (shielded : final.IsShielded container) :
    before.world.isBorrowed container = false := by
  rcases Nat.lt_or_ge container before.world.containers.size with inside | beyond
  · cases held : before.world.isBorrowed container with
    | false => rfl
    | true =>
      have direct := reached.held.read.direct _ (reached.held.read.mem_of_isBorrowed held)
      cases direct.symm.trans ((within.isShielded_iff inside).mp shielded)
  · rw [World.isBorrowed, World.container, Table.entry_of_size_le beyond]
    rfl

/-- A turn leaves only havens and shields on havens, if it takes no frame of a body from one. -/
theorem IsReached.walled_turn (reached : before.IsReached)
    (insulated : before.machine.IsInsulated final) (within : before.world.Within final)
    (teardowns : ∀ realm key teardown, .registered realm (some key) teardown ∈ before.history →
      final.Shelters realm key → teardown.surface = .shielded)
    {world other : World} {rest taken put : List Frame} {deed : Deed}
    (alike : before.world.Alike world) (stack : before.machine.stack = taken ++ rest)
    (free : Plain taken → ¬ final.Haven rest) (turn : Turn world rest taken deed other put) :
    final.Walled (put ++ rest) := by
  have known (frame : Frame) (inside : frame ∈ taken) : frame ∈ before.machine.stack :=
    stack ▸ List.mem_append_left _ inside
  have walled := insulated.walled
  have arriving := reached.arriving.alike alike
  have pertinent := reached.pertinent.mono fun owns => owns.alike alike
  rw [stack] at walled arriving pertinent
  refine walled.turn (within.alike alike) arriving pertinent free ?_ ?_ turn
  · intro container notice subscription waiting callback inside on shielded
    rw [World.callback?, alike.subscriptions] at on
    exact reached.surface_of_dispatch within (known _ inside) on shielded
  · intro realm key teardown waiting inside sheltered
    have registered := reached.registered_of_waits (known _ inside) List.mem_cons_self
    exact teardowns _ _ _ registered sheltered

/-- A step leaves only havens and shields on havens. -/
theorem Next.walled (last : before.Next after) (reached : before.IsReached)
    (insulated : before.machine.IsInsulated final) (within : before.world.Within final)
    (teardowns : ∀ realm key teardown, .registered realm (some key) teardown ∈ before.history →
      final.Shelters realm key → teardown.surface = .shielded) :
    final.Walled after.machine.stack := by
  cases last with
  | begin finished action =>
    obtain ⟨put, stack, turn⟩ := Machine.perform_turns before.idle rfl action
    have empty : before.machine.stack = [] := Machine.stack_eq_nil finished
    show final.Walled (before.idle.perform action).stack
    rw [stack]
    have alike : before.world.Alike before.idle.world := .of_eq rfl rfl rfl rfl rfl rfl
    exact reached.walled_turn insulated within teardowns alike empty (fun _ => id) turn
  | step busy =>
    obtain ⟨frame, rest, top⟩ := Machine.exists_frame busy
    have walled := insulated.walled
    rw [top] at walled
    show final.Walled before.machine.step.stack
    by_cases seam : frame = .shield ∨ ∃ locals, frame = .restore locals
    · rw [Machine.step_stack_of_seam top seam]
      exact walled.2
    · obtain ⟨put, stack, turn⟩ := Machine.step_turns top
      rw [stack]
      refine reached.walled_turn insulated within teardowns (.refl _) top (fun plain => ?_) turn
      obtain ⟨own, caller⟩ := plain.inner frame (List.mem_singleton_self _)
      exact walled.away_of_inner own caller (fun same => seam (.inl same))
        fun locals same => seam (.inr ⟨locals, same⟩)

/-- A step does not let a failure come to a haven, unless the failure passes a shield. -/
theorem Next.isInsulated (last : before.Next after) (reached : before.IsReached)
    (insulated : before.machine.IsInsulated final) (unpierced : before.isPierced = false)
    (within : after.world.Within final)
    (teardowns : ∀ realm key teardown, .registered realm (some key) teardown ∈ before.history →
      final.Shelters realm key → teardown.surface = .shielded) :
    after.machine.IsInsulated final := by
  have arriving := (reached.leads (.single last)).arriving
  refine ⟨last.walled reached insulated (last.within.trans within) teardowns,
    fun failure fails => ?_, fun container key due shielded =>
      ⟨container, within.owns (arriving container key due), shielded⟩,
    fun container => (reached.leads (.single last)).free within⟩
  cases last with
  | begin finished action =>
    obtain ⟨put, plain, stack⟩ := Machine.command_fails fails
    have ground : final.Walled [] := trivial
    show ¬ final.Haven (before.idle.perform action).stack
    rw [Machine.perform, stack]
    exact (ground.append id plain.inner).2
  | step busy =>
    obtain ⟨frame, rest, top⟩ := Machine.exists_frame busy
    have walled := insulated.walled
    rw [top] at walled
    change before.machine.step.focus = _ at fails
    show ¬ final.Haven before.machine.step.stack
    cases focus : before.machine.focus with
    | resume reply =>
      have next := Machine.step_of_resume top focus
      rw [next] at fails ⊢
      have resuming : Machine.focus { before.machine with stack := rest } = .resume reply := focus
      obtain ⟨own, caller, put, plain, above⟩ := Machine.resume_fails resuming fails
      have away : ¬ final.Haven rest := by
        refine walled.away_of_inner own caller ?_ ?_
        · rintro rfl
          cases fails
        · rintro locals rfl
          cases resuming.symm.trans fails
      rw [above]
      exact (walled.2.append away plain.inner).2
    | unwind cause =>
      have next := Machine.step_of_unwind top focus
      have away := insulated.safe cause focus
      rw [top] at away
      rw [next] at fails
      rw [next, Machine.stack_unwind]
      intro haven
      rcases walled.1 haven with above | rfl
      · exact away above
      · have passes : cause.isStoppable = true := by
          simpa [isPierced, top, focus] using unpierced
        simp only [Machine.unwind, passes, if_true] at fails
        cases fails

/-- Some script reaches the moment, and no failure passes a shield on the way. -/
def IsUnpierced (moment : Moment) : Prop :=
  ∃ tracing recent, (start tracing).Course withstands recent moment

variable {moment later : Moment} {steps : Nat}

namespace IsUnpierced

/-- Before the first action nothing has failed. -/
theorem start (tracing : Bool) : (Moment.start tracing).IsUnpierced := ⟨tracing, [], .refl⟩

/-- A script goes on with any action when the last one is over. -/
theorem begin (unpierced : moment.IsUnpierced) (finished : moment.machine.isFinished = true)
    (action : Action) : (moment.begin action).IsUnpierced := by
  obtain ⟨tracing, _, course⟩ := unpierced
  have unshielded : moment.isPierced = false := by
    simp only [isPierced, Machine.stack_eq_nil finished]
  have fits (deed : Deed) : moment.withstands deed = true := by
    rw [withstands, unshielded]
    rfl
  exact ⟨tracing, _, course.next (.begin finished action) rfl (fits _)⟩

/-- A moment is reached. -/
theorem isReached (unpierced : moment.IsUnpierced) : moment.IsReached := by
  obtain ⟨tracing, _, course⟩ := unpierced
  exact ⟨tracing, course.stretch.leads⟩

/-- No failure passes a shield in the steps that withstand it. -/
theorem run (unpierced : moment.IsUnpierced) (heeded : moment.heeds withstands steps = true)
    {earlier : Nat} (before : earlier ≤ steps) : (moment.run earlier).IsUnpierced := by
  obtain ⟨tracing, _, course⟩ := unpierced
  obtain ⟨_, further⟩ := course_run (heeds_of_le heeded before)
  exact ⟨tracing, _, course.trans further⟩

/-- If no failure passes a shield then none is in a haven of any later moment at which the
script has kept to the rules for keys. -/
theorem isInsulated (unpierced : moment.IsUnpierced) (leads : moment.Leads later)
    (respects : later.RespectsKeys) : moment.machine.IsInsulated later.world := by
  obtain ⟨tracing, _, course⟩ := unpierced
  induction course with
  | refl =>
    refine ⟨trivial, fun failure fails => ?_, fun container key due => ?_, fun _ => ?_⟩
    · cases fails
    · cases due
    · exact IsReached.free ⟨tracing, .refl⟩ leads.within
  | @next _ before after _ earlier last _ fits ih =>
    have onward : before.Leads later := .head last leads
    have kept := onward.history_suffix
    refine last.isInsulated ⟨tracing, earlier.stretch.leads⟩ (ih onward) ?_ leads.within
      fun realm key teardown inside => respects.teardowns realm key teardown (kept.mem inside)
    simpa [withstands] using fits

end IsUnpierced

/-- A frame that a failure passes through is not the innermost one of a haven. -/
theorem Next.not_haven (last : before.Next after) (insulated : before.machine.IsInsulated final)
    {frame : Frame} (latest : after.history = .abandoned frame :: before.history) :
    ∃ rest, before.machine.stack = frame :: rest ∧ ¬ final.Haven (frame :: rest) := by
  obtain ⟨rest, failure, stack, focus⟩ := last.abandoned latest
  have away := insulated.safe failure focus
  rw [stack] at away
  exact ⟨rest, stack, away⟩

end Moment

end Observables
