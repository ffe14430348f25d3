import Observables.Proofs.TwinRun

/-!
# Bystanders

While the scripts of one container run, what they change belongs to its
estate: the container, its keys, its names of handles, its counters and its
variables. Whatever belongs to another container stays as it is.
-/

namespace Observables

open Script

/-- Nothing has changed that is kept under names outside of the estate. -/
structure Estate.Minds (estate : Estate) (before after : Machine) : Prop where
  /-- The names of containers are the same. -/
  names : after.world.names = before.world.names
  /-- The names of realms are the same. -/
  realmNames : after.world.realmNames = before.world.realmNames
  /-- Other handles are the same. -/
  handles : ∀ name, estate.handles name = false →
    after.world.handles.find? name = before.world.handles.find? name
  /-- Others have arrived at their limited bodies as often. -/
  arrivals : ∀ name, estate.counters name = false →
    after.world.arrivals.find? name = before.world.arrivals.find? name
  /-- The trace is wanted or not as before. -/
  tracing : after.world.journal.tracing = before.world.journal.tracing
  /-- Other variables of the outermost level have the same values. -/
  ground : ∀ name, estate.written name = false →
    after.ground.find? name = before.ground.find? name

/-- Who retains everything minds every estate. -/
theorem Machine.Retains.minds {before after : Machine} (retains : before.Retains after)
    (estate : Estate) : estate.Minds before after where
  names := retains.world.names
  realmNames := retains.world.realmNames
  handles name _ := by rw [retains.world.handles]
  arrivals name _ := by rw [retains.world.arrivals]
  tracing := retains.world.tracing
  ground name _ := by rw [retains.ground]

/-- Variables that agree on a name still agree on it when calls have returned. -/
theorem Frame.find?_caller {locals others : Variables} {name : String}
    (same : others.find? name = locals.find? name) (stack : List Frame) :
    (stack.foldl caller others).find? name = (stack.foldl caller locals).find? name := by
  induction stack generalizing locals others with
  | nil => exact same
  | cons frame stack ih =>
    refine ih ?_
    cases frame with
    | restore outer => rfl
    | _ => exact same

namespace Estate

variable {estate : Estate} {machine : Machine}

/-- What is minded in two steps is minded. -/
theorem Minds.trans {first second third : Machine} (early : estate.Minds first second)
    (late : estate.Minds second third) : estate.Minds first third where
  names := late.names.trans early.names
  realmNames := late.realmNames.trans early.realmNames
  handles name outside := (late.handles name outside).trans (early.handles name outside)
  arrivals name outside := (late.arrivals name outside).trans (early.arrivals name outside)
  tracing := late.tracing.trans early.tracing
  ground name outside := (late.ground name outside).trans (early.ground name outside)

/-- A name of the estate is not one from outside. -/
theorem ne_of_owned {owned : String → Bool} {name other : String} (inside : owned name = true)
    (outside : owned other = false) : other ≠ name := by
  rintro rfl
  cases inside.symm.trans outside

/-- A subscription keeps its handle in the estate. -/
theorem minds_subscribe (container : ContainerRef) {tag : Expression}
    (own : (machine.evaluateName tag).isEmpty = true ∨
      estate.handles (machine.evaluateName tag) = true)
    (channel : Channel) (body : List Action) :
    estate.Minds machine (machine.subscribe container tag channel body) := by
  unfold Machine.subscribe World.keepHandle
  dsimp only
  split
  · exact ⟨rfl, rfl, fun _ _ => rfl, fun _ _ => rfl, rfl, fun _ _ => rfl⟩
  · next named =>
    have inside := own.resolve_left named
    refine ⟨rfl, rfl, fun name outside => ?_, fun _ _ => rfl, rfl, fun _ _ => rfl⟩
    exact (Directory.find?_insert _ _ _ _).trans (if_neg (ne_of_owned inside outside))

/-- A command that keeps to the estate minds it. -/
theorem minds_command {subject : String} {command : Command (List Action)}
    (admits : estate.admitsCommand machine subject command = true) :
    estate.Minds machine (machine.command subject command) := by
  cases plain : command.leavesNames with
  | true => exact (machine.retains_command subject plain).minds estate
  | false =>
    unfold Machine.command
    cases command with
    | limit id times body =>
      obtain ⟨_, own⟩ := Bool.and_eq_true_iff.mp admits
      dsimp only
      unfold Machine.limit
      have counted (count : Nat) (name : String) (outside : estate.counters name = false) :
          (machine.world.arrivals.insert (machine.evaluateName id) count).find? name =
            machine.world.arrivals.find? name :=
        (Directory.find?_insert _ _ _ _).trans (if_neg (ne_of_owned own outside))
      dsimp only
      split
      · exact ⟨rfl, rfl, fun _ _ => rfl, counted _, rfl, fun _ _ => rfl⟩
      · exact ⟨rfl, rfl, fun _ _ => rfl, counted _, rfl, fun _ _ => rfl⟩
    | handle name query =>
      obtain ⟨both, _⟩ := Bool.and_eq_true_iff.mp admits
      obtain ⟨_, own⟩ := Bool.and_eq_true_iff.mp both
      cases query with
      | forget =>
        refine ⟨rfl, rfl, fun other outside => ?_, fun _ _ => rfl, rfl, fun _ _ => rfl⟩
        exact (Directory.find?_erase _ _ _).trans (if_neg (ne_of_owned own outside))
      | unsubscribe | id | describe => cases plain
    | operate operation =>
      obtain ⟨_, within⟩ := Bool.and_eq_true_iff.mp admits
      cases operation with
      | subscribe tag channel body =>
        obtain ⟨_, own⟩ := Bool.and_eq_true_iff.mp within
        have still (word : String) : machine.Retains (machine.answer (.text word)) :=
          ⟨.refl _, rfl⟩
        dsimp only
        refine Machine.operateOn_elim ((still _).minds estate) ((still _).minds estate)
          fun container found _ => ?_
        let operating := machine.push [.operating container]
        have pushed : machine.Retains operating := machine.retains_push rfl
        have named : (operating.evaluateName tag).isEmpty = true ∨
            estate.handles (operating.evaluateName tag) = true := Bool.or_eq_true_iff.mp own
        exact (pushed.minds estate).trans (minds_subscribe container named _ body)
      | _ => cases plain
    | openRealm | makeCell | makeList | drop | «alias» => cases admits
    | _ => cases plain

/-- The end of an action whose result is kept in the estate minds it. -/
theorem minds_finish {action : Action} (own : action.result.all estate.written = true)
    (reply : Reply) :
    estate.Minds { machine with stack := .finish action :: machine.stack }
      (machine.finish action reply) := by
  have ground (name : String) (outside : estate.written name = false) :
      (machine.finish action reply).ground.find? name = machine.ground.find? name := by
    refine Frame.find?_caller ?_ machine.stack
    unfold Machine.finish
    cases result : action.result with
    | none => rfl
    | some kept =>
      rw [result] at own
      exact (Directory.find?_insert _ _ _ _).trans (if_neg (ne_of_owned own outside))
  unfold Machine.finish at ground ⊢
  dsimp only at ground ⊢
  split
  · next null =>
    rw [if_pos null] at ground
    exact ⟨rfl, rfl, fun _ _ => rfl, fun _ _ => rfl, rfl, ground⟩
  · next told =>
    rw [if_neg told] at ground
    exact ⟨rfl, rfl, fun _ _ => rfl, fun _ _ => rfl, rfl, ground⟩

/-- An action that keeps to the estate minds it. -/
theorem minds_perform {action : Action} (admits : estate.admits machine action = true) :
    estate.Minds machine (machine.perform action) :=
  minds_command (Bool.and_eq_true_iff.mp admits).2

/-- A step minds the estate if what is begun keeps to it and all results are kept in it. -/
theorem minds_step {discreet : Bool} (watched : estate.watches discreet machine = true)
    (own : ∀ action, .finish action ∈ machine.stack →
      action.result.all estate.written = true) :
    estate.Minds machine machine.step := by
  rcases machine with ⟨world, locals, stack, focus⟩
  cases stack with
  | nil => exact (⟨.refl _, rfl⟩ : Machine.Retains _ _).minds estate
  | cons frame rest =>
    cases focus with
    | unwind failure =>
      exact (Machine.retains_unwind ⟨world, locals, rest, .unwind failure⟩ frame failure).minds
        estate
    | resume reply =>
      by_cases inside : ∃ action actions, frame = .body (action :: actions)
      · obtain ⟨action, actions, rfl⟩ := inside
        let begun := (⟨world, locals, rest, .resume reply⟩ : Machine).push
          [.finish action, .body actions]
        have pushed : Machine.Retains
            ⟨world, locals, .body (action :: actions) :: rest, .resume reply⟩ begun :=
          ⟨.refl _, rfl⟩
        have admits : estate.admits begun action = true := (Bool.and_eq_true_iff.mp watched).1
        exact (pushed.minds estate).trans (minds_perform admits)
      · by_cases finishes : ∃ action, frame = .finish action
        · obtain ⟨action, rfl⟩ := finishes
          have finished : estate.Minds _
              (Machine.finish ⟨world, locals, rest, .resume reply⟩ action reply) :=
            minds_finish (own action List.mem_cons_self) reply
          exact finished
        · exact (Machine.retains_resume ⟨world, locals, rest, .resume reply⟩ frame reply
            (fun action actions same => inside ⟨action, actions, same⟩)
            fun action same => finishes ⟨action, same⟩).minds estate

end Estate

namespace Twin

/-- What a deed changes in containers, registries and teardowns belongs to the container. -/
def Does (twin : Twin) : Deed → Prop
  | .listMade .. => False
  | .inserted container _ _ _ | .removed container _ _ _ | .replaced container _ _ _
  | .rekeyed container _ _ | .stored container _ | .setBegun container _ | .borrowed container
  | .released container | .subscribed container _ _ _ => container = twin.estate.container
  | .unsubscribed handle => handle.container = twin.estate.container
  | .registered realm (some key) _ | .running _ realm key _ =>
    realm = twin.realm ∧ twin.number = some key.container
  | _ => True

variable {twin : Twin} {bond : Bond} {left right : Machine}

/-- An operation on the container changes nothing else. -/
theorem does_operation {machine : Machine} {operation : Operation (List Action)} {deed : Deed}
    (does : machine.OperationDoes twin.estate.container operation deed) : twin.Does deed := by
  cases does with
  | quiet => trivial
  | _ => exact rfl

namespace Stands

/-- A teardown is bound to a key of the container, or to none. -/
theorem does_registered (stands : twin.Stands bond left right) (realm : RealmRef)
    (teardown : Callback) :
    twin.Does (.registered realm (left.world.realm realm).activeKey? teardown) := by
  cases active : (left.world.realm realm).activeKey? with
  | none => trivial
  | some key => exact stands.worlds.owned realm key (List.mem_of_head? active)

/-- A command that keeps to the estate changes nothing else. -/
theorem does_command (stands : twin.Stands bond left right) {subject : String}
    {command : Command (List Action)} {deed : Deed}
    (admits : twin.estate.admitsCommand left subject command = true)
    (does : left.CommandDoes subject command deed) : twin.Does deed := by
  cases does with
  | quiet | opened => trivial
  | registered => exact stands.does_registered _ _
  | made => cases admits
  | ran known read =>
    obtain ⟨_, own⟩ := Bool.and_eq_true_iff.mp admits
    rw [known, read] at own
    obtain ⟨same, number⟩ := Bool.and_eq_true_iff.mp own
    exact ⟨(eq_of_beq same).trans stands.worlds.realm,
      stands.worlds.numbered.number.symm.trans (eq_of_beq number)⟩
  | unsubscribed found =>
    obtain ⟨_, own⟩ := Bool.and_eq_true_iff.mp admits
    rw [found] at own
    exact eq_of_beq own
  | operated named _ operates =>
    obtain ⟨admitted, _⟩ := Bool.and_eq_true_iff.mp admits
    obtain ⟨_, own⟩ := Bool.and_eq_true_iff.mp admitted
    obtain rfl := Option.some.inj (named.symm.trans (eq_of_beq own))
    exact does_operation operates

/-- An action that keeps to the estate changes nothing else. -/
theorem does_action (stands : twin.Stands bond left right) {action : Action}
    (admits : twin.estate.admits left action = true) : twin.Does (left.actionDeed action) :=
  stands.does_command (Bool.and_eq_true_iff.mp admits).2 (left.command_does _ _)

/-- A step changes nothing outside of the estate, if what is begun keeps to it. -/
theorem does_step (stands : twin.Stands bond left right) {discreet : Bool}
    (watched : twin.estate.watches discreet left = true) : twin.Does left.deed := by
  rcases left with ⟨world, locals, stack, focus⟩
  rcases right with ⟨second, others, frames, after⟩
  obtain ⟨worlds, same, all⟩ := stands
  cases all with
  | nil => trivial
  | @cons frame other rest beneath first further =>
    have stands : twin.Stands bond ⟨world, locals, rest, focus⟩ ⟨second, others, beneath, after⟩ :=
      ⟨worlds, same, further⟩
    cases focus with
    | unwind failure =>
      cases first with
      | borrowed => exact rfl
      | free free => cases frame <;> trivial
      | _ => trivial
    | resume reply =>
      show twin.Does (Machine.resumeDeed ⟨world, locals, rest, .resume reply⟩ frame reply)
      have does := Machine.frame_does ⟨world, locals, rest, .resume reply⟩ frame reply
      generalize Machine.resumeDeed _ frame reply = deed at does ⊢
      cases first with
      | free free =>
        cases does with
        | acted does =>
          obtain ⟨admits, _⟩ := Bool.and_eq_true_iff.mp watched
          exact stands.does_command (Bool.and_eq_true_iff.mp admits).2 does
        | _ => trivial
      | settle own =>
        cases does with
        | quiet => trivial
        | settled => exact ⟨worlds.realm, own⟩
      | discharge own =>
        cases does with
        | quiet => trivial
        | discharged => exact ⟨rfl, own _ List.mem_cons_self⟩
      | _ => cases does <;> trivial

end Stands

end Twin

section

variable {world other : World} {rest taken put : List Frame} {deed : Deed}

/-- A turn switches no subscription off but one that was registered under the handle. -/
theorem Turn.get?_subscriptions (turn : Turn world rest taken deed other put)
    {row : SubscriptionRef} (inside : row < world.subscriptions.size)
    (apart : ∀ handle, deed = .unsubscribed handle →
      ∀ entry ∈ ((world.container handle.container).registry handle.channel).entries,
        entry.subscription ≠ row) :
    other.subscriptions.get? row = world.subscriptions.get? row := by
  obtain ⟨_, _, same⟩ | ⟨_, container, channel, callback, _, _, same⟩ |
    ⟨handle, ends, success, same⟩ := turn.subscriptions
  · rw [same]
  · rw [same.subscriptions]
    exact (Table.get?_add _ _ _).trans (if_neg (Nat.ne_of_lt inside))
  · obtain ⟨subscription, entry, after⟩ := World.unsubscribe_eq success
    rw [same.subscriptions, after]
    exact (Table.get?_modify _ _ _ _).trans (if_neg (apart handle ends _ entry))

/-- No subscription is ever lost, and what is registered has been so before or is new. -/
theorem Turn.entries_cases (turn : Turn world rest taken deed other put) (sound : world.Sound) :
    world.subscriptions.size ≤ other.subscriptions.size ∧
      ∀ container channel, ∀ entry ∈ ((other.container container).registry channel).entries,
        entry ∈ ((world.container container).registry channel).entries ∨
          world.subscriptions.size = entry.subscription ∧
            entry.subscription < other.subscriptions.size := by
  have registry := turn.registry sound
  obtain ⟨none, nothing, same⟩ | ⟨_, target, named, callback, _, rfl, same⟩ |
    ⟨handle, rfl, success, same⟩ := turn.subscriptions
  · refine ⟨Nat.le_of_eq (congrArg Table.size same).symm, fun container channel entry inside => ?_⟩
    rw [registry] at inside
    cases deed with
    | subscribed => cases none
    | unsubscribed handle =>
      have ends := nothing ⟨handle.container, handle.channel, handle.id, 0⟩
      simp [Deed.ends] at ends
    | _ => exact .inl inside
  · have size : other.subscriptions.size = world.subscriptions.size + 1 := by
      rw [same.subscriptions]
      exact Table.size_add _ _
    refine ⟨Nat.le_of_lt (Nat.lt_of_lt_of_eq (Nat.lt_succ_self _) size.symm),
      fun container channel entry inside => ?_⟩
    rw [registry, Deed.onRegistry] at inside
    split at inside
    · rcases Registry.mem_of_mem_place inside with rfl | inside
      · exact .inr ⟨rfl, Nat.lt_of_lt_of_eq (Nat.lt_succ_self _) size.symm⟩
      · exact .inl inside
    · exact .inl inside
  · obtain ⟨subscription, _, after⟩ := World.unsubscribe_eq success
    have size : other.subscriptions.size = world.subscriptions.size := by
      rw [same.subscriptions, after]
      exact Table.size_modify _ _ _
    refine ⟨Nat.le_of_eq size.symm, fun container channel entry inside => ?_⟩
    rw [registry, Deed.onRegistry] at inside
    split at inside
    · exact .inl (List.mem_of_mem_filter inside)
    · exact .inl inside

end

namespace Twin

variable {twin busy : Twin} {deed : Deed}

/-- What belongs to one container changes no other one. -/
theorem Does.onContainer (does : busy.Does deed) {container : ContainerRef}
    (apart : container ≠ busy.estate.container) (held : Container) :
    deed.onContainer container held = held := by
  have elsewhere {other : ContainerRef} (same : other = busy.estate.container) :
      ¬ container = other := fun here => apart (here.trans same)
  cases deed with
  | inserted | removed | stored | replaced | rekeyed | borrowed | setBegun | released =>
    exact if_neg (elsewhere does)
  | _ => rfl

/-- What belongs to one container changes the registries of no other one. -/
theorem Does.onRegistry (does : busy.Does deed) {container : ContainerRef}
    (apart : container ≠ busy.estate.container) (channel : Channel) (registry : Registry) :
    deed.onRegistry container channel registry = registry := by
  have elsewhere {other : ContainerRef} (same : other = busy.estate.container) :
      ¬ container = other := fun here => apart (here.trans same)
  cases deed with
  | subscribed | unsubscribed => exact if_neg fun both => elsewhere does both.1
  | _ => rfl

/-- What belongs to one container leaves the teardowns of other keys alone. -/
theorem Does.onTeardowns (does : busy.Does deed) {realm : RealmRef} {key : Key}
    (apart : ¬ (realm = busy.realm ∧ busy.number = some key.container))
    (table : TeardownTable Callback) :
    (deed.onTeardowns realm table).find? key = table.find? key := by
  cases deed with
  | registered other bound teardown =>
    cases bound with
    | none => rfl
    | some bound =>
      obtain ⟨rfl, own⟩ := does
      unfold Deed.onTeardowns
      dsimp only
      split
      · next here =>
        refine (TeardownTable.find?_register _ _ _ _).trans (if_neg ?_)
        rintro rfl
        exact apart ⟨here, own⟩
      · rfl
  | running origin other ran batch =>
    obtain ⟨rfl, own⟩ := does
    unfold Deed.onTeardowns
    dsimp only
    split
    · next here =>
      refine (TeardownTable.find?_erase _ _ _).trans (if_neg ?_)
      rintro rfl
      exact apart ⟨here, own⟩
    · rfl
  | _ => rfl

namespace Lasting

variable {bond theirs : Bond} {right alone : World}

/-- Different containers have no keys in common. -/
theorem keys_apart {left : World} (lasting : twin.Lasting bond left right)
    (other : busy.Lasting theirs left alone) (numbered : left.Numbered)
    (apart : twin.estate.container ≠ busy.estate.container) {key : Key}
    (own : twin.number = some key.container) :
    ¬ (twin.realm = busy.realm ∧ busy.number = some key.container) := by
  rintro ⟨realm, number⟩
  have isList {container : ContainerRef} {number : Option Nat}
      (held : (left.container container).contents.Numbered number)
      (some : number = some key.container) :
      (left.container container).contents.isList = true ∧
        (left.container container).keys.container = key.container := by
    have found := held.number.trans some
    unfold Container.keys
    cases contents : (left.container container).contents with
    | cell =>
      rw [contents] at found
      cases found
    | list items keys =>
      rw [contents] at found
      exact ⟨rfl, Option.some.inj found⟩
  obtain ⟨one, mine⟩ := isList lasting.numbered own
  obtain ⟨two, theirs⟩ := isList other.numbered number
  have sameRealm := lasting.realm.trans (realm.trans other.realm.symm)
  exact apart (numbered.apart _ _ one two sameRealm (mine.trans theirs.symm))

/-- A turn that belongs to one container leaves the subscriptions of another one alone. -/
theorem bonds_turn {world after : World} {rest taken put : List Frame}
    (lasting : twin.Lasting bond world right) (sound : world.Sound)
    (apart : twin.estate.container ≠ busy.estate.container) (does : busy.Does deed)
    (turn : Turn world rest taken deed after put) : twin.Bonds bond after right := by
  obtain ⟨grows, registered⟩ := turn.entries_cases sound
  have below (pair : Registration × Registration) (inside : pair ∈ bond) :
      pair.1.subscription < world.subscriptions.size := by
    obtain ⟨one, _, found, _⟩ := lasting.callbacks pair inside
    exact (Array.getElem?_eq_some_iff.mp found).1
  refine { lasting.toBonds with
    entries := fun channel => ?_
    callbacks := fun pair inside => ?_
    drawn := fun pair inside => ?_
    apart := fun container other channel entry inside => ?_ }
  · rw [turn.registry sound, does.onRegistry apart]
    exact lasting.entries channel
  · obtain ⟨one, two, here, there, same⟩ := lasting.callbacks pair inside
    refine ⟨one, two, ?_, there, same⟩
    rw [turn.get?_subscriptions (below pair inside), here]
    rintro handle rfl entry listed
    have away : handle.container ≠ twin.estate.container :=
      fun same => apart (same.symm.trans does)
    exact (lasting.apart handle.container away handle.channel entry listed).2 pair inside
  · obtain ⟨one, two⟩ := lasting.drawn pair inside
    exact ⟨Nat.lt_of_lt_of_le one (turn.supplies sound lasting.realmHere).1, two⟩
  · rcases registered container channel entry inside with old | ⟨new, size⟩
    · obtain ⟨size, others⟩ := lasting.apart container other channel entry old
      exact ⟨Nat.lt_of_lt_of_le size grows, others⟩
    · exact ⟨size, fun pair listed => new ▸ (Nat.ne_of_lt (below pair listed)).symm⟩

variable {before after : Machine} {rest taken put : List Frame}

/-- What a container has in company and alone lasts while the scripts of another one run. -/
theorem beside (lasting : twin.Lasting bond before.world right)
    (other : busy.Lasting theirs before.world alone) (sound : before.world.Sound)
    (later : after.world.Sound) (numbered : before.world.Numbered)
    (apart : twin.estate.Apart busy.estate) (does : busy.Does deed)
    (minds : busy.estate.Minds before after)
    (turn : Turn before.world rest taken deed after.world put) :
    twin.Lasting bond after.world right := by
  have away := apart.container
  have here := Nat.lt_of_lt_of_le lasting.here turn.size_le
  have realm := (turn.realmOf lasting.here).trans lasting.realm
  have bare := turn.container lasting.here
  rw [does.onContainer away] at bare
  exact { lasting with
    toBonds := lasting.bonds_turn sound away does turn
    here := here
    realmHere := realm ▸ later.realmOf _
    realm := realm
    bare := lasting.bare.trans bare.symm
    numbered := (Container.bare_eq.mp bare).2.2.1 ▸ lasting.numbered
    names := fun name own => by
      rw [minds.names]
      exact lasting.names name own
    realmNames := lasting.realmNames.trans minds.realmNames.symm
    labels := fun realm => by
      rw [turn.label sound minds.realmNames]
      exact lasting.labels realm
    teardowns := fun key own => by
      rw [turn.teardowns sound, does.onTeardowns (lasting.keys_apart other numbered away own)]
      exact lasting.teardowns key own
    handles := fun name own => by
      rw [minds.handles name (apart.handles name own)]
      exact lasting.handles name own
    arrivals := fun name own => by
      rw [minds.arrivals name (apart.counters name own)]
      exact lasting.arrivals name own
    tracing := lasting.tracing.trans minds.tracing.symm }

end Lasting

end Twin

end Observables
