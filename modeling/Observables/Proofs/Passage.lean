import Observables.Proofs.Showing
import Observables.Proofs.Return
import Mathlib.Data.List.Basic

/-!
# Calls that come to their end

Listeners and teardowns that only do chores come to their end, and so does
everything that calls nothing else: telling a notice, announcing an element,
running teardowns. Each statement here follows one frame from the moment it is
innermost to the moment it is gone, and says what has become visible by then
and which roll the world shows.
-/

namespace Observables

open Script

namespace Machine

/-- The machine comes to another one after some steps. -/
def Reaches (machine other : Machine) : Prop := ∃ steps, machine.run steps = other

/-- A machine comes to where a machine comes to that it comes to. -/
theorem Reaches.trans {first middle last : Machine} (one : first.Reaches middle)
    (two : middle.Reaches last) : first.Reaches last := by
  obtain ⟨before, rfl⟩ := one
  obtain ⟨after, rfl⟩ := two
  exact ⟨before + after, run_add first before after⟩

/-- A machine comes to its next step. -/
theorem reaches_step (world : World) (locals : Variables) (frame : Frame) (rest : List Frame)
    (focus : Focus) :
    Reaches ⟨world, locals, frame :: rest, focus⟩
      (⟨world, locals, frame :: rest, focus⟩ : Machine).step :=
  ⟨1, rfl⟩

/-- The machine comes to the frames of the rest with a reply and notes events on the way;
then the world is as it should be. -/
def Arrives (machine : Machine) (events : List Event) (locals : Variables) (rest : List Frame)
    (reply : Value) (holds : World → Prop) : Prop :=
  ∃ other, machine.Reaches ⟨other, locals, rest, .resume (.value reply)⟩ ∧
    machine.world.Notes events other ∧ holds other

namespace Arrives

variable {machine : Machine} {events later : List Event} {locals own : Variables}
  {rest base : List Frame} {reply answer : Value} {holds after : World → Prop}

/-- A machine that stands before the rest has arrived. -/
theorem here {world : World} (there : holds world) :
    Arrives ⟨world, locals, rest, .resume (.value reply)⟩ [] locals rest reply holds :=
  ⟨world, ⟨0, rfl⟩, .refl world, there⟩

/-- What arrives goes on from there. -/
theorem proceeds (first : machine.Arrives events own base answer holds)
    (second : ∀ other, machine.world.Notes events other → holds other →
      Arrives ⟨other, own, base, .resume (.value answer)⟩ later locals rest reply after) :
    machine.Arrives (events ++ later) locals rest reply after := by
  obtain ⟨middle, reaches, noted, held⟩ := first
  obtain ⟨last, further, more, holds⟩ := second middle noted held
  exact ⟨last, reaches.trans further, noted.trans more, holds⟩

/-- The machine arrives where it arrives after its next step, which notes an event. -/
theorem head {world middle : World} {frame : Frame} {stack further : List Frame}
    {focus next : Focus} {inner : Variables} {event : Event}
    (steps : (⟨world, locals, frame :: stack, focus⟩ : Machine).step =
      ⟨middle, inner, further, next⟩)
    (noted : world.Notes [event] middle)
    (arrives : Arrives ⟨middle, inner, further, next⟩ later own rest reply holds) :
    Arrives ⟨world, locals, frame :: stack, focus⟩ (event :: later) own rest reply holds := by
  obtain ⟨last, reaches, more, held⟩ := arrives
  rw [← steps] at reaches
  exact ⟨last, (reaches_step world locals frame stack focus).trans reaches, noted.trans more, held⟩

/-- The machine arrives where it arrives after its next step, which notes nothing. -/
theorem skip {world middle : World} {frame : Frame} {stack further : List Frame}
    {focus next : Focus} {inner : Variables}
    (steps : (⟨world, locals, frame :: stack, focus⟩ : Machine).step =
      ⟨middle, inner, further, next⟩)
    (quiet : world.Notes [] middle)
    (arrives : Arrives ⟨middle, inner, further, next⟩ later own rest reply holds) :
    Arrives ⟨world, locals, frame :: stack, focus⟩ later own rest reply holds := by
  obtain ⟨last, reaches, more, held⟩ := arrives
  rw [← steps] at reaches
  exact ⟨last, (reaches_step world locals frame stack focus).trans reaches, quiet.trans more, held⟩

end Arrives

end Machine

section

variable {world : World} {container : ContainerRef} {realm : RealmRef} {roll : Roll}
  {waiting : Key → List Listener} {active : Option Key}

/-- A chore that registers a teardown is done. -/
theorem Shows.registers (shows : Shows world container realm roll waiting active)
    (place : Option Expression) (tag : Expression) (body : List Chore) (locals : Variables)
    (actions : List Action) (rest : List Frame) (reply : Reply) :
    Machine.Arrives
      ⟨world, locals, .body (Chore.action (.register place tag body) :: actions) :: rest,
        .resume reply⟩
      (Chore.events roll.outlook locals active (.register place tag body)) locals
      (.body actions :: rest) .null fun other =>
        Shows other container realm roll (joined active
          (Chore.teardowns roll.outlook locals active (.register place tag body)) waiting)
          active := by
  let listener : Listener := ⟨(tag.evaluate roll.held locals).joined, body, locals⟩
  let frames : List Frame :=
    .finish (Chore.action (.register place tag body)) :: .body actions :: rest
  let machine : Machine := ⟨world, locals, frames, .resume (.value .null)⟩
  have calls : (⟨(tag.evaluate world.held locals).joined, .direct, Chore.action.actions body,
      locals⟩ : Callback) = listener.callback := by
    rw [shows.held]
    rfl
  have begins : (⟨world, locals, .body (Chore.action (.register place tag body) :: actions) :: rest,
      .resume reply⟩ : Machine).step = machine.inRealm place fun named =>
        (machine.withWorld (world.register named listener.callback).2).answer
          (.bool (world.register named listener.callback).1) := by
    rw [← calls]
    rfl
  rw [Chore.events, Chore.teardowns, shows.binding locals frames (.resume (.value .null)) place]
  cases found : machine.realm? place with
  | none =>
    rw [Machine.inRealm, found] at begins
    refine .skip begins (.refl world) ?_
    refine .head rfl (world.notes_emit rfl) (.here ?_)
    rw [Option.map_none, joined_nil]
    exact shows.emit _
  | some named =>
    obtain ⟨told, quiet, shown⟩ := shows.register listener named
    simp only [Machine.inRealm, found, told] at begins
    rw [Option.map_some]
    cases opens : (world.realm named).activeKey? with
    | none =>
      rw [opens] at begins
      rw [opens, joined_none] at shown
      refine .skip begins quiet ?_
      refine .head rfl (World.notes_emit _ rfl) (.here ?_)
      rw [joined_nil]
      exact shown.emit _
    | some key =>
      obtain ⟨_, rfl⟩ := shows.eq_of_activeKey opens
      rw [opens] at begins shown
      refine .skip begins quiet ?_
      exact .head rfl (World.notes_emit _ rfl) (.here (shown.emit _))

/-- Chores are done one after the other. -/
theorem Shows.chores (shows : Shows world container realm roll waiting active)
    (chores : List Chore) (locals : Variables) (rest : List Frame) (reply : Reply) :
    Machine.Arrives ⟨world, locals, .body (Chore.action.actions chores) :: rest, .resume reply⟩
      (chores.flatMap (Chore.events roll.outlook locals active)) locals rest .null fun other =>
        Shows other container realm roll
          (joined active (chores.flatMap (Chore.teardowns roll.outlook locals active)) waiting)
          active := by
  induction chores generalizing world waiting reply with
  | nil =>
    refine .skip rfl (.refl world) (.here ?_)
    rw [List.flatMap_nil, joined_nil]
    exact shows
  | cons chore chores ih =>
    rw [List.flatMap_cons, List.flatMap_cons, ← joined_joined]
    refine .proceeds ?_ fun other _ shown => ih shown (.value .null)
    cases chore with
    | log value =>
      have event : Event.logged (value.evaluate world.held locals) =
          .logged (value.evaluate roll.outlook.held locals) := by
        rw [shows.held]
        rfl
      refine ⟨world.emit (.logged (value.evaluate roll.outlook.held locals)), ⟨2, ?_⟩,
        world.notes_emit rfl, ?_⟩
      · rw [← event]
        rfl
      · rw [Chore.teardowns, joined_nil]
        exact shows.emit _
    | register place tag body =>
      exact shows.registers place tag body locals (Chore.action.actions chores) rest reply

/-- A call begins with its event and goes on with its chores. -/
theorem Shows.call_eq (shows : Shows world container realm roll waiting active)
    (listener : Listener) (event : Option Key → Event) (arguments : List (String × Value))
    (locals : Variables) (rest : List Frame) (focus : Focus) :
    (⟨world, locals, rest, focus⟩ : Machine).call listener.callback event arguments =
      ⟨world.emit (event active), listener.bindings active arguments,
        .body (Chore.action.actions listener.body) :: .boundary :: .restore locals :: rest,
        .resume (.value .null)⟩ := by
  simp only [Machine.call, shows.activeKey]
  rfl

/-- A call comes to its end. -/
theorem Shows.call (shows : Shows world container realm roll waiting active) (listener : Listener)
    (event : Event) (arguments : List (String × Value)) (locals : Variables) (rest : List Frame) :
    Machine.Arrives ⟨world.emit event, listener.bindings active arguments,
        .body (Chore.action.actions listener.body) :: .boundary :: .restore locals :: rest,
        .resume (.value .null)⟩
      (listener.body.flatMap
        (Chore.events roll.outlook (listener.bindings active arguments) active))
      locals rest .null fun other =>
        Shows other container realm roll
          (joined active (listener.teardowns roll.outlook active arguments) waiting) active := by
  have done := (shows.emit event).chores listener.body (listener.bindings active arguments)
    (.boundary :: .restore locals :: rest) (.value .null)
  rw [← List.append_nil (listener.body.flatMap _)]
  refine done.proceeds fun other _ shown => ?_
  exact .skip rfl (.refl other) (.skip rfl (.refl other) (.here shown))

/-- The call of a listener is not part of the trace. -/
theorem Roll.isOutward_call (roll : Roll) (active : Option Key) (notice : Notice)
    (listener : Listener) : (roll.call active notice listener).isOutward = true := by
  cases notice <;> rfl

/-- The next subscription of a dispatch is called. -/
theorem Shows.step_dispatch (shows : Shows world container realm roll waiting active)
    (notice : Notice) {subscription : SubscriptionRef} {listener : Listener}
    (on : world.callback? subscription = some listener.callback)
    (subscriptions : List SubscriptionRef) (locals : Variables) (rest : List Frame)
    (reply : Reply) :
    (⟨world, locals, .dispatch container notice (subscription :: subscriptions) :: rest,
        .resume reply⟩ : Machine).step =
      ⟨world.emit (roll.call active notice listener),
        listener.bindings active (roll.arguments notice),
        .body (Chore.action.actions listener.body) :: .boundary :: .restore locals ::
          .dispatch container notice subscriptions :: rest,
        .resume (.value .null)⟩ := by
  have value : (world.container container).value = .list roll.items := by
    rw [Container.value, shows.contents]
    rfl
  have calls := shows.call_eq listener (fun active => roll.call active notice listener)
    (roll.arguments notice) locals (.dispatch container notice subscriptions :: rest)
    (.resume (.value .null))
  rw [← calls]
  simp only [Machine.step, Machine.resume, Machine.dispatch, Machine.push, Machine.proceed,
    Machine.answer, on]
  cases notice with
  | changed => simp only [Machine.tell, value, Roll.call, Roll.arguments]; rfl
  | added | removed => rfl

/-- All subscriptions that wait in a dispatch are called. -/
theorem Shows.dispatch (shows : Shows world container realm roll waiting active) (notice : Notice)
    (listeners : List Listener) (subscriptions : List SubscriptionRef)
    (on : subscriptions.map world.callback? =
      listeners.map fun listener => some listener.callback)
    (locals : Variables) (rest : List Frame) (reply : Reply) :
    Machine.Arrives ⟨world, locals, .dispatch container notice subscriptions :: rest,
        .resume reply⟩
      (listeners.flatMap fun listener => listener.events roll.outlook active
        (roll.call active notice listener) (roll.arguments notice))
      locals rest .null fun other =>
        Shows other container realm roll (joined active (listeners.flatMap
          (Listener.teardowns roll.outlook active (roll.arguments notice))) waiting) active := by
  induction listeners generalizing world waiting subscriptions reply with
  | nil =>
    rw [List.map_nil, List.map_eq_nil_iff] at on
    subst on
    refine .skip rfl (.refl world) (.here ?_)
    rw [List.flatMap_nil, joined_nil]
    exact shows
  | cons listener listeners ih =>
    cases subscriptions with
    | nil => cases on
    | cons subscription subscriptions =>
      obtain ⟨first, others⟩ := List.cons.inj on
      rw [List.flatMap_cons, List.flatMap_cons, ← joined_joined, Listener.events,
        List.cons_append]
      have begins := shows.step_dispatch notice first subscriptions locals rest reply
      refine .head begins (world.notes_emit (roll.isOutward_call active notice listener)) ?_
      refine (shows.call listener _ _ locals _).proceeds fun other noted shown => ?_
      refine ih shown subscriptions ?_ (.value .null)
      have same : other.callback? = world.callback? := by
        funext subscription
        rw [World.callback?, noted.subscriptions]
        rfl
      rw [same]
      exact others

/-- All listeners of the channel of a notice are told. -/
theorem Shows.notify (shows : Shows world container realm roll waiting active) (notice : Notice)
    (locals : Variables) (rest : List Frame) (reply : Reply) :
    Machine.Arrives ⟨world, locals, .notify container notice :: rest, .resume reply⟩
      (roll.told active notice) locals rest .null fun other =>
        Shows other container realm roll (joined active (roll.bound active notice) waiting)
          active := by
  have begins : (⟨world, locals, .notify container notice :: rest, .resume reply⟩ : Machine).step =
      ⟨world.trace (.dispatching notice.channel
          ((world.container container).registry notice.channel).snapshot.length), locals,
        .dispatch container notice
          ((world.container container).registry notice.channel).snapshot :: rest,
        .resume (.value .null)⟩ := rfl
  refine .skip begins (world.notes_trace _) ?_
  exact (shows.trace _).dispatch notice _ _ (shows.listening _) locals rest _

/-- Without an open key nothing is bound while listeners are told. -/
theorem Shows.notify_closed (shows : Shows world container realm roll waiting none)
    (notice : Notice) (locals : Variables) (rest : List Frame) (reply : Reply) :
    Machine.Arrives ⟨world, locals, .notify container notice :: rest, .resume reply⟩
      (roll.told none notice) locals rest .null fun other =>
        Shows other container realm roll waiting none := by
  have told := shows.notify notice locals rest reply
  rw [joined_none] at told
  exact told

/-- An element is announced while its key is open. -/
theorem Shows.announce (shows : Shows world container realm roll waiting none) (key : Key)
    (item : Value) (position : Nat) (locals : Variables) (rest : List Frame) (reply : Reply) :
    Machine.Arrives ⟨world, locals, .announce container key item position :: rest, .resume reply⟩
      (roll.told (some key) (.added item position)) locals rest .null fun other =>
        Shows other container realm roll
          (joined (some key) (roll.bound (some key) (.added item position)) waiting) none := by
  have begins : (⟨world, locals, .announce container key item position :: rest,
        .resume reply⟩ : Machine).step =
      ⟨world.enter realm key, locals,
        .notify container (.added item position) :: .scope realm key :: rest,
        .resume (.value .null)⟩ := by
    simp only [Machine.step, Machine.resume, Machine.announce, shows.belongs]
    rfl
  have told := (shows.enter key).notify (.added item position) locals (.scope realm key :: rest)
    (.value .null)
  refine .skip begins (.of_journal rfl rfl) ?_
  rw [← List.append_nil (roll.told _ _)]
  refine told.proceeds fun other _ shown => ?_
  exact .skip rfl (.of_journal rfl rfl) (.here shown.leave)

/-- An element that is in its list needs no settling. -/
theorem Shows.settle (shows : Shows world container realm roll waiting active) {key : Key}
    (inside : key ∈ roll.keys) (locals : Variables) (rest : List Frame) (reply : Reply) :
    Machine.Arrives ⟨world, locals, .settle container key :: rest, .resume reply⟩ [] locals rest
      .null fun other => Shows other container realm roll waiting active := by
  have there : ((world.container container).keys.positionOf? key).isSome = true := by
    rw [shows.keys]
    exact List.isSome_idxOf?.mpr inside
  obtain ⟨position, found⟩ := Option.isSome_iff_exists.mp there
  have begins : (⟨world, locals, .settle container key :: rest, .resume reply⟩ : Machine).step =
      ⟨world, locals, rest, .resume (.value .null)⟩ := by
    simp only [Machine.step, Machine.resume, Machine.settle, found]
    rfl
  exact .skip begins (.refl world) (.here shows)

/-- Teardowns that have been taken are called one after the other. -/
theorem Shows.teardowns (shows : Shows world container realm roll waiting none) (key : Key)
    (listeners : List Listener) (locals : Variables) (rest : List Frame) (reply : Reply) :
    Machine.Arrives ⟨world, locals,
        .teardown realm key (listeners.map Listener.callback) :: rest, .resume reply⟩
      (roll.tornDown listeners) locals rest .null fun other =>
        Shows other container realm roll waiting none := by
  induction listeners generalizing world reply with
  | nil => exact .skip rfl (.refl world) (.here shows)
  | cons listener listeners ih =>
    have begins : (⟨world, locals, .teardown realm key
          ((listener :: listeners).map Listener.callback) :: rest, .resume reply⟩ : Machine).step =
        ⟨world.emit (.teardown listener.tag none), listener.bindings none [],
          .body (Chore.action.actions listener.body) :: .boundary :: .restore locals ::
            .teardown realm key (listeners.map Listener.callback) :: rest,
          .resume (.value .null)⟩ :=
      shows.call_eq listener (.teardown listener.tag) [] locals _ (.resume (.value .null))
    have called := shows.call listener (.teardown listener.tag none) [] locals
      (.teardown realm key (listeners.map Listener.callback) :: rest)
    rw [Roll.tornDown, List.flatMap_cons, Listener.events, List.cons_append]
    refine .head begins (world.notes_emit rfl) (called.proceeds fun other _ shown => ?_)
    rw [joined_none] at shown
    exact ih shown (.value .null)

/-- A key that has left without teardowns is passed over. -/
theorem step_discharge_of_none {key : Key}
    (found : (world.realm realm).teardowns.find? key = none) (keys : List Key)
    (locals : Variables) (rest : List Frame) (reply : Reply) :
    (⟨world, locals, .discharge realm (key :: keys) :: rest, .resume reply⟩ : Machine).step =
      ⟨world, locals, .discharge realm keys :: rest, .resume (.value (.nat 0))⟩ := by
  simp only [Machine.step, Machine.resume, Machine.discharge, Machine.runTeardowns,
    Machine.push, World.takeTeardowns, found, Machine.proceed, Machine.answer]
  rfl

/-- The teardowns of a key that has left are taken to be called before those of the next one. -/
theorem step_discharge_of_some {key : Key} {batch : List Callback}
    (found : (world.realm realm).teardowns.find? key = some batch) (keys : List Key)
    (locals : Variables) (rest : List Frame) (reply : Reply) :
    (⟨world, locals, .discharge realm (key :: keys) :: rest, .resume reply⟩ : Machine).step =
      ⟨(world.modifyRealm realm (Realm.unbind · key)).trace
          (.teardownsRunning (world.realm realm).label key batch.length), locals,
        .teardown realm key batch :: .yield (.nat batch.length) :: .discharge realm keys :: rest,
        .resume (.value .null)⟩ := by
  simp only [Machine.step, Machine.resume, Machine.discharge, Machine.runTeardowns,
    Machine.push, World.takeTeardowns, found, Machine.proceed, Machine.answer]
  rfl

/-- The teardowns of keys that have left are called, key after key. -/
theorem Shows.discharge (shows : Shows world container realm roll waiting none) {keys : List Key}
    (own : ∀ key ∈ keys, key.container = roll.id) (different : keys.Nodup) (locals : Variables)
    (rest : List Frame) (reply : Reply) :
    Machine.Arrives ⟨world, locals, .discharge realm keys :: rest, .resume reply⟩
      (roll.tornDown (keys.flatMap waiting)) locals rest .null fun other =>
        Shows other container realm roll (fun key => if key ∈ keys then [] else waiting key)
          none := by
  induction keys generalizing world waiting reply with
  | nil =>
    refine .skip rfl (.refl world) (.here ?_)
    simpa using shows
  | cons key keys ih =>
    obtain ⟨new, others⟩ := List.nodup_cons.mp different
    have left : keys.flatMap (fun other => if other = key then [] else waiting other) =
        keys.flatMap waiting := by
      apply List.flatMap_congr
      intro other inside
      have apart : other ≠ key := fun same => new (same ▸ inside)
      exact if_neg apart
    have last : (fun other => if other ∈ keys then [] else if other = key then []
        else waiting other) = fun other => if other ∈ key :: keys then [] else waiting other := by
      funext other
      by_cases same : other = key
      · simp [same]
      · simp [same]
    have further {world : World} (reply : Reply)
        (shown : Shows world container realm roll
          (fun other => if other = key then [] else waiting other) none) :=
      ih shown (fun other inside => own other (List.mem_cons_of_mem _ inside)) others reply
    rw [left, last] at further
    have pending := shows.waits key (own key List.mem_cons_self)
    rw [List.flatMap_cons, Roll.tornDown, List.flatMap_append]
    cases found : (world.realm realm).teardowns.find? key with
    | none =>
      rw [TeardownTable.pending, found] at pending
      have empty : waiting key = [] := List.map_eq_nil_iff.mp pending.symm
      have same : (fun other => if other = key then [] else waiting other) = waiting := by
        funext other
        split
        · next here => rw [here, empty]
        · rfl
      rw [empty, List.flatMap_nil, List.nil_append]
      have shown := shows
      rw [← same] at shown
      exact .skip (step_discharge_of_none found keys locals rest reply) (.refl world)
        (further (.value (.nat 0)) shown)
    | some batch =>
      rw [TeardownTable.pending, found, Option.getD_some] at pending
      subst pending
      have unbound := (shows.unbind key).trace
        (.teardownsRunning (world.realm realm).label key
          ((waiting key).map Listener.callback).length)
      have quiet : world.Notes [] (world.modifyRealm realm (Realm.unbind · key)) :=
        .of_journal rfl rfl
      have begins := step_discharge_of_some found keys locals rest reply
      refine .skip begins (quiet.trans (World.notes_trace _ _)) ?_
      refine (unbound.teardowns key (waiting key) locals _ (.value .null)).proceeds
        fun other _ shown => ?_
      exact .skip rfl (.refl other) (further (.value (.nat _)) shown)

end

end Observables
