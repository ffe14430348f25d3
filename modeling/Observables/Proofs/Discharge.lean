import Observables.Proofs.Calls
import Observables.Proofs.Settlement

/-!
# Discharges come to their end

When an operation takes keys out of a list, what it does next is to discharge
them, and only after that it tells its subscribers. A teardown that pended for
one of the keys pends until the discharge comes to the key, then waits on the
stack, and is called before the discharge is over, unless a teardown fails.
With what holds of departures and of settled teardowns this says when the
teardowns of an element are called, and that none of them is left behind.
-/

namespace Observables

open Script

/-- What was called, waits or pends before a turn was called, waits or pends after it. -/
theorem subperm_of_moved {α : Type} {called waits further pending accepts takes enters put
    after : List α} (moved : takes ++ waits = enters ++ put)
    (bound : pending ++ accepts = takes ++ after) :
    (called ++ (waits ++ further) ++ pending).Subperm
      (called ++ enters ++ (put ++ further) ++ after) := by
  have one := congrArg (fun callbacks : List α => (callbacks : Multiset α)) moved
  have two := congrArg (fun callbacks : List α => (callbacks : Multiset α)) bound
  rw [← Multiset.coe_le]
  simp only [← Multiset.coe_add] at one two ⊢
  calc (called + (waits + further) + pending : Multiset α)
      ≤ called + (waits + further) + pending + accepts := Multiset.le_add_right _ _
    _ = called + (waits + further) + (pending + accepts) := by abel
    _ = called + further + (takes + waits) + after := by rw [two]; abel
    _ = called + enters + (put + further) + after := by rw [one]; abel

/-- How far the discharge of a key that lies on a base has come. -/
inductive Moment.Discharging (moment : Moment) (base : List Frame) (realm : RealmRef) (key : Key)
    (due called : List Callback) : Prop where
  /-- It has not come to the key. -/
  | ahead {above left} (stack : moment.machine.stack = above ++ .discharge realm left :: base)
      (inside : key ∈ left)
      (kept : due.Subperm (called ++ above.flatMap (Frame.waits realm key) ++
        (moment.world.realm realm).teardowns.pending key)) :
      Discharging moment base realm key due called
  /-- It has come to the key, and teardowns of the key may be waiting on the stack. -/
  | underway {above left} (stack : moment.machine.stack = above ++ .discharge realm left :: base)
      (kept : due.Subperm (called ++ above.flatMap (Frame.waits realm key))) :
      Discharging moment base realm key due called
  /-- All teardowns that were due have been called. -/
  | ended (kept : due.Subperm called) : Discharging moment base realm key due called

section

variable {world other : World} {rest taken put : List Frame} {deed : Deed} {realm : RealmRef}
  {key : Key}

/-- What was called, waits or pends before a turn that drops nothing was called, waits
or pends after it. -/
theorem Turn.subperm_pending (turn : Turn world rest taken deed other put) (sound : world.Sound)
    (calm : deed.drops realm key = []) (called further : List Callback) :
    (called ++ (taken.flatMap (Frame.waits realm key) ++ further) ++
        (world.realm realm).teardowns.pending key).Subperm
      (called ++ deed.enters realm key ++ (put.flatMap (Frame.waits realm key) ++ further) ++
        (other.realm realm).teardowns.pending key) := by
  have moved := turn.waits realm key
  rw [calm, List.append_nil] at moved
  exact subperm_of_moved moved (turn.pending sound realm key)

/-- What was called or waits before a turn that drops nothing was called or waits after it. -/
theorem Turn.subperm_waits (turn : Turn world rest taken deed other put)
    (calm : deed.drops realm key = []) (called further : List Callback) :
    (called ++ (taken.flatMap (Frame.waits realm key) ++ further)).Subperm
      (called ++ deed.enters realm key ++
        (put.flatMap (Frame.waits realm key) ++ further)) := by
  have moved := turn.waits realm key
  rw [calm, List.append_nil] at moved
  have bound : [] ++ deed.takes realm key = deed.takes realm key ++ [] := by simp
  simpa only [List.append_nil] using subperm_of_moved moved bound

end

namespace Moment.Discharging

variable {moment : Moment} {base : List Frame} {realm : RealmRef} {key : Key}
  {due called : List Callback}

/-- A discharge goes on with each step, unless a teardown or the rest of an operation is lost. -/
theorem step (going : moment.Discharging base realm key due called) (sound : moment.world.Sound)
    (calm : moment.machine.deed.drops realm key = [])
    (unbroken : ∀ frame : Frame, frame.isOwn = true → moment.machine.deed ≠ .abandoned frame) :
    moment.step.Discharging base realm key due
      (called ++ moment.machine.deed.enters realm key) := by
  cases going with
  | ended kept => exact .ended (kept.trans (List.sublist_append_left _ _).subperm)
  | @underway above left stack kept =>
    cases above with
    | cons frame above =>
      obtain ⟨put, next, turn⟩ := Machine.step_turns (stack.trans (List.cons_append ..))
      refine .underway (next.trans (List.append_assoc ..).symm) ?_
      have covered := turn.subperm_waits calm called (above.flatMap (Frame.waits realm key))
      rw [List.flatMap_singleton] at covered
      rw [List.flatMap_append]
      exact kept.trans covered
    | nil =>
      obtain ⟨put, next, turn⟩ := Machine.step_turns stack
      have all : due.Subperm (called ++ moment.machine.deed.enters realm key) := by
        rw [List.flatMap_nil, List.append_nil] at kept
        exact kept.trans (List.sublist_append_left _ _).subperm
      exact .ended all
  | @ahead above left stack inside kept =>
    cases above with
    | cons frame above =>
      obtain ⟨put, next, turn⟩ := Machine.step_turns (stack.trans (List.cons_append ..))
      refine .ahead (next.trans (List.append_assoc ..).symm) inside ?_
      have covered := turn.subperm_pending sound calm called (above.flatMap (Frame.waits realm key))
      rw [List.flatMap_singleton] at covered
      rw [List.flatMap_append]
      exact kept.trans covered
    | nil =>
      obtain ⟨put, next, turn⟩ := Machine.step_turns stack
      have covered := turn.subperm_pending sound calm called []
      obtain ⟨above, left, rfl, still⟩ :=
        turn.discharge sound (List.mem_singleton_self _) (unbroken _ rfl) inside
      have below : moment.step.machine.stack = above ++ .discharge realm left :: base :=
        next.trans (List.append_assoc ..)
      have all := kept.trans covered
      have silent : [Frame.discharge realm left].flatMap (Frame.waits realm key) = [] := rfl
      rw [List.flatMap_append, silent, List.append_nil, List.append_nil] at all
      rcases still with inside | none
      · exact .ahead below inside all
      · rw [none, List.append_nil] at all
        exact .underway below all

/-- A discharge goes on for as long as the script runs calmly. -/
theorem leads {first later : Moment} (reached : first.IsReached)
    (going : first.Discharging base realm key due []) (leads : first.Leads later)
    (ordinary : Ordinary later.history) (calm : Calm later.history) :
    ∃ recent, later.history = recent ++ first.history ∧
      later.Discharging base realm key due (recorded (Deed.enters realm key) recent) := by
  induction leads with
  | refl => exact ⟨[], rfl, going⟩
  | @tail before after earlier last ih =>
    have known : before.IsReached := reached.leads earlier
    have unbroken := (known.leads (.single last)).unbroken calm
    cases last with
    | step busy =>
      obtain ⟨recent, history, going⟩ := ih ordinary.of_cons calm.of_cons
      refine ⟨before.machine.deed :: recent, congrArg (before.machine.deed :: ·) history, ?_⟩
      rw [recorded_cons]
      refine going.step known.held.sound (Deed.drops_eq_nil fun waiting same => ?_)
        fun frame own same => ?_
      · exact calm.teardowns realm key waiting (same ▸ List.mem_cons_self)
      · exact unbroken frame own (same ▸ List.mem_cons_self)
    | begin finished action =>
      obtain ⟨recent, history, going⟩ := ih ordinary.of_cons calm.of_cons
      have empty : before.machine.stack = [] := Machine.stack_eq_nil finished
      refine ⟨before.idle.actionDeed action :: recent,
        congrArg (before.idle.actionDeed action :: ·) history, ?_⟩
      rw [recorded_cons]
      cases going with
      | ended kept => exact .ended (kept.trans (List.sublist_append_left _ _).subperm)
      | ahead stack => simp [empty] at stack
      | underway stack => simp [empty] at stack

/-- When the stack is no higher than what lies under the discharge, the discharge is over. -/
theorem called_of_low (going : moment.Discharging base realm key due called)
    (low : moment.machine.stack.length ≤ base.length) : due.Subperm called := by
  cases going with
  | ended kept => exact kept
  | ahead stack | underway stack =>
    rw [stack, List.length_append, List.length_cons] at low
    omega

end Moment.Discharging

/-- When an action takes a key out of a list, the discharge of the key is ahead. -/
theorem Moment.Next.departing {before after : Moment} (reached : before.IsReached)
    (next : before.Next after) (orderly : Orderly before.history) {deed : Deed}
    (latest : after.history = deed :: before.history) {container : ContainerRef} {key : Key}
    (departs : key ∈ deed.departures container) :
    ∃ keys tail, after.machine.stack = .discharge (before.world.realmOf container) keys ::
        .notify container .changed :: tail ∧ key ∈ keys ∧
      after.Discharging (.notify container .changed :: tail) (before.world.realmOf container) key
        ((before.world.realm (before.world.realmOf container)).teardowns.pending key) [] := by
  obtain ⟨world, rest, taken, put, same, stack, above, turn⟩ := next.turn latest
  have held : world.Held (taken ++ rest) before.history := by
    rw [← stack]
    exact reached.held.alike same
  obtain ⟨keys, tail, rfl, inside⟩ := turn.departing (turn.not_rekeyed held orderly _) departs
  have belongs : world.realmOf container = before.world.realmOf container := by
    rw [World.realmOf, same.container]
    rfl
  rw [belongs] at above turn
  have untouched (realm : RealmRef) :
      (after.world.realm realm).teardowns = (before.world.realm realm).teardowns := by
    rw [turn.teardowns held.sound, same.realm]
    cases deed with
    | registered | running => cases departs
    | _ => rfl
  have lowest : after.machine.stack = [] ++ .discharge (before.world.realmOf container) keys ::
      .notify container .changed :: (tail ++ rest) := above
  refine ⟨keys, tail ++ rest, above, inside, .ahead lowest inside ?_⟩
  rw [untouched]
  exact .refl _

/-- In a script that runs no teardowns itself, the key of every teardown that has been
called has left its list for good. Each of the calls was made at a moment at which the body
of the teardown lay over the run of its key.

If the script opens no keys itself either and replaces no list that it reads, and no
subscriber and no teardown fails, then an operation that takes keys out of a list
discharges them before it tells of the change. When the stack is down at that notice, all
teardowns that pended for the keys have been called. When an action is over, what still
pends waits for keys of elements that are in their lists. -/
theorem teardowns_follow_departures {moment : Moment} (reached : moment.IsReached)
    (undriven : Undriven moment.history) :
    (∀ realm key teardown, .tornDown realm key teardown ∈ moment.history →
      moment.world.Left realm key) ∧
    (∀ realm key teardown past, .tornDown realm key teardown :: past <:+ moment.history →
      ∃ entered : Moment, entered.IsReached ∧ entered.Leads moment ∧
        entered.history = .tornDown realm key teardown :: past ∧
        entered.machine.HasEntered realm key teardown) ∧
    (Ordinary moment.history → Calm moment.history →
      (∀ before after : Moment, before.IsReached → before.Next after → after.Leads moment →
        ∀ deed container key, after.history = deed :: before.history →
          key ∈ deed.departures container →
          let realm := before.world.realmOf container
          let pending := (before.world.realm realm).teardowns.pending key
          ∃ keys tail, key ∈ keys ∧ after.machine.stack =
              .discharge realm keys :: .notify container .changed :: tail ∧
            (moment.machine.stack.length ≤ tail.length + 1 →
              ∃ recent, moment.history = recent ++ after.history ∧
                pending.Subperm (recorded (Deed.enters realm key) recent))) ∧
      (moment.machine.isFinished = true → ∀ realm key,
        (moment.world.realm realm).teardowns.pending key ≠ [] →
        ∃ container, moment.world.Owns realm key container ∧
          key ∈ (moment.world.container container).keys.inUse)) := by
  refine ⟨(reached.marked undriven).tornDown, fun realm key teardown past =>
    reached.exists_hasEntered, fun ordinary calm => ⟨?_, ?_⟩⟩
  · intro before after known next leads deed container key latest departs realm pending
    have earlier : before.history <:+ moment.history :=
      (latest ▸ List.suffix_cons deed before.history).trans leads.history_suffix
    have orderly : Orderly before.history := fun other inside =>
      ordinary.orderly other (earlier.mem inside)
    obtain ⟨keys, tail, stack, inside, going⟩ := next.departing known orderly latest departs
    obtain ⟨recent, history, still⟩ :=
      going.leads (known.leads (.single next)) leads ordinary calm
    exact ⟨keys, tail, inside, stack, fun low => ⟨recent, history, still.called_of_low low⟩⟩
  · exact fun finished realm key pends => reached.present ordinary calm finished pends

/-- An action that binds a teardown to every element that is added to the list L. -/
def teardownsKept : Script.Action :=
  ⟨"subscribe", none, some (.literal (.text "L")),
    .operate (.subscribe (.literal (.text "s")) (some .added)
      [⟨"register", none, none, .register none (.literal (.text "t")) .direct []⟩])⟩

/-- An action that removes the second element of the list L. -/
def secondRemoved : Script.Action :=
  ⟨"remove", none, some (.literal (.text "L")), .operate (.removeAt (.literal (.int 1)))⟩

/-- After an element to which a teardown is bound has been put into the list L. -/
def teardownPends : Moment :=
  (((((Moment.start false).begin pairMade).begin teardownsKept).run 1).begin thirdInserted).run 16

/-- After the element has been removed again. -/
def teardownDone : Moment := (teardownPends.begin secondRemoved).run 15

/-- A deed that neither drives keys or teardowns itself nor comes of a failure. -/
def Deed.isTame : Deed → Bool
  | .running .asked _ _ _ | .opened .asked _ _ | .setBegun _ true | .abandoned _ => false
  | _ => true

/-- When an element to which a teardown was bound has been added and removed, its
teardown has been called and its key has left. -/
theorem teardowns_follow_departures_removal :
    teardownDone.IsReached ∧ teardownDone.machine.isFinished = true ∧
      Ordinary teardownDone.history ∧ Calm teardownDone.history ∧
      ∃ teardown, .tornDown 0 ⟨0, 2⟩ teardown ∈ teardownDone.history ∧
        teardownDone.world.Left 0 ⟨0, 2⟩ := by
  have subscribed := ((Moment.IsReached.start false).begin rfl pairMade).begin rfl teardownsKept
  have pends : teardownPends.IsReached := ((subscribed.run 1).begin rfl thirdInserted).run 16
  have reached : teardownDone.IsReached := (pends.begin rfl secondRemoved).run 15
  have all : teardownDone.history.all Deed.isTame = true := rfl
  have absent (deed : Deed) (wild : deed.isTame = false) : deed ∉ teardownDone.history := by
    intro inside
    rw [List.all_eq_true.mp all deed inside] at wild
    cases wild
  have ordinary : Ordinary teardownDone.history :=
    ⟨fun _ _ _ => absent _ rfl, fun _ _ => absent _ rfl, fun _ => absent _ rfl⟩
  have calm : Calm teardownDone.history :=
    ⟨fun _ _ _ => absent _ rfl, fun _ _ _ => absent _ rfl⟩
  have called : ∃ teardown, teardownDone.history[12]? = some (.tornDown 0 ⟨0, 2⟩ teardown) :=
    ⟨_, rfl⟩
  obtain ⟨teardown, here⟩ := called
  have torn := List.mem_of_getElem? here
  exact ⟨reached, rfl, ordinary, calm, teardown, torn,
    (teardowns_follow_departures reached ordinary.undriven).1 0 ⟨0, 2⟩ teardown torn⟩

end Observables
