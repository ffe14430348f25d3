import Observables.Proofs.Inversion

/-!
# Invariants of runs

A property of the world, the stack and the history is an invariant if it holds
before the first action, does not depend on what alike worlds may differ in,
and is kept by every turn. Every moment of every script has it. An invariant
may be kept on the strength of another one.
-/

namespace Observables

/-- A property of a moment: of its world, its stack and its history. -/
abbrev Condition := World → List Frame → List Deed → Prop

/-- A condition holds at first and is kept by every turn at which another one is given. -/
structure Preserved (given holds : Condition) : Prop where
  /-- It holds before the first action. -/
  first : ∀ tracing, holds (Session.start tracing).world [] []
  /-- Alike worlds share it. -/
  alike : ∀ {world other stack history}, world.Alike other → holds world stack history →
    holds other stack history
  /-- Every turn keeps it. Only on an empty stack does a turn take no frame. -/
  turn : ∀ {world rest taken deed other put history}, given world (taken ++ rest) history →
    holds world (taken ++ rest) history → (taken = [] → rest = []) →
    Turn world rest taken deed other put → holds other (put ++ rest) (deed :: history)

/-- A condition that needs no other one to be kept. -/
abbrev Invariant (holds : Condition) : Prop := Preserved (fun _ _ _ => True) holds

/-- The condition at a moment. -/
def Moment.Has (moment : Moment) (holds : Condition) : Prop :=
  holds moment.world moment.machine.stack moment.history

/-- From each moment to the next there is one turn. -/
theorem Moment.Next.exists_turn {before after : Moment} (next : before.Next after) :
    ∃ world rest taken put deed, before.world.Alike world ∧
      before.machine.stack = taken ++ rest ∧ (taken = [] → rest = []) ∧
      after.machine.stack = put ++ rest ∧ after.history = deed :: before.history ∧
      Turn world rest taken deed after.world put := by
  cases next with
  | step busy =>
    obtain ⟨frame, rest, top⟩ := Machine.exists_frame busy
    obtain ⟨put, stack, turn⟩ := Machine.step_turns top
    exact ⟨before.world, rest, [frame], put, _, .refl _, top, by simp, stack, rfl, turn⟩
  | begin finished action =>
    have empty : before.machine.stack = [] := Machine.stack_eq_nil finished
    obtain ⟨put, stack, turn⟩ := Machine.perform_turns before.idle rfl action
    exact ⟨before.idle.world, [], [], put, _, .of_eq rfl rfl rfl rfl rfl rfl, empty, fun _ => rfl,
      stack, rfl, turn⟩

/-- The turn from one moment to the next does the latest deed. -/
theorem Moment.Next.turn {before after : Moment} (next : before.Next after) {deed : Deed}
    (latest : after.history = deed :: before.history) :
    ∃ world rest taken put, before.world.Alike world ∧ before.machine.stack = taken ++ rest ∧
      after.machine.stack = put ++ rest ∧ Turn world rest taken deed after.world put := by
  obtain ⟨world, rest, taken, put, done, same, stack, _, above, history, turn⟩ :=
    next.exists_turn
  obtain ⟨rfl, _⟩ := List.cons.inj (history.symm.trans latest)
  exact ⟨world, rest, taken, put, same, stack, above, turn⟩

/-- What is kept by every turn is kept from each moment to the next. -/
theorem Preserved.next {given holds : Condition} (preserved : Preserved given holds)
    (forgetful : ∀ {world other stack history}, world.Alike other → given world stack history →
      given other stack history)
    {before after : Moment} (known : before.Has given) (held : before.Has holds)
    (next : before.Next after) : after.Has holds := by
  obtain ⟨world, rest, taken, put, deed, same, before, ground, stack, history, turn⟩ :=
    next.exists_turn
  unfold Moment.Has at held known ⊢
  rw [before] at held known
  rw [stack, history]
  exact preserved.turn (forgetful same known) (preserved.alike same held) ground turn

/-- What is kept given another condition holds at every moment if the other one does. -/
theorem Preserved.reached {given holds : Condition} (preserved : Preserved given holds)
    (always : ∀ {moment : Moment}, moment.IsReached → moment.Has given)
    (forgetful : ∀ {world other stack history}, world.Alike other → given world stack history →
      given other stack history)
    {moment : Moment} (reached : moment.IsReached) : moment.Has holds := by
  have kept (before after : Moment) (reached : before.IsReached) (held : before.Has holds)
      (next : before.Next after) : after.Has holds :=
    preserved.next forgetful (always reached) held next
  exact Moment.IsReached.induction preserved.first kept reached

/-- An invariant holds at every moment. -/
theorem Invariant.reached {holds : Condition} (invariant : Invariant holds) {moment : Moment}
    (reached : moment.IsReached) : moment.Has holds :=
  Preserved.reached invariant (fun _ => trivial) (fun _ _ => trivial) reached

end Observables
