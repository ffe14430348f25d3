import Observables.Proofs.Invariant

/-!
# Calls of callbacks

Who has been called is read off the deeds of a history. The step that does such a
deed is the one that puts the body of the callback on the stack, over the frame of
the dispatch or of the run of teardowns that calls it. So each of these deeds stands
for a moment at which the body was about to run.
-/

namespace Observables

/-- A teardown of a key has just been called: its body lies over the run of the key. -/
def Machine.HasEntered (machine : Machine) (realm : RealmRef) (key : Key)
    (teardown : Callback) : Prop :=
  ∃ locals waiting beneath, machine.stack =
    called teardown.body teardown.surface locals ++ .teardown realm key waiting :: beneath

section

variable {realm : RealmRef} {key : Key} {teardown : Callback} {world other : World}
  {rest taken put : List Frame}

/-- The turn that calls a teardown puts its body over the run of the key. -/
theorem Turn.enters_body (turn : Turn world rest taken (.tornDown realm key teardown) other put) :
    ∃ locals waiting, put =
      called teardown.body teardown.surface locals ++ [.teardown realm key waiting] := by
  cases turn with
  | tornDown => exact ⟨_, _, rfl⟩

/-- The step that calls a teardown puts its body over the run of the key. -/
theorem Machine.hasEntered_step {machine : Machine}
    (latest : machine.deed = .tornDown realm key teardown) :
    machine.step.HasEntered realm key teardown := by
  cases stack : machine.stack with
  | nil =>
    simp only [Machine.deed, stack] at latest
    cases latest
  | cons frame rest =>
    obtain ⟨put, next, turn⟩ := Machine.step_turns stack
    rw [latest] at turn
    obtain ⟨locals, waiting, rfl⟩ := turn.enters_body
    exact ⟨locals, waiting, rest, next.trans (List.append_assoc ..)⟩

end

namespace Moment.IsReached

variable {moment : Moment} {past : List Deed}

/-- Whatever had been done at some time had been done at an earlier moment, or at this one. -/
theorem exists_at (reached : moment.IsReached) (earlier : past <:+ moment.history) :
    ∃ before : Moment, before.IsReached ∧ before.Leads moment ∧ before.history = past := by
  obtain ⟨tracing, leads⟩ := reached
  induction leads with
  | refl => exact ⟨.start tracing, .start tracing, .refl, (List.suffix_nil.mp earlier).symm⟩
  | tail leads last ih =>
    obtain ⟨_, _, _, _, _, _, _, _, _, history, _⟩ := last.exists_turn
    rw [history] at earlier
    rcases List.suffix_cons_iff.mp earlier with rfl | earlier
    · exact ⟨_, ⟨tracing, leads.tail last⟩, .refl, history⟩
    · obtain ⟨before, reached, further, same⟩ := ih earlier
      exact ⟨before, reached, further.tail last, same⟩

/-- The latest deed was done in the step that led to the moment. -/
theorem exists_before (reached : moment.IsReached) {deed : Deed}
    (latest : moment.history = deed :: past) :
    ∃ before : Moment, before.IsReached ∧ before.Next moment ∧ before.history = past := by
  obtain ⟨tracing, leads⟩ := reached
  cases leads with
  | refl => cases latest
  | tail leads follows =>
    obtain ⟨_, _, _, _, _, _, _, _, _, history, _⟩ := follows.exists_turn
    exact ⟨_, ⟨tracing, leads⟩, follows, (List.cons.inj (history.symm.trans latest)).2⟩

/-- A subscriber is called over its dispatch. -/
theorem told_stack (reached : moment.IsReached) {container : ContainerRef} {notice : Notice}
    {subscription : SubscriptionRef}
    (latest : moment.history = .told container notice subscription :: past) :
    ∃ (callback : Callback) (locals : Variables) (waiting : List SubscriptionRef)
      (beneath : List Frame), moment.machine.stack =
      called callback.body callback.surface locals ++
        .dispatch container notice waiting :: beneath := by
  obtain ⟨before, _, follows, rfl⟩ := reached.exists_before latest
  obtain ⟨_, rest, _, _, _, _, stack, turn⟩ := follows.turn latest
  cases turn with
  | told =>
    rw [List.append_assoc] at stack
    exact ⟨_, _, _, rest, stack⟩

/-- A teardown is called over the run of its key. -/
theorem hasEntered (reached : moment.IsReached) {realm : RealmRef} {key : Key}
    {teardown : Callback} (latest : moment.history = .tornDown realm key teardown :: past) :
    moment.machine.HasEntered realm key teardown := by
  obtain ⟨before, _, follows, rfl⟩ := reached.exists_before latest
  obtain ⟨_, rest, _, _, _, _, stack, turn⟩ := follows.turn latest
  obtain ⟨locals, waiting, rfl⟩ := turn.enters_body
  exact ⟨locals, waiting, rest, stack.trans (List.append_assoc ..)⟩

/-- Every call of a teardown in a history was made at a moment at which the body of the teardown
lay over the run of its key. -/
theorem exists_hasEntered (reached : moment.IsReached) {realm : RealmRef} {key : Key}
    {teardown : Callback} (earlier : .tornDown realm key teardown :: past <:+ moment.history) :
    ∃ entered : Moment, entered.IsReached ∧ entered.Leads moment ∧
      entered.history = .tornDown realm key teardown :: past ∧
      entered.machine.HasEntered realm key teardown := by
  obtain ⟨entered, known, leads, history⟩ := reached.exists_at earlier
  exact ⟨entered, known, leads, history, known.hasEntered history⟩

end Moment.IsReached

end Observables
