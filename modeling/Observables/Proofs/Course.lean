import Observables.Proofs.Moment

/-!
# Courses

What a script may do depends on where it is when it does it. A course is a
stretch of a run on which every deed is allowed at the moment at which it is
done.
-/

namespace Observables.Moment

open Script

/-- A stretch of a run, from one moment to a later one, on which every deed is allowed at its
moment. What is done on the way is listed with the latest first. -/
inductive Course (allowed : Moment → Deed → Bool) (first : Moment) : List Deed → Moment → Prop where
  /-- Nothing is done yet. -/
  | refl : Course allowed first [] first
  /-- One more thing is done, which is allowed. -/
  | next {recent before after deed} (earlier : Course allowed first recent before)
      (last : before.Next after) (latest : after.history = deed :: before.history)
      (fits : allowed before deed = true) : Course allowed first (deed :: recent) after

namespace Course

variable {allowed : Moment → Deed → Bool} {first between later : Moment}
  {early late recent : List Deed}

/-- A course is a stretch. -/
theorem stretch (course : first.Course allowed recent later) : first.Stretch recent later := by
  induction course with
  | refl => exact .refl
  | next _ last latest _ ih => exact ih.next last latest

/-- One course goes on with another. -/
theorem trans (course : first.Course allowed early between)
    (further : between.Course allowed late later) :
    first.Course allowed (late ++ early) later := by
  induction further with
  | refl => exact course
  | next _ last latest fits ih => exact ih.next last latest fits

end Course

/-- Every deed of the next steps of the machine is allowed at its moment. -/
def heeds (allowed : Moment → Deed → Bool) (moment : Moment) : Nat → Bool
  | 0 => true
  | steps + 1 => moment.machine.isFinished ||
      allowed moment moment.machine.deed && moment.step.heeds allowed steps

/-- If the deeds of some steps are allowed then so are those of the first of them. -/
theorem heeds_of_le {allowed : Moment → Deed → Bool} {moment : Moment} {first steps : Nat}
    (heeded : moment.heeds allowed steps = true) (before : first ≤ steps) :
    moment.heeds allowed first = true := by
  induction first generalizing moment steps with
  | zero => rfl
  | succ first ih =>
    obtain ⟨further, rfl⟩ := Nat.exists_eq_add_of_lt before
    simp only [heeds, Bool.or_eq_true, Bool.and_eq_true] at heeded ⊢
    refine heeded.imp id fun ⟨fits, others⟩ => ⟨fits, ?_⟩
    exact ih others (Nat.le_add_right first further)

/-- Steps with deeds that are allowed make a course. -/
theorem course_run {allowed : Moment → Deed → Bool} {moment : Moment} {steps : Nat}
    (heeded : moment.heeds allowed steps = true) :
    ∃ recent, moment.Course allowed recent (moment.run steps) := by
  induction steps generalizing moment with
  | zero => exact ⟨[], .refl⟩
  | succ steps ih =>
    simp only [run]
    split
    · exact ⟨[], .refl⟩
    · next busy =>
      simp only [heeds, busy, Bool.false_or, Bool.and_eq_true] at heeded
      obtain ⟨fits, others⟩ := heeded
      obtain ⟨recent, course⟩ := ih others
      have step : moment.Course allowed [moment.machine.deed] moment.step :=
        Course.refl.next (.step (by simpa using busy)) rfl fits
      exact ⟨_, step.trans course⟩

/-- An action whose deeds are allowed makes a course. -/
theorem course_begin {allowed : Moment → Deed → Bool} {moment : Moment} {action : Action}
    {steps : Nat} (finished : moment.machine.isFinished = true)
    (fits : allowed moment (moment.idle.actionDeed action) = true)
    (heeded : (moment.begin action).heeds allowed steps = true) :
    ∃ recent, moment.Course allowed recent ((moment.begin action).run steps) := by
  obtain ⟨recent, course⟩ := course_run heeded
  have begun : moment.Course allowed [moment.idle.actionDeed action] (moment.begin action) :=
    Course.refl.next (.begin finished action) rfl fits
  exact ⟨_, begun.trans course⟩

end Observables.Moment
