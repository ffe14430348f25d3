import Observables.Proofs.Inversion

/-!
# Calls that return

What a machine does above a height of its stack is a call. It returns when the
stack is that low again for the first time, and until then nothing beneath it
is touched.
-/

namespace Observables.Machine

open Script

/-- After the steps the stack is down to the height for the first time. -/
def Returns (machine : Machine) (height steps : Nat) : Prop :=
  (machine.run steps).stack.length ≤ height ∧
    ∀ earlier < steps, height < (machine.run earlier).stack.length

/-- Before the steps are over the stack is never down to the height. -/
def StaysAbove (machine : Machine) (height steps : Nat) : Prop :=
  ∀ earlier < steps, height < (machine.run earlier).stack.length

variable {machine : Machine} {frame : Frame} {base : List Frame} {height steps : Nat}

/-- A frame goes on with the reply. -/
theorem step_of_resume {reply : Reply} (top : machine.stack = frame :: base)
    (focus : machine.focus = .resume reply) :
    machine.step = { machine with stack := base }.resume frame reply := by
  simp only [step, top, focus]

/-- A frame is left with the failure. -/
theorem step_of_unwind {failure : Failure} (top : machine.stack = frame :: base)
    (focus : machine.focus = .unwind failure) :
    machine.step = { machine with stack := base }.unwind frame failure := by
  simp only [step, top, focus]

/-- Running on from the next step. -/
theorem run_succ (above : height < machine.stack.length) (steps : Nat) :
    machine.run (steps + 1) = machine.step.run steps := by
  simp only [run, not_isFinished above, Bool.false_eq_true, if_false]

/-- A step leaves what lies under the height where it is. -/
theorem step_stack {inner : List Frame} (stack : machine.stack = inner ++ base)
    (above : base.length < machine.stack.length) :
    ∃ others, machine.step.stack = others ++ base := by
  cases inner with
  | nil =>
    rw [stack, List.nil_append] at above
    exact absurd above (Nat.lt_irrefl _)
  | cons frame inner =>
    obtain ⟨put, next, _⟩ := step_turns (stack.trans (List.cons_append ..))
    exact ⟨put ++ inner, next.trans (List.append_assoc ..).symm⟩

namespace StaysAbove

/-- A stack that is down to the height takes no step. -/
theorem eq_zero (above : machine.StaysAbove height steps)
    (below : machine.stack.length ≤ height) : steps = 0 := by
  rcases Nat.eq_zero_or_pos steps with zero | positive
  · exact zero
  · exact absurd below (Nat.not_le_of_lt (above 0 positive))

/-- What is high is still so after the first step. -/
theorem step (above : machine.StaysAbove height (steps + 1))
    (first : height < machine.stack.length) : machine.step.StaysAbove height steps := by
  intro earlier before
  rw [← run_succ first]
  exact above (earlier + 1) (Nat.succ_lt_succ before)

/-- What lies under the height stays where it is. -/
theorem stack {inner : List Frame} (above : machine.StaysAbove base.length steps)
    (stack : machine.stack = inner ++ base) :
    ∃ others, (machine.run steps).stack = others ++ base := by
  induction steps generalizing machine inner with
  | zero => exact ⟨inner, stack⟩
  | succ steps ih =>
    have first : base.length < machine.stack.length := above 0 (Nat.succ_pos _)
    obtain ⟨others, next⟩ := step_stack stack first
    rw [run_succ first]
    exact ih (above.step first) next

/-- What is still above a height after the steps stays there for one more. -/
theorem succ (above : machine.StaysAbove height steps)
    (last : height < (machine.run steps).stack.length) : machine.StaysAbove height (steps + 1) := by
  intro earlier within
  rcases Nat.lt_succ_iff_lt_or_eq.mp within with sooner | rfl
  · exact above earlier sooner
  · exact last

/-- What stays above a height goes on to do so for the sum of the steps. -/
theorem trans {first further : Nat} (before : machine.StaysAbove height first)
    (after : (machine.run first).StaysAbove height further) :
    machine.StaysAbove height (first + further) := by
  intro earlier within
  rcases Nat.lt_or_ge earlier first with sooner | later
  · exact before earlier sooner
  · obtain ⟨more, rfl⟩ := Nat.exists_eq_add_of_le later
    rw [run_add]
    exact after more (Nat.lt_of_add_lt_add_left within)

/-- What stays above a height stays above every lower one. -/
theorem lower {between : Nat} (above : machine.StaysAbove between steps)
    (higher : height ≤ between) : machine.StaysAbove height steps :=
  fun earlier within => Nat.lt_of_le_of_lt higher (above earlier within)

end StaysAbove

namespace Returns

/-- A call that is over takes no step. -/
theorem eq_zero (returns : machine.Returns height steps)
    (below : machine.stack.length ≤ height) : steps = 0 :=
  StaysAbove.eq_zero returns.2 below

/-- A call that has not returned yet takes a step. -/
theorem exists_succ (returns : machine.Returns height steps)
    (above : height < machine.stack.length) : ∃ further, steps = further + 1 := by
  cases steps with
  | zero => exact absurd returns.1 (Nat.not_le_of_lt above)
  | succ further => exact ⟨further, rfl⟩

/-- A call returns to what lay beneath it. -/
theorem stack {inner : List Frame} (returns : machine.Returns base.length steps)
    (stack : machine.stack = inner ++ base) : (machine.run steps).stack = base := by
  obtain ⟨others, below⟩ := StaysAbove.stack returns.2 stack
  have low := returns.1
  rw [below, List.length_append] at low
  have none : others = [] := List.eq_nil_of_length_eq_zero (by omega)
  rw [below, none, List.nil_append]

/-- What is left of a call after its first step returns. -/
theorem step (returns : machine.Returns height (steps + 1))
    (above : height < machine.stack.length) : machine.step.Returns height steps := by
  refine ⟨?_, StaysAbove.step returns.2 above⟩
  rw [← run_succ above]
  exact returns.1

/-- A call whose first step is done returns one step later than from there. -/
theorem of_step (above : height < machine.stack.length)
    (returns : machine.step.Returns height steps) : machine.Returns height (steps + 1) := by
  refine ⟨?_, fun earlier before => ?_⟩
  · rw [run_succ above]
    exact returns.1
  · cases earlier with
    | zero => exact above
    | succ earlier =>
      rw [run_succ above]
      exact returns.2 earlier (Nat.lt_of_succ_lt_succ before)

/-- A call that goes on for some steps returns when the rest of it does. -/
theorem of_run {first further : Nat} (before : machine.StaysAbove height first)
    (returns : (machine.run first).Returns height further) :
    machine.Returns height (first + further) := by
  refine ⟨?_, before.trans returns.2⟩
  rw [run_add]
  exact returns.1

/-- A call that returns to a height has returned to every greater one before. -/
theorem through (returns : machine.Returns height steps) {between : Nat}
    (higher : height ≤ between) :
    ∃ first further, steps = first + further ∧ machine.Returns between first ∧
      (machine.run first).Returns height further := by
  induction steps generalizing machine with
  | zero =>
    have low := Nat.le_trans returns.1 higher
    exact ⟨0, 0, rfl, ⟨low, fun _ before => absurd before (Nat.not_lt_zero _)⟩, returns⟩
  | succ steps ih =>
    rcases Nat.lt_or_ge between machine.stack.length with above | low
    · have tall : height < machine.stack.length := Nat.lt_of_le_of_lt higher above
      obtain ⟨first, further, rfl, here, there⟩ := ih (returns.step tall)
      refine ⟨first + 1, further, by omega, here.of_step above, ?_⟩
      rw [run_succ above]
      exact there
    · exact ⟨0, steps + 1, (Nat.zero_add _).symm,
        ⟨low, fun _ before => absurd before (Nat.not_lt_zero _)⟩, returns⟩

/-- A call that has returned to what lies on a frame takes one step more to come down to what
lies beneath it, if this step only takes the frame off. -/
theorem run_of_pop (returns : machine.Returns base.length steps)
    (top : machine.stack = frame :: base) (pops : machine.step.stack = base) :
    machine.run steps = machine.step := by
  have above : base.length < machine.stack.length := by simp [top]
  obtain ⟨further, rfl⟩ := returns.exists_succ above
  have after := returns.step above
  rw [run_succ above, after.eq_zero (Nat.le_of_eq (congrArg List.length pops)), run]

/-- A call with variables of its own takes up those of its caller in its last step, and otherwise
leaves everything as it was before this step. -/
theorem restores {inner : List Frame} {locals : Variables}
    (returns : machine.Returns base.length steps)
    (stack : machine.stack = inner ++ .restore locals :: base) :
    ∃ earlier < steps, (machine.run earlier).stack = .restore locals :: base ∧
      machine.run steps = { machine.run earlier with stack := base, locals := locals } := by
  obtain ⟨first, further, rfl, here, there⟩ := returns.through (Nat.le_succ base.length)
  have top : (machine.run first).stack = .restore locals :: base := here.stack stack
  have step : (machine.run first).step =
      { machine.run first with stack := base, locals := locals } := by
    cases focus : (machine.run first).focus with
    | resume reply =>
      rw [step_of_resume top focus]
      simp only [resume, focus]
    | unwind failure =>
      rw [step_of_unwind top focus]
      simp only [unwind, focus]
  have last := there.run_of_pop top (congrArg Machine.stack step)
  obtain ⟨more, rfl⟩ := there.exists_succ (by simp [top])
  refine ⟨first, by omega, top, ?_⟩
  rw [run_add, last, step]

end Returns

end Observables.Machine
