import Observables.Proofs.PortedScript

/-!
# Steps of two corresponding runs

Every step of the direct run is matched by one step of the shielded run, or it
only takes off a frame that the shielded run does not have, which the shielded
run sits out.
-/

namespace Observables

open Script

namespace Port

variable (port : Port)

/-- The direct machine goes on steadily: no failure leaves a call, nothing has been
refused because of a reader, the setter of the list has answered a list, and the action that
is next may be performed in both runs. -/
def isSteady (machine : Machine) : Bool :=
  match machine.stack, machine.focus with
  | .boundary :: .restore _ :: _, .unwind _ => false
  | _, .unwind .borrowed => false
  | .replace container :: _, .resume reply =>
    container != port.list || reply.content.items?.isSome
  | .body (action :: _) :: _, .resume _ => port.admits machine action
  | _, _ => true

/-- What the shielded machine does while the direct one takes a step. -/
def follow (left right : Machine) : Machine :=
  if port.waits left.stack then right else right.step

variable {port}

/-- A reader of the list has no counterpart. -/
theorem waits_reader (rest : List Frame) : port.waits (.borrowed port.list :: rest) = true :=
  beq_self_eq_true _

/-- A reader of another container has one. -/
theorem not_waits_borrowed {container : ContainerRef} (apart : container ≠ port.list)
    (rest : List Frame) : ¬ port.waits (.borrowed container :: rest) = true :=
  fun waits => apart (beq_iff_eq.mp waits)

/-- Nothing has been refused because of a reader when a machine goes on steadily. -/
theorem not_hasCollided {machine : Machine} (steady : port.isSteady machine = true) :
    ¬ machine.HasCollided := by
  intro collided
  unfold Machine.HasCollided at collided
  unfold isSteady at steady
  rw [collided] at steady
  split at steady <;> simp_all

/-- Corresponding actions are called the same. -/
theorem Acts.verb {action other : Action} (same : port.Acts action other) :
    other.verb = action.verb := by
  cases same
  rfl

/-- Corresponding actions keep their answers in the same variable. -/
theorem Acts.result {action other : Action} (same : port.Acts action other) :
    other.result = action.result := by
  cases same
  rfl

/-- The variable for the answer of an action that is admitted has the right form. -/
theorem kept_of_admits {machine : Machine} {action : Action}
    (admits : port.admits machine action = true) (name : String)
    (result : action.result = some name) :
    port.form name = port.commandForm machine (machine.subjectName action) action.command := by
  have keeps := (Bool.and_eq_true_iff.mp admits).2
  rw [result] at keeps
  exact beq_iff_eq.mp keeps

/-- A value that has items is a list. -/
theorem items_of_isSome {value : Value} (isSome : value.items?.isSome = true) :
    ∃ items, value = .list items := by
  cases value with
  | list items => exact ⟨items, rfl⟩
  | _ => cases isSome

namespace Stands

variable {outer form : Form} {awaited : Option Form} {left right : Machine}

/-- Both note and keep their answers to an action. -/
theorem finish_corresponds (stands : port.Stands outer (some .same) left right)
    {action other : Action} (verb : other.verb = action.verb)
    (result : other.result = action.result)
    (kept : ∀ name, action.result = some name → port.form name = form) {direct shielded : Reply}
    (answers : form.Answers direct shielded) :
    port.Machines outer (left.finish action direct) (right.finish other shielded) := by
  have worlds := stands.worlds.finish action.verb answers
  unfold Machine.finish
  rw [verb, result]
  cases keeps : action.result with
  | none => exact ⟨some .same, ⟨worlds, stands.locals, stands.aligned⟩, .resume (.same _)⟩
  | some name =>
    have locals : port.Locals (left.locals.insert name direct.kept)
        (right.locals.insert name shielded.kept) := by
      refine stands.locals.insert ?_
      rw [kept name keeps]
      exact answers.kept
    exact ⟨some .same, ⟨worlds, locals, stands.aligned⟩, .resume (.same _)⟩

end Stands

section

variable {outer : Form} {awaited : Option Form} {world other : World} {locals others : Variables}
  {left right : List Frame}

/-- A step that goes on with a reply is matched by a step or sat out. -/
theorem Stacks.step_resume (aligned : port.Stacks outer awaited left right)
    (worlds : port.Worlds world other) (keeps : port.Locals locals others)
    {direct shielded : Reply} (replies : Awaits awaited direct shielded)
    (busy : left ≠ [])
    (steady : port.isSteady ⟨world, locals, left, .resume direct⟩ = true)
    (calm : ¬ (⟨world, locals, left, .resume direct⟩ : Machine).step.HasCollided) :
    port.Machines outer (⟨world, locals, left, .resume direct⟩ : Machine).step
      (port.follow ⟨world, locals, left, .resume direct⟩
        ⟨other, others, right, .resume shielded⟩) := by
  have stands {awaited : Option Form} {left right : List Frame}
      (rest : port.Stacks outer awaited left right) :
      port.Stands outer awaited ⟨world, locals, left, .resume direct⟩
        ⟨other, others, right, .resume shielded⟩ := ⟨worlds, keeps, rest⟩
  cases aligned with
  | nil => exact absurd rfl busy
  | body bodies rest =>
    cases bodies with
    | nil => exact (stands rest).proceed_corresponds
    | @cons action second actions following same bodies =>
      have begun : port.Stands outer
          (some (port.commandForm _ (Machine.subjectName _ action) action.command))
          ((⟨world, locals, _, .resume direct⟩ : Machine).push [.finish action, .body actions])
          ((⟨other, others, _, .resume shielded⟩ : Machine).push
            [.finish second, .body following]) :=
        (stands rest).pushed (.finish same.verb same.result (kept_of_admits steady)
          (.body bodies rest))
      exact begun.perform_corresponds same steady calm
  | finish verb result kept rest => exact (stands rest).finish_corresponds verb result kept replies
  | answer reads rest => exact (stands rest).answer_of_eq ((stands rest).evaluate_eq reads)
  | yield answers rest => exact (stands rest).answers answers
  | restore kept rest => exact ⟨awaited, ⟨worlds, kept, rest⟩, .resume replies⟩
  | attempt rest => exact (stands rest).answer_corresponds _
  | shield rest => exact (stands rest).proceed_corresponds
  | boundary both rest =>
    rw [follow, both]
    exact ⟨awaited, stands rest, .resume replies⟩
  | guard both rest =>
    rw [follow, both]
    exact ⟨none, ⟨worlds, keeps, rest⟩, .resume trivial⟩
  | edge alone rest =>
    rw [follow, alone]
    exact ⟨awaited, stands rest, .resume replies⟩
  | reader rest =>
    rw [follow, if_pos (waits_reader _)]
    exact ⟨awaited, ⟨worlds.releaseList, keeps, rest⟩, .resume replies⟩
  | borrowed apart rest =>
    rw [follow, if_neg (not_waits_borrowed apart _)]
    exact ⟨awaited, ⟨worlds.release apart, keeps, rest⟩, .resume replies⟩
  | scope rest => exact ⟨awaited, ⟨worlds.leave _, keeps, rest⟩, .resume replies⟩
  | operating rest => exact ⟨awaited, stands rest, .resume replies⟩
  | store apart rest =>
    cases replies
    exact (stands rest).store_corresponds _ _ calm
  | replace rest =>
    cases replies
    refine (stands rest).replace_corresponds _ _ (fun here => ?_) calm
    have answered : (_ != port.list || direct.content.items?.isSome) = true := steady
    rw [here, bne_self_eq_false, Bool.false_or] at answered
    exact items_of_isSome answered
  | notify rest => exact (stands rest).notify_corresponds _ _
  | dispatch rest => exact (stands rest).dispatch_corresponds _ _ _
  | announce rest => exact (stands rest).announce_corresponds _ _ _ _
  | settle rest => exact (stands rest).settle_corresponds _ _
  | discharge rest => exact (stands rest).discharge_corresponds _ _
  | teardown same rest => exact (stands rest).teardown_corresponds _ _ same
  | verdict bodies reads rest =>
    cases replies
    exact Stands.verdict_corresponds (stands rest) _ _ bodies reads _ calm

/-- A step that leaves with a failure is matched by a step or sat out. -/
theorem Stacks.step_unwind (aligned : port.Stacks outer awaited left right)
    (worlds : port.Worlds world other) (keeps : port.Locals locals others) {failure : Failure}
    (busy : left ≠ [])
    (steady : port.isSteady ⟨world, locals, left, .unwind failure⟩ = true) :
    port.Machines outer (⟨world, locals, left, .unwind failure⟩ : Machine).step
      (port.follow ⟨world, locals, left, .unwind failure⟩
        ⟨other, others, right, .unwind failure⟩) := by
  have leaves {awaited : Option Form} {left right : List Frame}
      (rest : port.Stacks outer awaited left right) :
      port.Machines outer ⟨world, locals, left, .unwind failure⟩
        ⟨other, others, right, .unwind failure⟩ :=
    ⟨awaited, ⟨worlds, keeps, rest⟩, .unwind failure⟩
  cases aligned with
  | nil => exact absurd rfl busy
  | body _ rest | finish _ _ _ rest | answer _ rest | yield _ rest | operating rest
  | store _ rest | replace rest | notify rest | dispatch rest | announce rest | settle rest
  | discharge rest | teardown _ rest | verdict _ _ rest => exact leaves rest
  | restore kept rest => exact ⟨awaited, ⟨worlds, kept, rest⟩, .unwind failure⟩
  | attempt rest => exact ⟨some .same, ⟨worlds, keeps, rest⟩, .resume (.same _)⟩
  | shield rest =>
    cases failure with
    | thrown value => exact ⟨some .same, ⟨worlds, keeps, rest⟩, .resume (.same _)⟩
    | escaped value => exact leaves rest
    | borrowed => exact leaves rest
  | boundary both rest =>
    rw [follow, if_neg (by rw [both]; exact Bool.false_ne_true)]
    exact ⟨awaited, ⟨worlds, keeps, rest⟩, .unwind failure.escape⟩
  | guard both rest => cases steady
  | @edge _ frames _ alone rest =>
    cases frames with
    | nil => cases alone
    | cons frame frames =>
      cases frame with
      | restore locals => cases steady
      | _ => cases alone
  | reader rest =>
    rw [follow, if_pos (waits_reader _)]
    exact ⟨awaited, ⟨worlds.releaseList, keeps, rest⟩, .unwind failure⟩
  | borrowed apart rest =>
    rw [follow, if_neg (not_waits_borrowed apart _)]
    exact ⟨awaited, ⟨worlds.release apart, keeps, rest⟩, .unwind failure⟩
  | scope rest => exact ⟨awaited, ⟨worlds.leave _, keeps, rest⟩, .unwind failure⟩

/-- After every steady step of the direct run the machines correspond again. -/
theorem Machines.step {left right : Machine} (machines : port.Machines outer left right)
    (busy : left.isFinished = false) (steady : port.isSteady left = true)
    (calm : ¬ left.step.HasCollided) :
    port.Machines outer left.step (port.follow left right) := by
  rcases left with ⟨world, locals, left, focus⟩
  rcases right with ⟨other, others, right, going⟩
  obtain ⟨awaited, stands, flows⟩ := machines
  have above : left ≠ [] := by
    rintro rfl
    cases busy
  cases flows with
  | resume replies =>
    exact stands.aligned.step_resume stands.worlds stands.locals replies above steady calm
  | unwind failure =>
    exact stands.aligned.step_unwind stands.worlds stands.locals above steady

end

end Port

end Observables
