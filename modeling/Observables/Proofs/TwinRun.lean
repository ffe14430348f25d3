import Observables.Proofs.TwinScript

/-!
# Steps of a container in company and alone

As long as actions keep to the estate of the container and are discreet, every
step does the same in both runs.
-/

namespace Observables

open Script

/-- An action keeps to the estate, and nobody keeps a shared number if discretion is asked for. -/
def Estate.allows (estate : Estate) (discreet : Bool) (machine : Machine) (action : Action) :
    Bool :=
  estate.admits machine action && (!discreet || machine.isDiscreet action)

/-- An action that keeps to the estate keeps its result there. -/
theorem Estate.keeps_result (estate : Estate) {machine : Machine} {action : Action}
    (admits : estate.admits machine action = true) : action.result.all estate.written = true :=
  (Bool.and_eq_true_iff.mp (Bool.and_eq_true_iff.mp admits).1).2

/-- What the next step begins or answers keeps to the estate. -/
def Estate.watches (estate : Estate) (discreet : Bool) (machine : Machine) : Bool :=
  match machine.stack, machine.focus with
  | .body (action :: _) :: _, .resume _ => estate.allows discreet machine action
  | .answer value :: _, .resume _ => estate.covers machine value
  | _, _ => true

/-- A number that is not kept is told by an action that says so. -/
theorem Machine.isToken_of_isDiscreet {machine : Machine} {action : Action}
    (discreet : machine.isDiscreet action = true)
    (tells : machine.tellsNumber (machine.subjectName action) action.command = true) :
    action.isToken = true := by
  unfold isDiscreet at discreet
  rw [tells, Bool.not_true, Bool.or_false] at discreet
  exact discreet

/-- What is no word is hidden. -/
theorem Reply.hidden_of_not_mem {answer : Value} (told : answer ∉ words) :
    (Reply.value answer).hidden = .value .null := if_neg told

/-- The answers of actions that tell nothing but shared numbers look the same. -/
theorem Event.veiled_answered {verb : String} (hidden : numberVerbs.contains verb = true)
    {value other : Value} (told : value ∉ words) (second : other ∉ words) :
    (Event.answered verb (.value other)).veiled = (Event.answered verb (.value value)).veiled := by
  unfold veiled
  dsimp only
  rw [if_pos hidden, if_pos hidden, Reply.hidden_of_not_mem told, Reply.hidden_of_not_mem second]

/-- A frame that says nothing about containers, keys or variables lets no number pass. -/
theorem veils_of_isFree {outer : Action} {frame : Frame} {rest : List Frame}
    (free : frame.isFree = true) : veils outer (frame :: rest) = false := by
  cases frame with
  | body | answer | yield | attempt | shield | boundary => rfl
  | _ => cases free

namespace Twin

variable {twin : Twin}

/-- The same result is kept in both runs, or none. -/
theorem Locals.keep {left right : Variables} (locals : twin.Locals left right) (action : Action)
    (focus : Focus) :
    twin.Locals (Session.keep left action focus) (Session.keep right action focus) := by
  unfold Session.keep
  cases focus with
  | unwind failure => exact locals
  | resume reply =>
    cases action.result with
    | none => exact locals
    | some name => exact locals.insert name _

namespace Stands

variable {bond : Bond} {outer : Action} {left right : Machine}

/-- Both go on with the same reply. -/
theorem onward (stands : twin.Stands bond left right) (focus : Focus) :
    twin.Machines outer { left with focus := focus } { right with focus := focus } :=
  ⟨bond, ⟨stands.worlds, stands.locals, stands.stack⟩, .same focus⟩

/-- Both note the same reply. -/
theorem finish_corresponds (stands : twin.Stands bond left right) (action : Action)
    (reply : Reply) :
    twin.Machines outer (left.finish action reply) (right.finish action reply) := by
  have noted : twin.Worlds bond
      (if reply = .value .null then left.world
        else left.world.emit (.answered action.verb reply))
      (if reply = .value .null then right.world
        else right.world.emit (.answered action.verb reply)) := by
    split
    · exact stands.worlds
    · exact stands.worlds.emit rfl
  exact ⟨bond, ⟨noted, stands.locals.keep action (.resume reply), stands.stack⟩, .same _⟩

/-- Both note a number that nobody keeps. -/
theorem finish_numbers (stands : twin.Stands bond left right) {action : Action}
    (token : action.isToken = true) {value other : Value} (told : value ∉ words)
    (second : other ∉ words) :
    twin.Machines outer (left.finish action (.value value))
      (right.finish action (.value other)) := by
  obtain ⟨hidden, unkept⟩ := Bool.and_eq_true_iff.mp token
  have noted (answer : Value) (other : answer ∉ words) : Reply.value answer ≠ .value .null :=
    fun same => other (Reply.value.inj same ▸ List.mem_cons_self)
  unfold Machine.finish
  rw [if_neg (noted value told), if_neg (noted other second), Option.isNone_iff_eq_none.mp unkept]
  exact ⟨bond, ⟨stands.worlds.emit (Event.veiled_answered hidden told second), stands.locals,
    stands.stack⟩, .same _⟩

/-- Both perform an action that keeps to the estate and is discreet. -/
theorem carryOut_corresponds (stands : twin.Stands bond left right) {action : Action}
    (allows : twin.estate.allows true left action = true)
    (unkept : action.isToken = true → veils outer left.stack = true) :
    twin.Machines outer (left.perform action) (right.perform action) := by
  obtain ⟨admits, discreet⟩ := Bool.and_eq_true_iff.mp allows
  exact stands.perform_corresponds admits fun tells =>
    unkept (left.isToken_of_isDiscreet discreet tells)

/-- Both begin the next action of a body. -/
theorem begin_corresponds (stands : twin.Stands bond left right) {action : Action}
    (allows : twin.estate.allows true left action = true) (actions : List Action) :
    twin.Machines outer ((left.push [.finish action, .body actions]).perform action)
      ((right.push [.finish action, .body actions]).perform action) := by
  obtain ⟨admits, _⟩ := Bool.and_eq_true_iff.mp allows
  have own := twin.estate.keeps_result admits
  exact (stands.pushed (.cons (.finish own) (.cons (.free rfl) .nil))).carryOut_corresponds
    allows id

/-- Both go on with frames that say the same. -/
theorem resume_corresponds (stands : twin.Stands bond left right) {frame other : Frame}
    (same : twin.Frames bond frame other) {reply : Reply}
    (watched : twin.estate.watches true { left with
      stack := frame :: left.stack, focus := .resume reply } = true) :
    twin.Machines outer ({ left with focus := .resume reply }.resume frame reply)
      ({ right with focus := .resume reply }.resume other reply) := by
  have standing : twin.Stands bond { left with focus := .resume reply }
      { right with focus := .resume reply } := ⟨stands.worlds, stands.locals, stands.stack⟩
  cases same with
  | free free =>
    cases frame with
    | body actions =>
      cases actions with
      | nil => exact standing.proceed_corresponds
      | cons action actions => exact standing.begin_corresponds watched actions
    | answer value => exact standing.answer_corresponds (standing.evaluate_eq watched)
    | yield value => exact standing.answer_corresponds rfl
    | attempt => exact standing.answer_corresponds rfl
    | shield => exact standing.proceed_corresponds
    | boundary => exact stands.onward _
    | _ => cases free
  | finish own => exact standing.finish_corresponds _ reply
  | restore same => exact ⟨bond, ⟨stands.worlds, same, stands.stack⟩, .same _⟩
  | scope own => exact (stands.withWorld stands.worlds.leave).onward _
  | borrowed => exact (stands.withWorld stands.worlds.release).onward _
  | operating => exact stands.onward _
  | store => exact standing.store_corresponds _
  | replace => exact standing.replace_corresponds _
  | notify => exact standing.notify_corresponds _
  | dispatch same => exact standing.dispatch_corresponds _ same
  | announce own => exact standing.announce_corresponds own _ _
  | settle own => exact standing.settle_corresponds own
  | discharge own => exact standing.discharge_corresponds own
  | teardown same => exact standing.teardown_corresponds _ _ same
  | verdict => exact standing.verdict_corresponds _ _ _ _ _

/-- Both leave frames that say the same. -/
theorem unwind_corresponds (stands : twin.Stands bond left right) {frame other : Frame}
    (same : twin.Frames bond frame other) (failure : Failure) :
    twin.Machines outer ({ left with focus := .unwind failure }.unwind frame failure)
      ({ right with focus := .unwind failure }.unwind other failure) := by
  cases same with
  | free free =>
    cases frame with
    | attempt => exact stands.onward _
    | shield =>
      unfold Machine.unwind
      dsimp only
      split
      · exact stands.onward _
      · exact stands.onward _
    | boundary | body | answer | yield => exact stands.onward _
    | _ => cases free
  | restore same => exact ⟨bond, ⟨stands.worlds, same, stands.stack⟩, .same _⟩
  | scope own => exact (stands.withWorld stands.worlds.leave).onward _
  | borrowed => exact (stands.withWorld stands.worlds.release).onward _
  | _ => exact stands.onward _

end Stands

/-- As long as what is begun and answered keeps to the estate and is discreet, every step does
the same in both runs. -/
theorem Machines.step {outer : Action} {left right : Machine}
    (machines : twin.Machines outer left right)
    (watched : twin.estate.watches true left = true) :
    twin.Machines outer left.step right.step := by
  obtain ⟨bond, stands, flows⟩ := machines
  rcases left with ⟨world, locals, stack, focus⟩
  rcases right with ⟨second, others, frames, after⟩
  obtain ⟨worlds, same, all⟩ := stands
  cases all with
  | nil => exact ⟨bond, ⟨worlds, same, .nil⟩, flows⟩
  | @cons frame other rest beneath first further =>
    have stands : twin.Stands bond ⟨world, locals, rest, focus⟩ ⟨second, others, beneath, after⟩ :=
      ⟨worlds, same, further⟩
    cases flows with
    | same focus =>
      cases focus with
      | resume reply => exact stands.resume_corresponds first watched
      | unwind failure => exact stands.unwind_corresponds first failure
    | numbers told hidden unkept =>
      -- A number is on its way to the action that tells it, past the end of the operation only.
      cases first with
      | operating => exact ⟨bond, stands, .numbers told hidden unkept⟩
      | finish own => exact stands.finish_numbers unkept told hidden
      | free free => cases (veils_of_isFree free).symm.trans unkept
      | _ => cases unkept

/-- Both machines have finished, or neither has. -/
theorem Machines.isFinished {outer : Action} {left right : Machine}
    (machines : twin.Machines outer left right) : right.isFinished = left.isFinished := by
  obtain ⟨bond, stands, _⟩ := machines
  have length := stands.stack.length_eq
  unfold Machine.isFinished
  rw [Bool.eq_iff_iff, List.isEmpty_iff_length_eq_zero, List.isEmpty_iff_length_eq_zero, length]

end Twin

end Observables
