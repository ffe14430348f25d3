import Observables.Proofs.Deed
import Mathlib.Logic.Relation

/-!
# Moments of a script

A script hands its actions to a session one after the other, and each action
is a machine that takes steps until it has finished. A moment is one of these
machines together with all that has been done before. The moments that
scripts can reach are those that follow from the first one; what holds of all
of them holds at every call of a callback and after every action.
-/

namespace Observables

open Script

/-- A moment in the run of a script. -/
structure Moment where
  /-- The action of the script that is being performed; none before the first. -/
  action : Option Action
  /-- The machine that performs it. -/
  machine : Machine
  /-- What has been done so far, the latest first. -/
  history : List Deed

namespace Moment

/-- All that the run keeps at the moment. -/
def world (moment : Moment) : World := moment.machine.world

/-- Before the first action. -/
def start (tracing : Bool) : Moment :=
  ⟨none, ⟨(Session.start tracing).world, (Session.start tracing).locals, [],
    .resume (.value .null)⟩, []⟩

/-- The session that is left when the machine has finished. -/
def session (moment : Moment) : Session :=
  ⟨moment.machine.world, match moment.action with
    | none => moment.machine.locals
    | some action => Session.keep moment.machine.locals action moment.machine.focus⟩

/-- The machine without anything to do on which the next action is performed. -/
def idle (moment : Moment) : Machine :=
  ⟨{ moment.world with journal := moment.world.journal.clear }, moment.session.locals, [],
    .resume (.value .null)⟩

/-- The moment after the first step of the next action. -/
def begin (moment : Moment) (action : Action) : Moment :=
  ⟨some action, moment.idle.perform action, moment.idle.actionDeed action :: moment.history⟩

/-- The moment after the next step of the machine. -/
def step (moment : Moment) : Moment :=
  { moment with
    machine := moment.machine.step
    history := moment.machine.deed :: moment.history }

/-- One moment comes directly after another. -/
inductive Next (moment : Moment) : Moment → Prop where
  /-- The machine takes a step. -/
  | step (busy : moment.machine.isFinished = false) : Next moment moment.step
  /-- The machine has finished and the script goes on with an action. -/
  | begin (finished : moment.machine.isFinished = true) (action : Action) :
      Next moment (moment.begin action)

/-- One moment comes after another in a run, or is the same. -/
def Leads : Moment → Moment → Prop := Relation.ReflTransGen Next

/-- Some script reaches the moment. -/
def IsReached (moment : Moment) : Prop := ∃ tracing, (start tracing).Leads moment

/-- What holds at first and is kept from each moment to the next holds whenever a
script runs. -/
theorem IsReached.induction {holds : Moment → Prop} (first : ∀ tracing, holds (start tracing))
    (kept : ∀ moment next, moment.IsReached → holds moment → moment.Next next → holds next)
    {moment : Moment} (reached : moment.IsReached) : holds moment := by
  obtain ⟨tracing, leads⟩ := reached
  induction leads with
  | refl => exact first tracing
  | tail before last ih => exact kept _ _ ⟨tracing, before⟩ ih last

/-- What follows a reached moment is reached. -/
theorem IsReached.leads {moment later : Moment} (reached : moment.IsReached)
    (leads : moment.Leads later) : later.IsReached := by
  obtain ⟨tracing, before⟩ := reached
  exact ⟨tracing, before.trans leads⟩

/-- A later moment remembers all that an earlier one did. -/
theorem Leads.history_suffix {moment later : Moment} (leads : moment.Leads later) :
    moment.history <:+ later.history := by
  induction leads with
  | refl => exact List.suffix_refl _
  | tail _ last ih =>
    cases last with
    | step => exact ih.trans (List.suffix_cons _ _)
    | begin => exact ih.trans (List.suffix_cons _ _)

/-- A stretch of a run, from one moment to a later one, with what is done on the way, the
latest first. -/
inductive Stretch (first : Moment) : List Deed → Moment → Prop where
  /-- Nothing is done yet. -/
  | refl : Stretch first [] first
  /-- One more thing is done. -/
  | next {recent before after deed} (earlier : Stretch first recent before)
      (last : before.Next after) (latest : after.history = deed :: before.history) :
      Stretch first (deed :: recent) after

namespace Stretch

variable {first moment : Moment} {recent : List Deed}

/-- A stretch leads from moment to moment. -/
theorem leads (stretch : first.Stretch recent moment) : first.Leads moment := by
  induction stretch with
  | refl => exact .refl
  | next _ last _ ih => exact ih.tail last

/-- What is done on the way is remembered at the end. -/
theorem history (stretch : first.Stretch recent moment) :
    moment.history = recent ++ first.history := by
  induction stretch with
  | refl => rfl
  | next _ _ latest ih => rw [latest, ih, List.cons_append]

end Stretch

/-- Whatever leads from one moment to another is a stretch. -/
theorem Leads.exists_stretch {first later : Moment} (leads : first.Leads later) :
    ∃ recent, first.Stretch recent later := by
  induction leads with
  | refl => exact ⟨[], .refl⟩
  | tail _ last ih =>
    obtain ⟨recent, stretch⟩ := ih
    cases last with
    | step busy => exact ⟨_, stretch.next (.step busy) rfl⟩
    | begin finished action => exact ⟨_, stretch.next (.begin finished action) rfl⟩

/-- The moment after a number of steps, or when the machine has finished before. -/
def run (moment : Moment) : Nat → Moment
  | 0 => moment
  | steps + 1 => if moment.machine.isFinished then moment else moment.step.run steps

/-- The steps of a run after its first one. -/
theorem run_succ_of_busy {moment : Moment} (busy : moment.machine.isFinished = false)
    (steps : Nat) : moment.run (steps + 1) = moment.step.run steps := by
  simp only [run, busy, Bool.false_eq_true, if_false]

/-- The machine of a moment runs, and the action stays the same. -/
theorem machine_run (moment : Moment) (steps : Nat) :
    (moment.run steps).machine = moment.machine.run steps ∧
      (moment.run steps).action = moment.action := by
  induction steps generalizing moment with
  | zero => exact ⟨rfl, rfl⟩
  | succ steps ih =>
    simp only [run, Machine.run]
    split
    · exact ⟨rfl, rfl⟩
    · exact ih moment.step

/-- Running on is running for the sum of the steps. -/
theorem run_add (moment : Moment) (first second : Nat) :
    moment.run (first + second) = (moment.run first).run second := by
  induction first generalizing moment with
  | zero => rw [Nat.zero_add, run]
  | succ first ih =>
    rw [Nat.succ_add]
    by_cases finished : moment.machine.isFinished = true
    · have stays : moment.run second = moment := by
        cases second with
        | zero => rfl
        | succ second => simp only [run, finished, if_true]
      simp only [run, finished, if_true, stays]
    · simp only [run, finished, Bool.false_eq_true, if_false]
      exact ih moment.step

/-- A run of one more step is one step more of the run. -/
theorem run_succ {moment : Moment} {steps : Nat}
    (busy : (moment.run steps).machine.isFinished = false) :
    moment.run (steps + 1) = (moment.run steps).step := by
  induction steps generalizing moment with
  | zero =>
    exact run_succ_of_busy busy 0
  | succ steps ih =>
    cases finished : moment.machine.isFinished with
    | true =>
      simp [Moment.run, finished] at busy
    | false =>
      rw [run_succ_of_busy finished] at busy ⊢
      rw [run_succ_of_busy finished]
      exact ih busy

/-- A run leads from moment to moment. -/
theorem leads_run (moment : Moment) (steps : Nat) : moment.Leads (moment.run steps) := by
  induction steps generalizing moment with
  | zero => exact .refl
  | succ steps ih =>
    simp only [run]
    split
    · exact .refl
    · next busy => exact .head (.step (by simpa using busy)) (ih moment.step)

/-- The first moment is reached. -/
theorem IsReached.start (tracing : Bool) : (Moment.start tracing).IsReached := ⟨tracing, .refl⟩

/-- A script can go on with any action when the last one is over. -/
theorem IsReached.begin {moment : Moment} (reached : moment.IsReached)
    (finished : moment.machine.isFinished = true) (action : Action) :
    (moment.begin action).IsReached :=
  reached.leads (.single (.begin finished action))

/-- A script goes on with an action for any number of steps. -/
theorem IsReached.run {moment : Moment} (reached : moment.IsReached) (steps : Nat) :
    (moment.run steps).IsReached :=
  reached.leads (leads_run moment steps)

/-- An action that finishes in the allowed steps takes the session of one moment
to the session of another. -/
theorem session_perform {moment : Moment} (reached : moment.IsReached)
    (finished : moment.machine.isFinished = true) (steps : Nat) (action : Action)
    (ends : ((moment.idle.perform action).run steps).isFinished = true) :
    ∃ later : Moment, later.IsReached ∧ later.machine.isFinished = true ∧
      later.session = (moment.session.perform steps action).1 := by
  obtain ⟨machine, same⟩ := (moment.begin action).machine_run steps
  refine ⟨_, (reached.begin finished action).run steps, ?_, ?_⟩
  · rw [machine]
    exact ends
  · unfold session
    rw [machine, same]
    rfl

end Moment

end Observables
