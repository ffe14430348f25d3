import Observables.Proofs.Haven

/-!
# The keys of shielded lists

A shielded list has a key for each element at every moment, since nobody reads
it while its elements are replaced. As long as no failure passes a shield, and
the script leaves the keys of shielded lists to these lists, what pends for
such a key waits for its element, or for the end of what has added or removed
the element.
-/

namespace Observables

open Script

/-- Lists alone give out keys, and shielded ones are aligned with their history. -/
structure World.Kept (world : World) (history : List Deed) : Prop where
  /-- Only lists give out keys. -/
  cells : ∀ container, (world.container container).contents.isList = false →
    allotments container history = [] ∧ departures container history = []
  /-- Keys and elements of shielded containers stand side by side. -/
  aligned : ∀ container, world.IsShielded container → (world.container container).contents.Aligned
    (allotments container history) (departures container history)

namespace World

/-- A list that is read is not shielded. -/
theorem Held.not_isShielded {world : World} {stack : List Frame} {history : List Deed}
    (held : world.Held stack history) {container : ContainerRef}
    (isBorrowed : world.isBorrowed container = true) : ¬ world.IsShielded container := by
  intro shielded
  have direct := held.read.direct _ (held.read.mem_of_isBorrowed isBorrowed)
  cases direct.symm.trans shielded

/-- Shielded containers stay aligned whenever a script runs. -/
theorem Kept.preserved :
    Preserved (fun world stack history => world.Held stack history ∧ world.Numbered)
      fun world _ history => world.Kept history where
  first tracing := ⟨fun _ _ => ⟨rfl, rfl⟩, fun _ _ => .cell _⟩
  alike same kept := by
    refine ⟨fun container cell => ?_, fun container shielded => ?_⟩
    · rw [same.container] at cell
      exact kept.cells container cell
    · rw [IsShielded, same.container] at shielded
      rw [same.container]
      exact kept.aligned container shielded
  turn {world rest taken deed other put history} known kept _ turn := by
    obtain ⟨held, numbered⟩ := known
    refine ⟨fun container => turn.cells held (kept.cells container), fun container shielded => ?_⟩
    have before (inside : container < world.containers.size) : world.IsShielded container := by
      rw [IsShielded, ← turn.surface inside]
      exact shielded
    refine turn.aligned held numbered ?_ (kept.cells container)
      fun inside => kept.aligned container (before inside)
    rintro released allotted rfl
    cases turn with
    | rekeyed isBorrowed =>
      have inside := held.read.lt_size (held.read.mem_of_isBorrowed isBorrowed)
      exact held.not_isShielded isBorrowed (before inside)

end World

namespace Moment

variable {before after later : Moment} {moment : Moment} {final : World}

/-- A shielded list has a key for each element at every moment. -/
theorem IsReached.balanced (reached : moment.IsReached) {container : ContainerRef}
    (shielded : moment.world.IsShielded container) :
    (moment.world.container container).keys.inUse.length =
      (moment.world.container container).items.length := by
  have kept : moment.world.Kept moment.history :=
    World.Kept.preserved.reached (fun reached => ⟨reached.held, reached.numbered⟩)
      (fun same known => ⟨known.1.alike same, known.2.alike same⟩) reached
  exact (kept.aligned container shielded).length

/-- What pends for the key of a shielded list stays settled from each moment to the next, if no
failure is in a haven and no action has opened the key. -/
theorem Next.awaits (last : before.Next after) (reached : before.IsReached)
    (insulated : before.machine.IsInsulated final) (within : after.world.Within final)
    (numbered : final.Numbered) {realm : RealmRef} {key : Key}
    (sheltered : final.Shelters realm key) (unopened : .opened .asked realm key ∉ before.history)
    (settled : (before.world.realm realm).teardowns.pending key ≠ [] →
      before.world.Awaits before.machine.stack realm key)
    (pends : (after.world.realm realm).teardowns.pending key ≠ []) :
    after.world.Awaits after.machine.stack realm key := by
  obtain ⟨list, owned, shielded⟩ := sheltered
  obtain ⟨world, rest, taken, put, deed, alike, stack, _, above, latest, turn⟩ := last.exists_turn
  have whole := last.within.trans within
  -- Only the list itself can have the key, so what is to settle the key is in a haven.
  have only {container : ContainerRef} (owns : world.Owns realm key container) :
      container = list :=
    ((whole.alike alike).owns owns).unique numbered owned
  have held := reached.held.alike alike
  have added := reached.arriving.alike alike
  have chain := reached.scopes.alike alike
  have nested : world.Nested before.history before.machine.stack :=
    World.Nested.preserved.alike alike reached.nested
  have known : (world.realm realm).teardowns.pending key ≠ [] →
      world.Awaits before.machine.stack realm key := by
    rw [alike.realm]
    exact fun some => (settled some).alike alike
  rw [stack] at held added chain nested known
  rw [above]
  refine turn.awaits held.sound chain nested added unopened ?_ ?_ ?_ known pends
  · rintro keys inside rfl
    obtain ⟨beneath, below, away⟩ := last.not_haven insulated latest
    have pertinent := reached.pertinent.mono fun owns => owns.alike alike
    rw [below] at pertinent
    obtain ⟨container, further, rfl, owns⟩ := pertinent.1
    refine away ?_
    have same := only (owns key inside)
    exact same ▸ shielded
  · rintro container owns rfl
    obtain ⟨beneath, below, away⟩ := last.not_haven insulated latest
    exact away (only owns ▸ shielded)
  · rintro container owns released allotted rfl
    cases turn with
    | rekeyed isBorrowed =>
      have isFree := reached.free whole (only owns ▸ shielded : final.IsShielded container)
      rw [World.isBorrowed, alike.container] at isBorrowed
      cases isFree.symm.trans isBorrowed

/-- If no failure passes a shield, what pends for the keys of shielded lists is settled at every
moment before one at which the script has kept to the rules for keys. -/
theorem IsUnpierced.awaits (unpierced : moment.IsUnpierced) (leads : moment.Leads later)
    (respects : later.RespectsKeys) {realm : RealmRef} {key : Key}
    (sheltered : later.world.Shelters realm key)
    (pends : (moment.world.realm realm).teardowns.pending key ≠ []) :
    moment.world.Awaits moment.machine.stack realm key := by
  obtain ⟨tracing, recent, course⟩ := unpierced
  induction course with
  | refl =>
    have blank := World.field_start Realm.teardowns rfl tracing realm
    exact absurd (congrArg (·.pending key) blank) pends
  | @next _ before after _ earlier last _ fits ih =>
    have onward : before.Leads later := .head last leads
    have reached : before.IsReached := ⟨tracing, earlier.stretch.leads⟩
    have insulated := IsUnpierced.isInsulated ⟨tracing, _, earlier⟩ onward respects
    have numbered := (reached.leads onward).numbered
    have unopened : .opened .asked realm key ∉ before.history := fun asked =>
      respects.unopened realm key (onward.history_suffix.mem asked) sheltered
    exact last.awaits reached insulated leads.within numbered sheltered unopened (ih onward) pends

/-- When an action is over, what pends for a key of a shielded list waits for the element of the
key. -/
theorem IsUnpierced.present (unpierced : moment.IsUnpierced) (respects : moment.RespectsKeys)
    (finished : moment.machine.isFinished = true) {realm : RealmRef} {key : Key}
    {container : ContainerRef} (shielded : moment.world.IsShielded container)
    (owns : moment.world.Owns realm key container)
    (pends : (moment.world.realm realm).teardowns.pending key ≠ []) :
    key ∈ (moment.world.container container).keys.inUse := by
  have awaits := unpierced.awaits .refl respects ⟨container, owns, shielded⟩ pends
  rw [Machine.stack_eq_nil finished] at awaits
  cases awaits with
  | present others used => exact others.unique unpierced.isReached.numbered owns ▸ used
  | departing due => cases due
  | arriving due => cases due

end Moment

end Observables
