import Observables.Subscription.History
import Mathlib.Data.List.Basic
import Mathlib.Data.List.Induction

/-!
# Subscriptions that are silenced

A registry and the snapshots taken from it share their subscriptions, so whether
firing a snapshot calls one of them depends on all that was ordered before. This
module reads it off the commands. A subscription is known by the row in which it
was made and not by its number, for a number can be inserted again. A command
silences the subscription that is registered under the number that it
unsubscribes, or the one at the place of the snapshot that it switches off. No
other command silences anything; in particular an insertion does not silence the
subscription that it displaces, which old snapshots go on to call.
-/

namespace Observables

variable {α : Type}

/-- The command changes what is registered under a number. -/
def RegistryCommand.settles (id : Nat) : RegistryCommand α → Bool
  | .insert other _ | .unsubscribe other => other = id
  | _ => false

/-- The command keeps a snapshot under a name. -/
def RegistryCommand.keeps (name : String) : RegistryCommand α → Bool
  | .snapshot other | .single other _ _ => other = name
  | _ => false

/-- The numbers and callbacks of the subscriptions that a command makes. -/
def RegistryCommand.makes : RegistryCommand α → List (Nat × α)
  | .insert id callback | .single _ id callback => [(id, callback)]
  | _ => []

/-- A command makes one subscription at most. -/
theorem RegistryCommand.length_makes_le (command : RegistryCommand α) :
    command.makes.length ≤ 1 := by
  cases command <;> simp [makes]

/-- The latest of some commands that settles a matter fits, after those that were given
before it. -/
def Latest (settles : RegistryCommand α → Bool)
    (fits : List (RegistryCommand α) → RegistryCommand α → Prop)
    (commands : List (RegistryCommand α)) : Prop :=
  ∃ earlier command later, commands = earlier ++ command :: later ∧
    settles command = true ∧ fits earlier command ∧ ∀ other ∈ later, settles other = false

/-- One more command settles the matter itself or leaves it as it was. -/
theorem latest_concat {settles : RegistryCommand α → Bool}
    {fits : List (RegistryCommand α) → RegistryCommand α → Prop}
    (commands : List (RegistryCommand α)) (last : RegistryCommand α) :
    Latest settles fits (commands ++ [last]) ↔
      if settles last then fits commands last else Latest settles fits commands := by
  constructor
  · rintro ⟨earlier, command, later, split, settled, fit, silent⟩
    rcases List.eq_nil_or_concat later with rfl | ⟨later, final, rfl⟩
    · obtain ⟨rfl, same⟩ := List.append_inj' split rfl
      cases same
      rw [if_pos settled]
      exact fit
    · rw [List.concat_eq_append] at split silent
      rw [← List.cons_append, ← List.append_assoc] at split
      obtain ⟨rfl, same⟩ := List.append_inj' split rfl
      cases same
      rw [if_neg (by simp [silent last (by simp)])]
      exact ⟨earlier, command, later, rfl, settled, fit,
        fun other inside => silent other (by simp [inside])⟩
  · split
    · next settled => exact fun fit => ⟨commands, last, [], rfl, settled, fit, by simp⟩
    · next silent =>
      rintro ⟨earlier, command, later, rfl, settled, fit, others⟩
      refine ⟨earlier, command, later ++ [last], by simp, settled, fit, fun other inside => ?_⟩
      rcases List.mem_append.mp inside with before | latest
      · exact others other before
      · rw [List.mem_singleton.mp latest]
        simpa using silent

namespace RegistryHistory

/-- The history after commands, the first of which was given first. -/
def after (commands : List (RegistryCommand α)) : RegistryHistory α :=
  commands.foldl (fun history command => (history.perform command).2.2) {}

/-- The numbers and callbacks of the subscriptions that commands make, in the order of their
rows. -/
def made (commands : List (RegistryCommand α)) : List (Nat × α) :=
  commands.flatMap RegistryCommand.makes

/-- The numbers of subscriptions that commands make. -/
def numbers (commands : List (RegistryCommand α)) (subscriptions : List SubscriptionRef) :
    List Nat :=
  subscriptions.filterMap fun subscription => (made commands)[subscription]?.map (·.1)

/-- The subscriptions that a command switches off. -/
def silences (history : RegistryHistory α) : RegistryCommand α → List SubscriptionRef
  | .unsubscribe id => (history.board.registry.find? id).toList
  | .deactivate name index => ((history.snapshots.find? name).bind (·[index]?)).toList
  | _ => []

/-- The subscriptions that commands to a history switch off, in the order in which they do
so. -/
def silenced : RegistryHistory α → List (RegistryCommand α) → List SubscriptionRef
  | _, [] => []
  | history, command :: commands =>
    history.silences command ++ (history.perform command).2.2.silenced commands

/-- Commands have registered the subscription under the number: it was inserted under it, and
the number was neither inserted again nor unsubscribed since. -/
def Registers (id : Nat) (subscription : SubscriptionRef) :
    List (RegistryCommand α) → Prop :=
  Latest (RegistryCommand.settles id) fun earlier command =>
    ∃ callback, command = .insert id callback ∧ subscription = (made earlier).length

/-- Commands have kept the subscriptions as a snapshot under the name: all that were
registered, or a single one that was made for it. -/
def Keeps (name : String) (subscriptions : List SubscriptionRef) :
    List (RegistryCommand α) → Prop :=
  Latest (RegistryCommand.keeps name) fun earlier command =>
    command = .snapshot name ∧ subscriptions = (after earlier).board.registry.snapshot ∨
    ∃ id callback, command = .single name id callback ∧ subscriptions = [(made earlier).length]

/-- The commands after which one more is given. -/
theorem after_concat (commands : List (RegistryCommand α)) (last : RegistryCommand α) :
    after (commands ++ [last]) = ((after commands).perform last).2.2 := by
  rw [after, List.foldl_append]
  rfl

/-- Later commands make later subscriptions. -/
theorem getElem?_made_append {commands : List (RegistryCommand α)}
    (later : List (RegistryCommand α)) {subscription : SubscriptionRef}
    (old : subscription < (made commands).length) :
    (made (commands ++ later))[subscription]? = (made commands)[subscription]? := by
  rw [made, List.flatMap_append]
  exact List.getElem?_append_left old

/-- Later commands leave the numbers of subscriptions alone. -/
theorem numbers_append {commands : List (RegistryCommand α)}
    (later : List (RegistryCommand α)) {subscriptions : List SubscriptionRef}
    (old : ∀ subscription ∈ subscriptions, subscription < (made commands).length) :
    numbers (commands ++ later) subscriptions = numbers commands subscriptions :=
  List.filterMap_congr fun subscription inside => by
    rw [getElem?_made_append later (old subscription inside)]

/-- One more command makes its subscription last. -/
theorem made_concat (commands : List (RegistryCommand α)) (last : RegistryCommand α) :
    made (commands ++ [last]) = made commands ++ last.makes := by
  rw [made, List.flatMap_append, List.flatMap_singleton]
  rfl

/-- One more command silences what it switches off at its turn. -/
theorem silenced_append (history : RegistryHistory α) (commands : List (RegistryCommand α))
    (last : RegistryCommand α) :
    history.silenced (commands ++ [last]) = history.silenced commands ++
      (commands.foldl (fun history command => (history.perform command).2.2) history).silences
        last := by
  induction commands generalizing history with
  | nil => simp [silenced]
  | cons command commands ih => simp [silenced, ih]

/-- The latest command silences what it switches off after those before it. -/
theorem silenced_concat (commands : List (RegistryCommand α)) (last : RegistryCommand α) :
    silenced {} (commands ++ [last]) = silenced {} commands ++ (after commands).silences last :=
  silenced_append {} commands last

/-- What commands silence is switched off by one of them. -/
theorem mem_silenced {commands : List (RegistryCommand α)} {subscription : SubscriptionRef} :
    subscription ∈ silenced {} commands ↔ ∃ earlier command later,
      commands = earlier ++ command :: later ∧
        subscription ∈ (after earlier).silences command := by
  induction commands using List.reverseRecOn with
  | nil => simp [silenced]
  | append_singleton commands last ih =>
    rw [silenced_concat, List.mem_append, ih]
    constructor
    · rintro (⟨earlier, command, later, rfl, switched⟩ | switched)
      · exact ⟨earlier, command, later ++ [last], by simp, switched⟩
      · exact ⟨commands, last, [], rfl, switched⟩
    · rintro ⟨earlier, command, later, split, switched⟩
      rcases List.eq_nil_or_concat later with rfl | ⟨later, final, rfl⟩
      · obtain ⟨rfl, same⟩ := List.append_inj' split rfl
        cases same
        exact .inr switched
      · rw [List.concat_eq_append, ← List.cons_append, ← List.append_assoc] at split
        obtain ⟨rfl, same⟩ := List.append_inj' split rfl
        exact .inl ⟨earlier, command, later, rfl, switched⟩

/-- What is registered under a number after one more command. -/
theorem find?_perform (history : RegistryHistory α) (command : RegistryCommand α) (id : Nat) :
    (history.perform command).2.2.board.registry.find? id =
      match command with
      | .insert other _ => if id = other then some history.board.subscriptions.size
          else history.board.registry.find? id
      | .unsubscribe other => if id = other then none else history.board.registry.find? id
      | _ => history.board.registry.find? id := by
  cases command with
  | insert other callback => exact Registry.find?_insert _ _ _ _
  | unsubscribe other =>
    simp only [perform, Switchboard.unsubscribe]
    cases found : history.board.registry.find? other with
    | none =>
      by_cases same : id = other
      · rw [if_pos same, same]
        exact found
      · rw [if_neg same]
    | some subscription => exact Registry.find?_erase _ _ _
  | deactivate name index =>
    simp only [perform]
    split <;> rfl
  | active name =>
    simp only [perform]
    split <;> rfl
  | _ => rfl

/-- What is registered after one more command was registered before or is inserted by it. -/
theorem mem_entries_perform {history : RegistryHistory α} {command : RegistryCommand α}
    {entry : Registration}
    (inside : entry ∈ (history.perform command).2.2.board.registry.entries) :
    entry ∈ history.board.registry.entries ∨
      ∃ callback, command = .insert entry.id callback ∧
        entry.subscription = history.board.subscriptions.size := by
  cases command with
  | insert id callback =>
    rcases Registry.mem_of_mem_place inside with rfl | before
    · exact .inr ⟨callback, rfl, rfl⟩
    · exact .inl before
  | unsubscribe id =>
    simp only [perform, Switchboard.unsubscribe] at inside
    cases found : history.board.registry.find? id with
    | none => exact .inl (by simpa [found] using inside)
    | some subscription =>
      rw [found] at inside
      exact .inl (List.mem_filter.mp inside).1
  | deactivate name index =>
    simp only [perform] at inside
    split at inside
    · exact .inl inside
    · exact .inl inside
  | active name =>
    simp only [perform] at inside
    split at inside
    · exact .inl inside
    · exact .inl inside
  | _ => exact .inl inside

/-- What is kept under a name after one more command. -/
theorem snapshots_perform (history : RegistryHistory α) (command : RegistryCommand α)
    (name : String) :
    (history.perform command).2.2.snapshots.find? name =
      match command with
      | .snapshot other => if name = other then some history.board.registry.snapshot
          else history.snapshots.find? name
      | .single other _ _ => if name = other then some [history.board.subscriptions.size]
          else history.snapshots.find? name
      | _ => history.snapshots.find? name := by
  cases command with
  | snapshot other => exact Directory.find?_insert _ _ _ _
  | single other id callback => exact Directory.find?_insert _ _ _ _
  | deactivate other index =>
    simp only [perform]
    split <;> rfl
  | active other =>
    simp only [perform]
    split <;> rfl
  | _ => rfl

/-- One more command adds the subscriptions that it makes. -/
theorem size_perform (history : RegistryHistory α) (command : RegistryCommand α) :
    (history.perform command).2.2.board.subscriptions.size =
      history.board.subscriptions.size + command.makes.length := by
  cases command with
  | insert id callback | single name id callback => exact Table.size_add _ _
  | unsubscribe id =>
    simp only [perform, Switchboard.unsubscribe]
    cases history.board.registry.find? id with
    | none => rfl
    | some subscription => exact Table.size_modify _ _ _
  | deactivate name index =>
    simp only [perform]
    split
    · rfl
    · exact Table.size_modify _ _ _
  | active name =>
    simp only [perform]
    split <;> rfl
  | snapshot name | fire name => rfl

/-- The numbers in use after one more command are in ascending order if they were before. -/
theorem ascending_perform {history : RegistryHistory α}
    (ascending : history.board.registry.ids.Pairwise (· < ·)) (command : RegistryCommand α) :
    (history.perform command).2.2.board.registry.ids.Pairwise (· < ·) := by
  cases command with
  | insert id callback => exact Registry.ascending_insert ascending _ _
  | unsubscribe id =>
    simp only [perform, Switchboard.unsubscribe]
    cases history.board.registry.find? id with
    | none => exact ascending
    | some subscription => exact Registry.ascending_erase ascending id
  | deactivate name index =>
    simp only [perform]
    split
    · exact ascending
    · exact ascending
  | active name =>
    simp only [perform]
    split
    · exact ascending
    · exact ascending
  | _ => exact ascending

/-- A subscription after one more command: one that the command makes is switched on, and one
that it silences is switched off. -/
theorem subscriptions_perform (history : RegistryHistory α) (command : RegistryCommand α)
    (subscription : SubscriptionRef) :
    (history.perform command).2.2.board.subscriptions.get? subscription =
      if subscription = history.board.subscriptions.size ∧ command.makes ≠ [] then
        command.makes.head?.map fun new => ⟨new.1, new.2, true⟩
      else if subscription ∈ history.silences command then
        (history.board.subscriptions.get? subscription).map Subscription.deactivate
      else history.board.subscriptions.get? subscription := by
  cases command with
  | insert id callback | single name id callback =>
    simp only [RegistryCommand.makes, silences, ne_eq, List.cons_ne_nil, not_false_eq_true,
      and_true, List.not_mem_nil, if_false]
    exact Table.get?_add _ _ _
  | unsubscribe id =>
    rw [if_neg (by simp [RegistryCommand.makes])]
    cases found : history.board.registry.find? id with
    | none => simp [perform, Switchboard.unsubscribe, silences, found]
    | some target =>
      have row := Table.get?_modify history.board.subscriptions target subscription
        Subscription.deactivate
      simpa [perform, Switchboard.unsubscribe, Switchboard.deactivate, silences, found,
        eq_comm (a := target)] using row
  | deactivate name index =>
    rw [if_neg (by simp [RegistryCommand.makes])]
    cases found : (history.snapshots.find? name).bind (·[index]?) with
    | none => simp [perform, silences, found]
    | some target =>
      have row := Table.get?_modify history.board.subscriptions target subscription
        Subscription.deactivate
      simpa [perform, Switchboard.deactivate, silences, found, eq_comm (a := target)] using row
  | active name =>
    simp only [perform, RegistryCommand.makes, silences]
    split <;> simp
  | snapshot name | fire name => simp [perform, RegistryCommand.makes, silences]

end RegistryHistory

open RegistryHistory

/-- A history is what its commands say. -/
structure Recorded (commands : List (RegistryCommand α)) (history : RegistryHistory α) :
    Prop where
  /-- Subscriptions have the rows in the order in which they were made. -/
  size : history.board.subscriptions.size = (made commands).length
  /-- What was silenced is switched off, and nothing else. -/
  subscriptions : ∀ subscription, history.board.subscriptions.get? subscription =
    (made commands)[subscription]?.map fun new =>
      ⟨new.1, new.2, decide (subscription ∉ silenced {} commands)⟩
  /-- The numbers in use ascend. -/
  ascending : history.board.registry.ids.Pairwise (· < ·)
  /-- A subscription is registered under its own number. -/
  registered : ∀ entry ∈ history.board.registry.entries, ∃ callback,
    (made commands)[entry.subscription]? = some (entry.id, callback)
  /-- Snapshots hold subscriptions that were made, in ascending order of their numbers. -/
  snapshots : ∀ name rows, history.snapshots.find? name = some rows →
    (∀ subscription ∈ rows, subscription < (made commands).length) ∧
      (numbers commands rows).Pairwise (· < ·)
  /-- Only what was made is silenced. -/
  below : ∀ subscription ∈ silenced {} commands, subscription < (made commands).length

namespace Recorded

variable {commands : List (RegistryCommand α)} {history : RegistryHistory α}

/-- What is registered was made. -/
theorem made_of_find? (recorded : Recorded commands history) {id : Nat}
    {subscription : SubscriptionRef}
    (found : history.board.registry.find? id = some subscription) :
    ∃ callback, (made commands)[subscription]? = some (id, callback) := by
  obtain ⟨entry, first, rfl⟩ := Option.map_eq_some_iff.mp found
  obtain ⟨callback, there⟩ := recorded.registered entry (List.mem_of_find?_eq_some first)
  have number : entry.id = id := by simpa using List.find?_some first
  exact ⟨callback, number ▸ there⟩

/-- A snapshot lists the numbers in use. -/
theorem numbers_snapshot (recorded : Recorded commands history) :
    numbers commands history.board.registry.snapshot = history.board.registry.ids := by
  have numbered (entries : List Registration)
      (all : ∀ entry ∈ entries, ∃ callback,
        (made commands)[entry.subscription]? = some (entry.id, callback)) :
      numbers commands (entries.map (·.subscription)) = entries.map (·.id) := by
    induction entries with
    | nil => rfl
    | cons entry entries ih =>
      obtain ⟨callback, first⟩ := all entry List.mem_cons_self
      have others := ih fun other inside => all other (List.mem_cons_of_mem _ inside)
      rw [numbers] at others ⊢
      simp [first, others]
  exact numbered _ recorded.registered

/-- What a command silences was made. -/
theorem lt_of_mem_silences (recorded : Recorded commands history)
    {command : RegistryCommand α} {subscription : SubscriptionRef}
    (switched : subscription ∈ history.silences command) :
    subscription < (made commands).length := by
  cases command with
  | unsubscribe id =>
    rw [silences, Option.mem_toList] at switched
    obtain ⟨callback, there⟩ := recorded.made_of_find? switched
    exact (List.getElem?_eq_some_iff.mp there).1
  | deactivate name index =>
    rw [silences, Option.mem_toList] at switched
    obtain ⟨rows, kept, at_index⟩ := Option.bind_eq_some_iff.mp switched
    exact (recorded.snapshots name rows kept).1 subscription
      (List.mem_of_getElem? at_index)
  | _ => simp [silences] at switched

/-- After one more command the subscriptions are those that were made, switched off where they
were silenced. -/
theorem subscriptions_concat (recorded : Recorded commands history) {last : RegistryCommand α}
    (silent : silenced {} (commands ++ [last]) = silenced {} commands ++ history.silences last)
    (subscription : SubscriptionRef) :
    (history.perform last).2.2.board.subscriptions.get? subscription =
      (made (commands ++ [last]))[subscription]?.map fun new =>
        ⟨new.1, new.2, decide (subscription ∉ silenced {} (commands ++ [last]))⟩ := by
  rw [subscriptions_perform, made_concat, silent, recorded.size]
  split
  · next new =>
    obtain ⟨rfl, makes⟩ := new
    have unsilenced :
        (made commands).length ∉ silenced {} commands ++ history.silences last := by
      rw [List.mem_append]
      rintro (before | switched)
      · exact Nat.lt_irrefl _ (recorded.below _ before)
      · exact Nat.lt_irrefl _ (recorded.lt_of_mem_silences switched)
    rw [List.getElem?_append_right (Nat.le_refl _), Nat.sub_self, List.head?_eq_getElem?,
      decide_eq_true unsilenced]
  · next old =>
    have same : (made commands ++ last.makes)[subscription]? =
        (made commands)[subscription]? := by
      rcases Nat.lt_trichotomy subscription (made commands).length with inside | rfl | beyond
      · exact List.getElem?_append_left inside
      · have nothing : last.makes = [] := by simpa using old
        rw [nothing, List.append_nil]
      · have single := last.length_makes_le
        rw [List.getElem?_eq_none (by rw [List.length_append]; omega),
          List.getElem?_eq_none (Nat.le_of_lt beyond)]
    rw [same, recorded.subscriptions subscription]
    split
    · next switched => simp [switched, Subscription.deactivate, Function.comp_def]
    · next spared => simp [spared]

/-- After one more command every snapshot holds subscriptions that were made, in ascending order
of their numbers. -/
theorem snapshots_concat (recorded : Recorded commands history) (last : RegistryCommand α)
    {name : String} {rows : List SubscriptionRef}
    (kept : (history.perform last).2.2.snapshots.find? name = some rows) :
    (∀ subscription ∈ rows, subscription < (made (commands ++ [last])).length) ∧
      (numbers (commands ++ [last]) rows).Pairwise (· < ·) := by
  have earlier (other : List SubscriptionRef)
      (before : (∀ subscription ∈ other, subscription < (made commands).length) ∧
        (numbers commands other).Pairwise (· < ·)) :
      (∀ subscription ∈ other, subscription < (made (commands ++ [last])).length) ∧
        (numbers (commands ++ [last]) other).Pairwise (· < ·) := by
    refine ⟨fun subscription inside => ?_, ?_⟩
    · rw [made_concat, List.length_append]
      exact Nat.lt_add_right _ (before.1 subscription inside)
    · rw [numbers_append _ before.1]
      exact before.2
  rw [snapshots_perform] at kept
  split at kept
  · next other =>
    split at kept
    · cases kept
      refine earlier _ ⟨fun subscription inside => ?_, ?_⟩
      · obtain ⟨entry, there, rfl⟩ := List.mem_map.mp inside
        obtain ⟨callback, row⟩ := recorded.registered entry there
        exact (List.getElem?_eq_some_iff.mp row).1
      · rw [recorded.numbers_snapshot]
        exact recorded.ascending
    · exact earlier rows (recorded.snapshots name rows kept)
  · next other id callback =>
    split at kept
    · cases kept
      refine ⟨fun subscription inside => ?_, ?_⟩
      · rw [List.mem_singleton.mp inside, recorded.size, made_concat]
        simp [RegistryCommand.makes]
      · simp [numbers, recorded.size, made_concat, RegistryCommand.makes]
    · exact earlier rows (recorded.snapshots name rows kept)
  · exact earlier rows (recorded.snapshots name rows kept)

/-- A history is still what its commands say after one more of them. -/
theorem concat (recorded : Recorded commands history) (last : RegistryCommand α)
    (silent : silenced {} (commands ++ [last]) = silenced {} commands ++ history.silences last) :
    Recorded (commands ++ [last]) (history.perform last).2.2 where
  size := by
    rw [size_perform, made_concat, List.length_append, recorded.size]
  subscriptions := recorded.subscriptions_concat silent
  ascending := ascending_perform recorded.ascending last
  registered entry inside := by
    rcases mem_entries_perform inside with before | ⟨callback, rfl, row⟩
    · obtain ⟨callback, there⟩ := recorded.registered entry before
      have old := (List.getElem?_eq_some_iff.mp there).1
      exact ⟨callback, (getElem?_made_append _ old).trans there⟩
    · refine ⟨callback, ?_⟩
      rw [row, recorded.size, made_concat, RegistryCommand.makes]
      exact List.getElem?_concat_length
  snapshots name rows kept := recorded.snapshots_concat last kept
  below := by
    rw [silent, made_concat, List.length_append]
    intro subscription switched
    refine Nat.lt_add_right _ ?_
    rcases List.mem_append.mp switched with before | latest
    · exact recorded.below subscription before
    · exact recorded.lt_of_mem_silences latest

end Recorded

/-- Every history is what its commands say. -/
theorem RegistryHistory.recorded_after (commands : List (RegistryCommand α)) :
    Recorded commands (after commands) := by
  induction commands using List.reverseRecOn with
  | nil =>
    exact {
      size := rfl
      subscriptions := fun _ => rfl
      ascending := List.Pairwise.nil
      registered := by simp [after]
      snapshots := by simp [after, Directory.find?]
      below := by simp [silenced] }
  | append_singleton commands last ih =>
    rw [after_concat]
    exact ih.concat last (silenced_concat commands last)

namespace RegistryHistory

/-- What is found in a history is what the latest command has given that settles the matter, if
nothing is found at first and other commands leave it alone. -/
theorem found_after_iff {β : Type} (find : RegistryHistory α → Option β)
    (settles : RegistryCommand α → Bool)
    (fits : β → List (RegistryCommand α) → RegistryCommand α → Prop) (first : find {} = none)
    (given : ∀ commands last, settles last = true → ∀ found,
      find ((after commands).perform last).2.2 = some found ↔ fits found commands last)
    (kept : ∀ commands last, settles last = false →
      find ((after commands).perform last).2.2 = find (after commands))
    (commands : List (RegistryCommand α)) (found : β) :
    find (after commands) = some found ↔ Latest settles (fits found) commands := by
  induction commands using List.reverseRecOn with
  | nil => simp [after, first, Latest]
  | append_singleton commands last ih =>
    rw [after_concat, latest_concat]
    split
    · next settled => exact given commands last settled found
    · next silent =>
      rw [kept commands last (by simpa using silent)]
      exact ih

/-- The subscription found under a number is the one that commands have registered there. -/
theorem find?_after (commands : List (RegistryCommand α)) (id : Nat)
    (subscription : SubscriptionRef) :
    (after commands).board.registry.find? id = some subscription ↔
      Registers id subscription commands := by
  refine found_after_iff (·.board.registry.find? id) (RegistryCommand.settles id)
    (fun subscription earlier command =>
      ∃ callback, command = .insert id callback ∧ subscription = (made earlier).length)
    rfl (fun commands last settled subscription => ?_) (fun commands last silent => ?_)
    commands subscription
  · simp only [find?_perform]
    cases last with
    | insert other callback | unsubscribe other =>
      have same : other = id := by simpa [RegistryCommand.settles] using settled
      simp [same, (recorded_after commands).size, eq_comm (b := subscription)]
    | _ => cases settled
  · simp only [find?_perform]
    cases last with
    | insert other callback | unsubscribe other =>
      exact if_neg (by simpa [RegistryCommand.settles, eq_comm] using silent)
    | _ => rfl

/-- The snapshot found under a name is the one that commands have kept there. -/
theorem snapshots_after (commands : List (RegistryCommand α)) (name : String)
    (subscriptions : List SubscriptionRef) :
    (after commands).snapshots.find? name = some subscriptions ↔
      Keeps name subscriptions commands := by
  refine found_after_iff (·.snapshots.find? name) (RegistryCommand.keeps name)
    (fun subscriptions earlier command =>
      command = .snapshot name ∧ subscriptions = (after earlier).board.registry.snapshot ∨
      ∃ id callback, command = .single name id callback ∧
        subscriptions = [(made earlier).length])
    rfl (fun commands last settled subscriptions => ?_) (fun commands last silent => ?_)
    commands subscriptions
  · simp only [snapshots_perform]
    cases last with
    | snapshot other | single other id callback =>
      have same : other = name := by simpa [RegistryCommand.keeps] using settled
      simp [same, (recorded_after commands).size, eq_comm (b := subscriptions)]
    | _ => cases settled
  · simp only [snapshots_perform]
    cases last with
    | snapshot other | single other id callback =>
      exact if_neg (by simpa [RegistryCommand.keeps, eq_comm] using silent)
    | _ => rfl

/-- Unsubscribing succeeds exactly on a number in use. -/
theorem answer_unsubscribe (history : RegistryHistory α) (id : Nat) :
    (history.perform (.unsubscribe id)).1 = .flag (decide (id ∈ history.board.registry.ids)) := by
  have found := history.board.unsubscribe_fst id
  have present : (history.board.registry.find? id).isSome =
      decide (id ∈ history.board.registry.ids) := by
    rw [Bool.eq_iff_iff, Option.isSome_iff_exists, decide_eq_true_iff, Registry.mem_ids]
  exact congrArg RegistryAnswer.flag (found.trans present)

/-- A number is in use if it was inserted after it was last unsubscribed with success. -/
theorem mem_ids_after (commands : List (RegistryCommand α)) (id : Nat) :
    id ∈ (after commands).board.registry.ids ↔ ∃ earlier callback later,
      commands = earlier ++ .insert id callback :: later ∧
        ∀ between rest, later = between ++ .unsubscribe id :: rest →
          ((after (earlier ++ .insert id callback :: between)).perform (.unsubscribe id)).1 ≠
            .flag true := by
  rw [Registry.mem_ids]
  constructor
  · rintro ⟨subscription, found⟩
    obtain ⟨earlier, _, later, split, _, ⟨callback, rfl, _⟩, silent⟩ :=
      (find?_after commands id subscription).mp found
    refine ⟨earlier, callback, later, split, fun between rest unsubscribed => ?_⟩
    have settled := silent (.unsubscribe id) (by simp [unsubscribed])
    simp [RegistryCommand.settles] at settled
  · rintro ⟨earlier, callback, later, rfl, failed⟩
    induction later using List.reverseRecOn with
    | nil => exact ⟨_, by rw [after_concat, find?_perform]; exact if_pos rfl⟩
    | append_singleton later last ih =>
      have before := ih fun between rest split =>
        failed between (rest ++ [last]) (by rw [split]; simp)
      rw [← List.cons_append, ← List.append_assoc, after_concat, find?_perform]
      split
      · next other _ =>
        split
        · exact ⟨_, rfl⟩
        · exact before
      · next other =>
        split
        · next same =>
          subst same
          refine absurd ?_ (failed later [] rfl)
          rw [answer_unsubscribe, decide_eq_true ((Registry.mem_ids _ _).mpr before)]
        · exact before
      · exact before

/-- What commands silence was registered under a number that one of them unsubscribed, or
stood at a place of a snapshot that one of them switched off. -/
theorem mem_silenced_iff (commands : List (RegistryCommand α))
    (subscription : SubscriptionRef) :
    subscription ∈ silenced {} commands ↔
      (∃ earlier id later, commands = earlier ++ .unsubscribe id :: later ∧
        Registers id subscription earlier) ∨
      (∃ earlier name index later subscriptions,
        commands = earlier ++ .deactivate name index :: later ∧
          Keeps name subscriptions earlier ∧ subscriptions[index]? = some subscription) := by
  rw [mem_silenced]
  constructor
  · rintro ⟨earlier, command, later, split, switched⟩
    cases command with
    | unsubscribe id =>
      rw [silences, Option.mem_toList] at switched
      exact .inl ⟨earlier, id, later, split, (find?_after earlier id subscription).mp switched⟩
    | deactivate name index =>
      rw [silences, Option.mem_toList] at switched
      obtain ⟨subscriptions, kept, inside⟩ := Option.bind_eq_some_iff.mp switched
      exact .inr ⟨earlier, name, index, later, subscriptions, split,
        (snapshots_after earlier name subscriptions).mp kept, inside⟩
    | _ => simp [silences] at switched
  · rintro (⟨earlier, id, later, split, registered⟩ |
      ⟨earlier, name, index, later, subscriptions, split, kept, inside⟩)
    · refine ⟨earlier, .unsubscribe id, later, split, ?_⟩
      rw [silences, (find?_after earlier id subscription).mpr registered]
      exact List.mem_singleton_self _
    · refine ⟨earlier, .deactivate name index, later, split, ?_⟩
      rw [silences, (snapshots_after earlier name subscriptions).mpr kept, Option.bind_some,
        inside]
      exact List.mem_singleton_self _

/-- Firing a snapshot calls, in its order, what is not silenced. -/
theorem called_after (commands : List (RegistryCommand α)) (name : String) :
    ((after commands).perform (.fire name)).2.1 =
      ((((after commands).snapshots.find? name).getD []).filter
        (· ∉ silenced {} commands)).filterMap fun subscription =>
          (made commands)[subscription]?.map (·.2) := by
  rw [List.filterMap_filter]
  refine List.filterMap_congr fun subscription _ => ?_
  rw [Switchboard.callback?, (recorded_after commands).subscriptions]
  cases (made commands)[subscription]? with
  | none => simp
  | some new =>
    by_cases switched : subscription ∈ silenced {} commands
    · simp [switched, Subscription.callback?]
    · simp [switched, Subscription.callback?]

/-- The answers and calls of a registry and of its snapshots follow from the commands that were
given before. -/
structure Follows (commands : List (RegistryCommand α)) (history : RegistryHistory α) :
    Prop where
  /-- The numbers in use ascend. -/
  ascending : history.board.registry.ids.Pairwise (· < ·)
  /-- They are those that were inserted after they were last unsubscribed with success. -/
  inUse : ∀ id, id ∈ history.board.registry.ids ↔ ∃ earlier callback later,
    commands = earlier ++ .insert id callback :: later ∧
      ∀ between rest, later = between ++ .unsubscribe id :: rest →
        ((after (earlier ++ .insert id callback :: between)).perform (.unsubscribe id)).1 ≠
          .flag true
  /-- Unsubscribing answers whether the number is in use. -/
  answer : ∀ id, (history.perform (.unsubscribe id)).1 =
    .flag (decide (id ∈ history.board.registry.ids))
  /-- Under a number the subscription is registered that was inserted last. -/
  registered : ∀ id subscription, history.board.registry.find? id = some subscription ↔
    Registers id subscription commands
  /-- A snapshot holds what was registered when it was taken. -/
  kept : ∀ name subscriptions, history.snapshots.find? name = some subscriptions ↔
    Keeps name subscriptions commands
  /-- It holds subscriptions that were made, in ascending order of their numbers. -/
  numbered : ∀ name subscriptions, Keeps name subscriptions commands →
    (∀ subscription ∈ subscriptions, subscription < (made commands).length) ∧
      (numbers commands subscriptions).Pairwise (· < ·)
  /-- Firing it calls, in its order, those that are not silenced. -/
  fired : ∀ name, (history.perform (.fire name)).2.1 =
    (((history.snapshots.find? name).getD []).filter (· ∉ silenced {} commands)).filterMap
      fun subscription => (made commands)[subscription]?.map (·.2)
  /-- Silenced is what was registered under a number that was unsubscribed, or stood at a
  place of a snapshot that was switched off. -/
  silent : ∀ subscription, subscription ∈ silenced {} commands ↔
    (∃ earlier id later, commands = earlier ++ .unsubscribe id :: later ∧
      Registers id subscription earlier) ∨
    (∃ earlier name index later subscriptions,
      commands = earlier ++ .deactivate name index :: later ∧
        Keeps name subscriptions earlier ∧ subscriptions[index]? = some subscription)
  /-- An insertion does not silence what it displaces, and unsubscribing the number later
  silences the new subscription and not the displaced one. -/
  displaced : ∀ id old callback between, history.board.registry.find? id = some old →
    (∀ command ∈ between, command.settles id = false) →
    silenced {} (commands ++ [.insert id callback]) = silenced {} commands ∧
      silenced {} (commands ++ .insert id callback :: between ++ [.unsubscribe id]) =
        silenced {} (commands ++ .insert id callback :: between) ++ [(made commands).length] ∧
      old ≠ (made commands).length

/-- Whatever commands are given to a registry, its numbers ascend and are those inserted since
they were last unsubscribed, and a snapshot calls, in ascending order, those of its
subscriptions that were neither switched off nor unsubscribed while they were registered. -/
theorem snapshots_call_who_is_not_silenced (commands : List (RegistryCommand α)) :
    Follows commands (after commands) where
  ascending := (recorded_after commands).ascending
  inUse := mem_ids_after commands
  answer := answer_unsubscribe (after commands)
  registered := find?_after commands
  kept := snapshots_after commands
  numbered name subscriptions kept :=
    (recorded_after commands).snapshots name subscriptions
      ((snapshots_after commands name subscriptions).mpr kept)
  fired := called_after commands
  silent := mem_silenced_iff commands
  displaced id old callback between found apart := by
    have inserted : Registers id (made commands).length
        (commands ++ .insert id callback :: between) :=
      ⟨commands, .insert id callback, between, rfl, by simp [RegistryCommand.settles],
        ⟨callback, rfl, rfl⟩, apart⟩
    obtain ⟨_, there⟩ := (recorded_after commands).made_of_find? found
    refine ⟨?_, ?_, Nat.ne_of_lt (List.getElem?_eq_some_iff.mp there).1⟩
    · exact (silenced_concat commands _).trans (List.append_nil _)
    · rw [silenced_concat, silences, (find?_after _ _ _).mpr inserted]
      rfl

/-- Unsubscribing a number that was inserted twice leaves the first subscription to the
snapshots that hold it. -/
example :
    let history : RegistryHistory Nat := after [.insert 1 10, .snapshot "old", .insert 1 20,
      .snapshot "new", .unsubscribe 1]
    (history.perform (.fire "old")).2.1 = [10] ∧ (history.perform (.fire "new")).2.1 = [] :=
  ⟨rfl, rfl⟩

end RegistryHistory

end Observables
