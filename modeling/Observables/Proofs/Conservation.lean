import Observables.Proofs.Numbering
import Mathlib.Data.List.Perm.Subperm
import Mathlib.Data.Set.Card
import Mathlib.Tactic.Abel

/-!
# Teardowns are neither lost nor doubled

A teardown that a realm accepts is bound to the innermost open key. It waits in
the table of the realm until its key is run; then it waits on the stack for
its turn, and it is called or dropped with a failure. The history keeps the
accounts of all this for each realm and key: what was accepted is what was
taken and what is pending, in that order, and what was taken was called,
dropped, or waits on the stack.
-/

namespace Observables

open Script

/-- As many keys are in a proper table as have pending teardowns. -/
theorem TeardownTable.Proper.tracked {α : Type} {table : TeardownTable α}
    (proper : table.Proper) : table.tracked = {key | table.pending key ≠ []}.ncard := by
  have keys : {key | table.pending key ≠ []} = ↑(table.entries.map (·.1)).toFinset := by
    ext key
    rw [Set.mem_ofPred_eq, ← proper.mem_iff, List.coe_toFinset, Set.mem_ofPred_eq]
  rw [keys, Set.ncard_coe_finset, List.toFinset_card_of_nodup proper.nodup, List.length_map]
  rfl

namespace Deed

/-- The teardown that a deed binds to a key of a realm. -/
def accepts (realm : RealmRef) (key : Key) : Deed → List Callback
  | .registered other (some active) teardown =>
    if other = realm ∧ active = key then [teardown] else []
  | _ => []

/-- The teardowns of a key of a realm that a deed takes to be run. -/
def takes (realm : RealmRef) (key : Key) : Deed → List Callback
  | .running _ other taken batch => if other = realm ∧ taken = key then batch else []
  | _ => []

/-- The teardown of a key of a realm that a deed calls. -/
def enters (realm : RealmRef) (key : Key) : Deed → List Callback
  | .tornDown other torn teardown => if other = realm ∧ torn = key then [teardown] else []
  | _ => []

/-- The teardowns of a key of a realm that a deed leaves uncalled because one of
them has failed. -/
def drops (realm : RealmRef) (key : Key) : Deed → List Callback
  | .abandoned (.teardown other torn waiting) =>
    if other = realm ∧ torn = key then waiting else []
  | _ => []

/-- A deed that leaves no run of teardowns drops none of them. -/
theorem drops_eq_nil {deed : Deed} {realm : RealmRef} {key : Key}
    (calm : ∀ waiting, deed ≠ .abandoned (.teardown realm key waiting)) :
    deed.drops realm key = [] := by
  unfold drops
  split
  · next other torn waiting =>
    split
    · next same =>
      obtain ⟨rfl, rfl⟩ := same
      exact absurd rfl (calm waiting)
    · rfl
  · rfl

end Deed

/-- The teardowns of a key of a realm that wait in a frame for their turn. -/
def Frame.waits (realm : RealmRef) (key : Key) : Frame → List Callback
  | .teardown other torn waiting => if other = realm ∧ torn = key then waiting else []
  | _ => []

/-- What the deeds of a history come to, in the order of time. -/
def recorded (account : Deed → List Callback) (history : List Deed) : List Callback :=
  history.reverse.flatMap account

/-- The latest deed comes last in the account. -/
theorem recorded_cons (account : Deed → List Callback) (deed : Deed) (history : List Deed) :
    recorded account (deed :: history) = recorded account history ++ account deed := by
  rw [recorded, List.reverse_cons, List.flatMap_append, List.flatMap_singleton]
  rfl

/-- In frames that can be dropped no teardown waits. -/
theorem Spent.waits {frames : List Frame} (spent : Spent frames) (realm : RealmRef) (key : Key) :
    frames.flatMap (Frame.waits realm key) = [] := by
  refine spent.flatMap_eq_nil fun frame dropped => ?_
  cases frame with
  | teardown other torn waiting =>
    cases waiting with
    | nil => simp [Frame.waits]
    | cons => cases dropped
  | _ => rfl

section

variable {world other : World} {rest taken put : List Frame} {deed : Deed}

/-- What a turn takes to be run, and what it finds waiting, it calls, drops, or
leaves waiting. -/
theorem Turn.waits (turn : Turn world rest taken deed other put) (realm : RealmRef) (key : Key) :
    deed.takes realm key ++ taken.flatMap (Frame.waits realm key) =
      deed.enters realm key ++ deed.drops realm key ++ put.flatMap (Frame.waits realm key) := by
  have plainly {frames : List Frame} (plain : Plain frames) :
      frames.flatMap (Frame.waits realm key) = [] := plain.spent.waits realm key
  have callee (body : List Action) (surface : Surface) (locals : Variables) :=
    plainly (plain_called body surface locals)
  have setter (body : List Action) (result : Expression) (surface : Surface)
      (locals : Variables) := plainly (plain_invoked body result surface locals)
  cases turn with
  | dropped spent =>
    simp only [Deed.takes, Deed.enters, Deed.drops, spent.waits, List.flatMap_nil,
      List.append_nil]
  | quiet spent plain | bound spent plain | refused spent plain | listMade spent plain
  | cellMade spent plain | realmOpened spent plain | drawn spent plain | subscribed spent plain
  | unsubscribed spent plain =>
    simp only [Deed.takes, Deed.enters, Deed.drops, plainly spent, plainly plain,
      List.append_nil]
  | opened spent plain | inserted spent plain | removed spent plain | setShielded spent plain
  | setBegun spent plain | ranAsked spent plain =>
    simp [Deed.takes, Deed.enters, Deed.drops, plainly spent, plainly plain, setter, Frame.waits]
  | settled | settledEmpty | dischargedEmpty | passed | notified | announced | closed
  | stored | replaced | rekeyed | told | released | ranSettled | ranDischarged =>
    simp [Deed.takes, Deed.enters, Deed.drops, callee, Frame.waits]
  | borrowed spent plain _ inner =>
    simp [Deed.takes, Deed.enters, Deed.drops, plainly spent, plainly plain, plainly inner,
      setter, Frame.waits]
  | tornDown =>
    simp only [Deed.takes, Deed.enters, Deed.drops, Frame.waits, List.flatMap_append, callee,
      List.flatMap_cons, List.flatMap_nil, List.append_nil, List.nil_append]
    split
    · rfl
    · rfl
  | @abandoned frame =>
    cases frame <;> simp [Deed.takes, Deed.enters, Deed.drops, Frame.waits]

/-- Binding a teardown puts it after those that are pending. -/
theorem Deed.pending_registered (table : TeardownTable Callback) (realm other : RealmRef)
    (key bound : Key) (teardown : Callback) :
    ((Deed.registered other (some bound) teardown).onTeardowns realm table).pending key =
      table.pending key ++ (Deed.registered other (some bound) teardown).accepts realm key := by
  by_cases here : realm = other
  · subst here
    simp only [onTeardowns, accepts, if_true, true_and, TeardownTable.pending_register]
    by_cases same : key = bound
    · subst same
      rw [if_pos rfl, if_pos rfl]
    · rw [if_neg same, if_neg (Ne.symm same), List.append_nil]
  · simp only [onTeardowns, accepts, if_neg here]
    rw [if_neg fun both => here both.1.symm, List.append_nil]

/-- A turn accepts and takes teardowns as the table of their realm shows. -/
theorem Turn.pending (turn : Turn world rest taken deed other put) (sound : world.Sound)
    (realm : RealmRef) (key : Key) :
    (world.realm realm).teardowns.pending key ++ deed.accepts realm key =
      deed.takes realm key ++ (other.realm realm).teardowns.pending key := by
  rw [turn.teardowns sound]
  have running (origin : Origin) (named : RealmRef) (run : Key) (batch : List Callback)
      (found : (world.realm named).teardowns.find? run = some batch) :
      (world.realm realm).teardowns.pending key =
        (Deed.running origin named run batch).takes realm key ++
          ((Deed.running origin named run batch).onTeardowns realm
            (world.realm realm).teardowns).pending key := by
    by_cases here : realm = named
    · subst here
      simp only [Deed.onTeardowns, Deed.takes, if_true, true_and, TeardownTable.pending_erase]
      by_cases same : key = run
      · subst same
        rw [if_pos rfl, if_pos rfl, TeardownTable.pending, found, Option.getD_some,
          List.append_nil]
      · rw [if_neg (Ne.symm same), if_neg same, List.nil_append]
    · simp only [Deed.onTeardowns, Deed.takes, if_neg here]
      rw [if_neg fun both => here both.1.symm, List.nil_append]
  cases turn with
  | bound => exact (Deed.pending_registered _ realm _ key _ _).symm
  | ranAsked _ _ found | ranSettled _ found | ranDischarged found =>
    exact (List.append_nil _).trans (running _ _ _ _ found)
  | _ => simp [Deed.accepts, Deed.takes, Deed.onTeardowns]

/-- A turn keeps the tables of teardowns proper. -/
theorem Turn.proper (turn : Turn world rest taken deed other put) (sound : world.Sound)
    {realm : RealmRef} (proper : (world.realm realm).teardowns.Proper) :
    (other.realm realm).teardowns.Proper := by
  rw [turn.teardowns sound]
  unfold Deed.onTeardowns
  split
  · split
    · exact proper.register _ _
    · exact proper
  · split
    · exact proper.erase _
    · exact proper
  · exact proper

end

/-- The accounts of all teardowns are in order. -/
structure World.Accounted (world : World) (stack : List Frame) (history : List Deed) : Prop where
  /-- The tables of the realms are proper. -/
  tables : ∀ realm, (world.realm realm).teardowns.Proper
  /-- What was accepted was taken, or is pending after it. -/
  accepted : ∀ realm key, recorded (Deed.accepts realm key) history =
    recorded (Deed.takes realm key) history ++ (world.realm realm).teardowns.pending key
  /-- What was taken was called or dropped, or waits on the stack. -/
  taken : ∀ realm key, (recorded (Deed.takes realm key) history).Perm
    (recorded (Deed.enters realm key) history ++ recorded (Deed.drops realm key) history ++
      stack.flatMap (Frame.waits realm key))

/-- What is called, dropped or left waiting was waiting before or is taken now. -/
theorem perm_of_moved {α : Type} {called dropped waited resting takes enters drops waits : List α}
    (moved : takes ++ waited = enters ++ drops ++ waits) :
    (called ++ dropped ++ (waited ++ resting) ++ takes).Perm
      (called ++ enters ++ (dropped ++ drops) ++ (waits ++ resting)) := by
  have same := congrArg (fun callbacks : List α => (callbacks : Multiset α)) moved
  rw [← Multiset.coe_eq_coe]
  simp only [← Multiset.coe_add] at same ⊢
  calc (called + dropped + (waited + resting) + takes : Multiset α)
      = called + dropped + resting + (takes + waited) := by abel
    _ = called + dropped + resting + (enters + drops + waits) := by rw [same]
    _ = called + enters + (dropped + drops) + (waits + resting) := by abel

namespace World.Accounted

variable {world other : World} {rest taken put : List Frame} {deed : Deed}
  {history : List Deed}

/-- Every turn keeps the accounts in order. -/
theorem turn (accounted : world.Accounted (taken ++ rest) history) (sound : world.Sound)
    (turn : Turn world rest taken deed other put) :
    other.Accounted (put ++ rest) (deed :: history) where
  tables realm := turn.proper sound (accounted.tables realm)
  accepted realm key := by
    rw [recorded_cons, recorded_cons, accounted.accepted, List.append_assoc,
      turn.pending sound, List.append_assoc]
  taken realm key := by
    rw [recorded_cons, recorded_cons, recorded_cons, List.flatMap_append]
    have before := accounted.taken realm key
    rw [List.flatMap_append] at before
    exact (before.append_right _).trans (perm_of_moved (turn.waits realm key))

/-- Alike worlds have the same accounts. -/
theorem alike {stack : List Frame} (accounted : world.Accounted stack history)
    (same : world.Alike other) : other.Accounted stack history := by
  refine ⟨fun realm => ?_, fun realm key => ?_, accounted.taken⟩
  · rw [same.realm]
    exact accounted.tables realm
  · rw [same.realm]
    exact accounted.accepted realm key

/-- The accounts are in order whenever a script runs. -/
theorem preserved : Preserved (fun world _ _ => world.Sound) World.Accounted where
  first tracing := by
    have blank (realm : RealmRef) : ((Session.start tracing).world.realm realm).teardowns = {} :=
      World.field_start Realm.teardowns rfl tracing realm
    refine ⟨fun realm => ?_, fun realm key => ?_, fun realm key => .refl _⟩
    · rw [blank]
      exact ⟨List.nodup_nil, fun entry inside => absurd inside List.not_mem_nil⟩
    · rw [blank]
      rfl
  alike same accounted := accounted.alike same
  turn sound accounted _ turn := accounted.turn sound turn

end World.Accounted

end Observables
