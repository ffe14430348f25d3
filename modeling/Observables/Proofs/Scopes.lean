import Observables.Proofs.Numbering

/-!
# Open keys

A key is open exactly as long as its frame is on the stack. The chain of
realms that have been entered, and the open keys of every realm, can be read
off the stack from the innermost frame out.
-/

namespace Observables

open Script

/-- The realm in which a frame keeps a key open. -/
def Frame.enters : Frame → List RealmRef
  | .scope realm _ => [realm]
  | _ => []

/-- The key that a frame keeps open in a realm. -/
def Frame.opens (realm : RealmRef) : Frame → List Key
  | .scope other key => if realm = other then [key] else []
  | _ => []

/-- What a deed does to the chain of entered realms. -/
def Deed.onEntered : Deed → List RealmRef → List RealmRef
  | .opened _ realm _, entered => realm :: entered
  | .closed _, entered => entered.tail
  | _, entered => entered

/-- No frame that can be dropped keeps a key open. -/
theorem Spent.enters {frames : List Frame} (spent : Spent frames) :
    frames.flatMap Frame.enters = [] := by
  refine spent.flatMap_eq_nil fun frame dropped => ?_
  cases frame with
  | scope => cases dropped
  | _ => rfl

/-- No frame that can be dropped keeps a key of a realm open. -/
theorem Spent.opens {frames : List Frame} (spent : Spent frames) (realm : RealmRef) :
    frames.flatMap (Frame.opens realm) = [] := by
  refine spent.flatMap_eq_nil fun frame dropped => ?_
  cases frame with
  | scope => cases dropped
  | _ => rfl

section

variable {world other : World} {rest taken put : List Frame} {deed : Deed}

/-- A turn changes the chain of entered realms as its deed says. -/
theorem Turn.entered (turn : Turn world rest taken deed other put) :
    other.entered = deed.onEntered world.entered := by
  cases turn with
  | quiet _ _ same | dropped _ same | settled _ same | settledEmpty _ _ same
  | dischargedEmpty _ same | passed _ same | notified same | told _ same | tornDown same
  | refused _ _ _ same | setShielded _ _ _ _ same | abandoned _ _ same | announced same
  | opened _ _ _ same | closed same | ranAsked _ _ _ same | ranSettled _ _ same
  | ranDischarged _ same | bound _ _ _ _ same | drawn _ _ _ _ same | realmOpened _ _ same
  | borrowed _ _ _ _ _ same | setBegun _ _ _ _ _ _ same | released same
  | inserted _ _ _ _ _ same | removed _ _ _ _ same | stored _ same | rekeyed _ same
  | subscribed _ _ _ same | unsubscribed _ _ _ same | replaced _ same | listMade _ _ _ same
  | cellMade _ _ _ same =>
    exact same.entered

/-- A turn puts and takes frames of open keys as its deed enters and leaves realms. -/
theorem Turn.enters (turn : Turn world rest taken deed other put) (further : List RealmRef) :
    deed.onEntered (taken.flatMap Frame.enters ++ further) =
      put.flatMap Frame.enters ++ further := by
  have callee (body : List Action) (surface : Surface) (locals : Variables) :=
    (plain_called body surface locals).spent.enters
  have setter (body : List Action) (result : Expression) (surface : Surface)
      (locals : Variables) := (plain_invoked body result surface locals).spent.enters
  cases turn with
  | dropped spent => simp [Deed.onEntered, spent.enters]
  | quiet spent plain | bound spent plain | refused spent plain | listMade spent plain
  | cellMade spent plain | realmOpened spent plain | drawn spent plain
  | subscribed spent plain | unsubscribed spent plain =>
    simp [Deed.onEntered, spent.spent.enters, plain.spent.enters]
  | opened spent plain | ranAsked spent plain | inserted spent plain | removed spent plain
  | setShielded spent plain | setBegun spent plain =>
    simp [Deed.onEntered, Frame.enters, spent.spent.enters, plain.spent.enters, setter]
  | borrowed spent plain _ inner =>
    simp [Deed.onEntered, Frame.enters, spent.spent.enters, plain.spent.enters,
      inner.spent.enters, setter]
  | settled | settledEmpty | dischargedEmpty | passed | notified | announced | closed
  | ranSettled | ranDischarged | stored | replaced | rekeyed | told | tornDown | released =>
    simp [Deed.onEntered, Frame.enters, callee]
  | @abandoned frame _ noScope =>
    have other : frame.enters = [] := by
      cases frame with
      | scope realm key => exact absurd rfl (noScope realm key)
      | _ => rfl
    simp [Deed.onEntered, other]

/-- A turn puts and takes frames of open keys of a realm as its deed opens and closes keys. -/
theorem Turn.opens (turn : Turn world rest taken deed other put) (realm : RealmRef)
    (further : List Key) :
    deed.onActive realm (taken.flatMap (Frame.opens realm) ++ further) =
      put.flatMap (Frame.opens realm) ++ further := by
  have callee (body : List Action) (surface : Surface) (locals : Variables) :=
    (plain_called body surface locals).spent.opens realm
  have setter (body : List Action) (result : Expression) (surface : Surface)
      (locals : Variables) := (plain_invoked body result surface locals).spent.opens realm
  cases turn with
  | dropped spent => simp [Deed.onActive, spent.opens]
  | quiet spent plain | bound spent plain | refused spent plain | listMade spent plain
  | cellMade spent plain | realmOpened spent plain | drawn spent plain
  | subscribed spent plain | unsubscribed spent plain =>
    simp [Deed.onActive, spent.spent.opens, plain.spent.opens]
  | ranAsked spent plain | inserted spent plain | removed spent plain
  | setShielded spent plain | setBegun spent plain =>
    simp [Deed.onActive, Frame.opens, spent.spent.opens, plain.spent.opens, setter]
  | borrowed spent plain _ inner =>
    simp [Deed.onActive, Frame.opens, spent.spent.opens, plain.spent.opens,
      inner.spent.opens, setter]
  | settled | settledEmpty | dischargedEmpty | passed | notified
  | ranSettled | ranDischarged | stored | replaced | rekeyed | told | tornDown | released =>
    simp [Deed.onActive, Frame.opens, callee]
  | opened spent plain =>
    simp only [Deed.onActive, spent.spent.opens, plain.spent.opens, List.flatMap_append,
      List.flatMap_cons, List.flatMap_nil, Frame.opens, List.nil_append, List.append_nil]
    split
    · rfl
    · rfl
  | announced =>
    simp only [Deed.onActive, List.flatMap_cons, List.flatMap_nil, Frame.opens, List.nil_append,
      List.append_nil]
    split
    · rfl
    · rfl
  | closed =>
    simp only [Deed.onActive, List.flatMap_cons, List.flatMap_nil, Frame.opens, List.nil_append,
      List.append_nil]
    split
    · rfl
    · rfl
  | @abandoned frame _ noScope =>
    have other : frame.opens realm = [] := by
      cases frame with
      | scope named key => exact absurd rfl (noScope named key)
      | _ => rfl
    simp [Deed.onActive, other]

end

/-- The keys that are open are those whose frames are on the stack, in the same order. -/
structure World.Scoped (world : World) (stack : List Frame) : Prop where
  /-- The chain of entered realms. -/
  entered : world.entered = stack.flatMap Frame.enters
  /-- The open keys of every realm. -/
  active : ∀ realm, (world.realm realm).active = stack.flatMap (Frame.opens realm)

namespace World.Scoped

/-- Alike worlds have the same open keys. -/
theorem alike {world other : World} {stack : List Frame} (chain : world.Scoped stack)
    (same : world.Alike other) : other.Scoped stack := by
  refine ⟨same.entered.trans chain.entered, fun realm => ?_⟩
  rw [same.realm]
  exact chain.active realm

/-- Keys are open as long as their frames are on the stack, whenever a script runs. -/
theorem preserved :
    Preserved (fun world _ _ => world.Sound) fun world stack _ => world.Scoped stack where
  first tracing := ⟨rfl, fun realm => World.field_start Realm.active rfl tracing realm⟩
  alike same chain := chain.alike same
  turn sound chain _ turn := by
    refine ⟨?_, fun realm => ?_⟩
    · rw [turn.entered, chain.entered, List.flatMap_append, List.flatMap_append]
      exact turn.enters _
    · rw [turn.active sound, chain.active, List.flatMap_append, List.flatMap_append]
      exact turn.opens realm _

end World.Scoped

/-- Keys are open as long as their frames are on the stack, at every moment. -/
theorem Moment.IsReached.scopes {moment : Moment} (reached : moment.IsReached) :
    moment.world.Scoped moment.machine.stack :=
  World.Scoped.preserved.reached (fun reached => reached.held.sound)
    (fun same sound => sound.alike same) reached

end Observables
