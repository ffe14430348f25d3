import Observables.Proofs.Settlement

/-!
# What lies on what is due

What an operation has left to do lies on the stack in a fixed order, and script
functions run only in certain places of it: on a dispatch or on a run of
teardowns. Nothing lies on a notice of an addition; on an announcement and on a
notice of a removal lie only the notice and the dispatch of the change that came
before. On that notice lies nothing if it comes before an announcement, and
otherwise only the discharge of keys that the same list has given out; on a
discharge lies only a run of teardowns for one of these keys.
-/

namespace Observables

open Script

namespace Frame

/-- The frame tells the change subscriptions of a container, or is about to. -/
def spreads (container : ContainerRef) : Frame → Bool
  | .notify other .changed | .dispatch other .changed _ => container == other
  | _ => false

/-- The frame runs the teardowns of keys. -/
def isDischarge : Frame → Bool
  | .discharge .. => true
  | _ => false

/-- The frame answers a value that is known. -/
def isYield : Frame → Bool
  | .yield _ => true
  | _ => false

/-- The frame calls the teardowns of a key. -/
def isTeardown : Frame → Bool
  | .teardown .. => true
  | _ => false

/-- The frame may lie directly on others. -/
def Stands (frame : Frame) : List Frame → Prop
  | .notify _ (.added _ _) :: _ | .notify _ .changed :: .announce _ _ _ _ :: _ => False
  | .announce container _ _ _ :: _ | .notify container (.removed _) :: _ =>
    frame.spreads container = true
  | .notify _ .changed :: _ => frame.isDischarge = true
  | .discharge _ _ :: _ => frame.isYield = true
  | .yield _ :: .discharge _ _ :: _ => frame.isTeardown = true
  | _ => True

/-- Anything may lie on the frame. -/
def isOpen : Frame → Bool
  | .notify .. | .announce .. | .discharge .. | .yield _ => false
  | _ => true

variable {frame other : Frame} {beneath : List Frame}

/-- Only the notice and the dispatch of a change tell the change subscriptions. -/
theorem spreads_cases {container : ContainerRef} (spreads : frame.spreads container = true) :
    frame = .notify container .changed ∨
      ∃ waiting, frame = .dispatch container .changed waiting := by
  unfold Frame.spreads at spreads
  split at spreads
  · rw [eq_of_beq spreads]
    exact .inl rfl
  · rw [eq_of_beq spreads]
    exact .inr ⟨_, rfl⟩
  · cases spreads

/-- Anything may lie on an open frame. -/
theorem stands_of_isOpen (free : other.isOpen = true) : frame.Stands (other :: beneath) := by
  cases other with
  | notify | announce | discharge | yield => cases free
  | _ => trivial

/-- What lies on others does so for what it spreads, discharges, answers or tears down. -/
theorem Stands.of_same (stands : frame.Stands beneath)
    (spreads : ∀ container, frame.spreads container = true → other.spreads container = true)
    (discharge : frame.isDischarge = true → other.isDischarge = true)
    (yield : frame.isYield = true → other.isYield = true)
    (teardown : frame.isTeardown = true → other.isTeardown = true) : other.Stands beneath := by
  unfold Stands at stands ⊢
  split at stands
  · exact stands
  · exact stands
  · exact spreads _ stands
  · exact spreads _ stands
  · exact discharge stands
  · exact yield stands
  · exact teardown stands
  · trivial

/-- On the notice of a change lies only a discharge. -/
theorem Stands.isDischarge {container : ContainerRef}
    (stands : frame.Stands (.notify container .changed :: beneath)) :
    frame.isDischarge = true := by
  cases beneath with
  | nil => exact stands
  | cons next beneath =>
    cases next with
    | announce => cases stands
    | _ => exact stands

/-- Where a frame of a body lies, or one that settles, announces, replaces or opens, anything
may lie. -/
theorem Stands.any (stands : frame.Stands beneath)
    (silent : ∀ container, frame.spreads container = false) (discharge : frame.isDischarge = false)
    (yield : frame.isYield = false) (teardown : frame.isTeardown = false) :
    other.Stands beneath :=
  stands.of_same (by simp [silent]) (by simp [discharge]) (by simp [yield]) (by simp [teardown])

/-- Where a frame lies that only says how a script goes on, anything may lie. -/
theorem Stands.of_isPlain (stands : frame.Stands beneath) (plain : frame.isPlain = true) :
    other.Stands beneath := by
  cases frame with
  | notify | dispatch | announce | settle | discharge | teardown | yield | scope | borrowed
  | replace => cases plain
  | _ => exact stands.any (fun _ => rfl) rfl rfl rfl

end Frame

/-- Anything may lie on the frames, and none of them is a run of teardowns. -/
def Loose (frames : List Frame) : Prop :=
  ∀ frame ∈ frames, frame.isOpen = true ∧ frame.isTeardown = false

namespace Loose

variable {first second : List Frame}

theorem cons {frame : Frame} (free : frame.isOpen = true) (tears : frame.isTeardown = false)
    (rest : Loose second) : Loose (frame :: second) := by
  intro other inside
  rcases List.mem_cons.mp inside with rfl | inside
  · exact ⟨free, tears⟩
  · exact rest other inside

theorem append (left : Loose first) (right : Loose second) : Loose (first ++ second) := by
  intro frame inside
  rcases List.mem_append.mp inside with inside | inside
  · exact left frame inside
  · exact right frame inside

end Loose

/-- Frames of bodies are loose. -/
theorem Inner.loose {frames : List Frame} (inner : Inner frames) : Loose frames := by
  intro frame inside
  obtain ⟨own, caller⟩ := inner frame inside
  cases frame with
  | notify | announce | discharge | yield => cases own
  | teardown => cases caller
  | _ => exact ⟨rfl, rfl⟩

/-- Frames that only say how a script goes on are loose. -/
theorem Plain.loose {frames : List Frame} (plain : Plain frames) : Loose frames :=
  plain.inner.loose

/-- Every frame lies where it may. -/
def Placed : List Frame → Prop
  | [] => True
  | frame :: beneath => frame.Stands beneath ∧ Placed beneath

/-- Anything may lie on the stack. -/
def Wide (stack : List Frame) : Prop := ∀ frame : Frame, frame.Stands stack

namespace Wide

variable {stack : List Frame}

theorem nil : Wide [] := fun _ => trivial

theorem cons {frame : Frame} (free : frame.isOpen = true) : Wide (frame :: stack) :=
  fun _ => Frame.stands_of_isOpen free

theorem append {put : List Frame} (wide : Wide stack) (loose : Loose put) :
    Wide (put ++ stack) := by
  cases put with
  | nil => exact wide
  | cons frame put => exact cons (loose frame List.mem_cons_self).1

/-- A known answer may lie where anything may, and anything may lie on it there. -/
theorem yield (wide : Wide stack) (value : Value) : Wide (.yield value :: stack) := by
  intro frame
  cases stack with
  | nil => trivial
  | cons other beneath =>
    cases other with
    | discharge =>
      cases (show Frame.isYield .attempt = true from wide .attempt)
    | _ => trivial

/-- Where anything may lie no announcement waits for the notice of a change. -/
theorem discharge (wide : Wide stack) {container : ContainerRef} {realm : RealmRef}
    {keys : List Key} :
    (Frame.discharge realm keys).Stands (.notify container .changed :: stack) := by
  cases stack with
  | nil => rfl
  | cons other beneath =>
    cases other with
    | announce => cases (show Frame.spreads _ .attempt = true from wide .attempt)
    | _ => rfl

end Wide

namespace Placed

variable {rest taken put stack : List Frame}

/-- Loose frames can be put where anything may lie. -/
theorem append (placed : Placed stack) (wide : Wide stack) (loose : Loose put) :
    Placed (put ++ stack) := by
  induction put with
  | nil => exact placed
  | cons frame put ih =>
    have others : Loose put := fun frame inside => loose frame (List.mem_cons_of_mem _ inside)
    exact ⟨wide.append others frame, ih others⟩

/-- What lies under other frames is placed. -/
theorem of_append (placed : Placed (taken ++ rest)) : Placed rest := by
  induction taken with
  | nil => exact placed
  | cons frame taken ih => exact ih placed.2

/-- Anything may lie where frames were taken that only say how a script goes on. -/
theorem wide_of_plain (placed : Placed (taken ++ rest)) (plain : Plain taken)
    (ground : taken = [] → rest = []) : Wide rest := by
  induction taken with
  | nil =>
    rw [ground rfl]
    exact .nil
  | cons frame taken ih =>
    cases taken with
    | nil => exact fun other => placed.1.of_isPlain (plain frame List.mem_cons_self)
    | cons next taken =>
      exact ih placed.2 (fun frame inside => plain frame (List.mem_cons_of_mem _ inside))
        (fun none => by cases none)

end Placed

section

variable {world other : World} {rest taken put : List Frame} {deed : Deed}
  {history : List Deed}

/-- Every turn puts frames where they may lie. -/
theorem Placed.turn (placed : Placed (taken ++ rest)) (ground : taken = [] → rest = [])
    (turn : Turn world rest taken deed other put) : Placed (put ++ rest) := by
  have below : Placed rest := placed.of_append
  have wide (plain : Plain taken) : Wide rest := placed.wide_of_plain plain ground
  have served {container : ContainerRef} {notice : Notice} {waiting : List SubscriptionRef}
      (stands : (Frame.notify container notice).Stands rest ∨
        ∃ others, (Frame.dispatch container notice others).Stands rest) :
      (Frame.dispatch container notice waiting).Stands rest := by
    rcases stands with stands | ⟨others, stands⟩
    · cases notice <;> exact stands.of_same (fun _ => id) id id id
    · cases notice <;> exact stands.of_same (fun _ => id) id id id
  cases turn with
  | dropped | settled | settledEmpty | closed | released | rekeyed | abandoned => exact below
  | quiet spent plain | bound spent plain | refused spent plain | listMade spent plain
  | cellMade spent plain | realmOpened spent plain | drawn spent plain
  | subscribed spent plain | unsubscribed spent plain =>
    exact below.append (wide spent) plain.loose
  | dischargedEmpty => exact ⟨placed.1.of_same (fun _ => id) id id id, below⟩
  | passed => exact ⟨served (.inr ⟨_, placed.1⟩), below⟩
  | notified => exact ⟨served (.inl placed.1), below⟩
  | @told container notice _ waiting =>
    have caller : Placed (.dispatch container notice waiting :: rest) :=
      ⟨served (.inr ⟨_, placed.1⟩), below⟩
    rw [List.append_assoc]
    exact caller.append (.cons rfl) (plain_called _ _ _).loose
  | @tornDown realm key _ waiting =>
    have caller : Placed (.teardown realm key waiting :: rest) :=
      ⟨placed.1.of_same (fun _ => id) id id id, below⟩
    rw [List.append_assoc]
    exact caller.append (.cons rfl) (plain_called _ _ _).loose
  | announced => exact ⟨trivial, placed.1.any (fun _ => rfl) rfl rfl rfl, below⟩
  | ranSettled =>
    have wide : Wide rest := fun frame => placed.1.any (fun _ => rfl) rfl rfl rfl
    exact ⟨wide.yield _ _, wide _, below⟩
  | ranDischarged => exact ⟨rfl, rfl, placed.1.of_same (fun _ => id) id id id, below⟩
  | @opened _ tail realm key body _ spent plain =>
    have caller : Placed (.scope realm key :: (tail ++ rest)) :=
      ⟨(wide spent).append plain.loose _, below.append (wide spent) plain.loose⟩
    exact caller.append (.cons rfl) (plain_scoped body).loose
  | @ranAsked _ tail _ _ _ _ spent plain =>
    have wide : Wide (tail ++ rest) := (wide spent).append plain.loose
    exact ⟨wide.yield _ _, wide _, below.append (placed.wide_of_plain spent ground) plain.loose⟩
  | borrowed spent plain _ inner =>
    exact below.append (wide spent) (inner_reading inner.inner plain).loose
  | setBegun spent plain =>
    exact below.append (wide spent) (inner_reading (inner_replace _) plain).loose
  | setShielded spent plain => exact below.append (wide spent) (inner_setting plain).loose
  | @inserted _ tail _ _ _ _ spent plain =>
    have wide : Wide (tail ++ rest) := (wide spent).append plain.loose
    exact ⟨beq_self_eq_true _, trivial, wide.yield _ _, wide _,
      below.append (placed.wide_of_plain spent ground) plain.loose⟩
  | @removed _ tail _ _ _ _ _ spent plain =>
    have wide : Wide (tail ++ rest) := (wide spent).append plain.loose
    exact ⟨rfl, beq_self_eq_true _, wide.yield _ _, wide _,
      below.append (placed.wide_of_plain spent ground) plain.loose⟩
  | stored => exact ⟨placed.1.of_isPlain rfl, below⟩
  | replaced =>
    have wide : Wide rest := fun frame => placed.1.any (fun _ => rfl) rfl rfl rfl
    exact ⟨wide.discharge, wide _, below⟩

/-- Frames lie where they may whenever a script runs. -/
theorem Placed.preserved : Invariant fun _ stack _ => Placed stack where
  first _ := trivial
  alike _ placed := placed
  turn _ placed ground turn := placed.turn ground turn

end

/-- Frames lie where they may at every moment. -/
theorem Moment.IsReached.placed {moment : Moment} (reached : moment.IsReached) :
    Placed moment.machine.stack :=
  Placed.preserved.reached reached

/-- A discharge lies on the notice of the change that took its keys from their list, and a run
of teardowns that lies on a discharge is for a key of that list. -/
def Frame.Pertains (world : World) (frame : Frame) (beneath : List Frame) : Prop :=
  match frame, beneath with
  | .discharge realm keys, beneath => ∃ container further,
      beneath = .notify container .changed :: further ∧ ∀ key ∈ keys, world.Owns realm key container
  | .teardown realm key _, .yield _ :: .discharge _ _ :: .notify container .changed :: _ =>
      world.Owns realm key container
  | _, _ => True

/-- The keys of all discharges and of all runs of teardowns on them pertain to the lists beneath. -/
def World.Pertinent (world : World) : List Frame → Prop
  | [] => True
  | frame :: beneath => frame.Pertains world beneath ∧ world.Pertinent beneath

section

variable {world other : World} {rest taken put stack : List Frame} {deed : Deed}
  {history : List Deed}

/-- Only discharges and runs of teardowns have keys that need a list. -/
theorem Frame.pertains_of_isOpen {frame : Frame} (free : frame.isOpen = true)
    (tears : frame.isTeardown = false) {beneath : List Frame} : frame.Pertains world beneath := by
  cases frame with
  | discharge => cases free
  | teardown => cases tears
  | _ => trivial

/-- A run of teardowns stays with its key while the teardowns have their turns. -/
theorem Frame.Pertains.waits {realm : RealmRef} {key : Key} {waiting : List Callback}
    {beneath : List Frame} (pertains : (Frame.teardown realm key waiting).Pertains world beneath)
    (others : List Callback) : (Frame.teardown realm key others).Pertains world beneath := by
  unfold Frame.Pertains at pertains ⊢
  split <;> simp_all

/-- A run of teardowns that an action or a settlement has begun lies on no discharge. -/
theorem Wide.pertains (wide : Wide stack) {realm : RealmRef} {key : Key}
    {waiting : List Callback} {value : Value} :
    (Frame.teardown realm key waiting).Pertains world (.yield value :: stack) := by
  cases stack with
  | nil => trivial
  | cons frame beneath =>
    cases frame with
    | discharge => cases (show Frame.isYield .attempt = true from wide .attempt)
    | _ => trivial

namespace World.Pertinent

/-- What is pertinent stays so while lists keep what they have given out. -/
theorem mono (pertinent : world.Pertinent stack)
    (kept : ∀ {realm key container}, world.Owns realm key container →
      other.Owns realm key container) : other.Pertinent stack := by
  induction stack with
  | nil => trivial
  | cons frame beneath ih =>
    refine ⟨?_, ih pertinent.2⟩
    have pertains := pertinent.1
    unfold Frame.Pertains at pertains ⊢
    split at pertains
    · obtain ⟨container, further, below, owned⟩ := pertains
      exact ⟨container, further, below, fun key inside => kept (owned key inside)⟩
    · exact kept pertains
    · trivial

/-- What lies under other frames is pertinent. -/
theorem of_append (pertinent : world.Pertinent (taken ++ rest)) : world.Pertinent rest := by
  induction taken with
  | nil => exact pertinent
  | cons frame taken ih => exact ih pertinent.2

/-- Loose frames need no keys. -/
theorem append (pertinent : world.Pertinent stack) (loose : Loose put) :
    world.Pertinent (put ++ stack) := by
  induction put with
  | nil => exact pertinent
  | cons frame put ih =>
    obtain ⟨free, tears⟩ := loose frame List.mem_cons_self
    exact ⟨Frame.pertains_of_isOpen free tears,
      ih fun frame inside => loose frame (List.mem_cons_of_mem _ inside)⟩

end World.Pertinent

/-- Every turn keeps the keys of discharges pertinent. -/
theorem World.Pertinent.turn (pertinent : world.Pertinent (taken ++ rest))
    (held : world.Held (taken ++ rest) history) (numbered : world.Numbered)
    (placed : Placed (taken ++ rest)) (ground : taken = [] → rest = [])
    (turn : Turn world rest taken deed other put) : other.Pertinent (put ++ rest) := by
  have given := turn
  have still : other.Pertinent (taken ++ rest) := pertinent.mono turn.owns
  have below : other.Pertinent rest := still.of_append
  have wide (plain : Plain taken) : Wide rest := placed.wide_of_plain plain ground
  cases turn with
  | dropped | settled | settledEmpty | closed | released | rekeyed | abandoned => exact below
  | quiet spent plain | bound spent plain | refused spent plain | listMade spent plain
  | cellMade spent plain | realmOpened spent plain | drawn spent plain
  | subscribed spent plain | unsubscribed spent plain => exact below.append plain.loose
  | dischargedEmpty =>
    obtain ⟨container, further, beneath, owned⟩ := still.1
    have others (key : Key) (inside) := owned key (List.mem_cons_of_mem _ inside)
    exact ⟨⟨container, further, beneath, others⟩, below⟩
  | passed | notified | stored => exact ⟨trivial, below⟩
  | @told container notice _ waiting =>
    rw [List.append_assoc]
    exact append ⟨trivial, below⟩ (plain_called _ _ _).loose
  | @tornDown realm key _ waiting =>
    rw [List.append_assoc]
    exact append ⟨still.1.waits _, below⟩ (plain_called _ _ _).loose
  | announced => exact ⟨trivial, trivial, below⟩
  | ranSettled =>
    have wide : Wide rest := fun frame => placed.1.any (fun _ => rfl) rfl rfl rfl
    exact ⟨wide.pertains, trivial, below⟩
  | ranDischarged =>
    obtain ⟨container, further, rfl, owned⟩ := still.1
    exact ⟨owned _ List.mem_cons_self, trivial,
      ⟨container, further, rfl, fun key inside => owned key (List.mem_cons_of_mem _ inside)⟩, below⟩
  | opened spent plain =>
    exact below.append ((plain_scoped _).loose.append (.cons rfl rfl plain.loose))
  | ranAsked spent plain =>
    exact ⟨((wide spent).append plain.loose).pertains, trivial, below.append plain.loose⟩
  | borrowed spent plain _ inner => exact below.append (inner_reading inner.inner plain).loose
  | setBegun spent plain => exact below.append (inner_reading (inner_replace _) plain).loose
  | setShielded spent plain => exact below.append (inner_setting plain).loose
  | inserted spent plain =>
    exact ⟨trivial, trivial, trivial, trivial, below.append plain.loose⟩
  | removed spent plain _ there =>
    refine ⟨⟨_, _, rfl, fun key inside => given.owns ?_⟩, trivial, trivial, trivial,
      below.append plain.loose⟩
    have used := List.mem_of_getElem? (Option.mem_toList.mp inside)
    exact ⟨Container.isList_of_items there, rfl, (numbered.proper _).allotted key used⟩
  | replaced =>
    have isList := held.lists _ List.mem_cons_self
    exact ⟨⟨_, _, rfl, fun key used =>
      given.owns ⟨isList, rfl, (numbered.proper _).allotted key used⟩⟩, trivial, below⟩

/-- The keys of discharges are pertinent whenever a script runs. -/
theorem World.Pertinent.preserved :
    Preserved (fun world stack history =>
        world.Held stack history ∧ world.Numbered ∧ Placed stack)
      fun world stack _ => world.Pertinent stack where
  first _ := trivial
  alike same pertinent := pertinent.mono fun owns => owns.alike same
  turn known pertinent ground turn := pertinent.turn known.1 known.2.1 known.2.2 ground turn

end

/-- The keys of discharges are pertinent at every moment. -/
theorem Moment.IsReached.pertinent {moment : Moment} (reached : moment.IsReached) :
    moment.world.Pertinent moment.machine.stack :=
  World.Pertinent.preserved.reached
    (fun reached => ⟨reached.held, reached.numbered, reached.placed⟩)
    (fun same known => ⟨known.1.alike same, known.2.1.alike same, known.2.2⟩) reached

end Observables
