import Observables.Session

/-!
# Rolls

A roll is what a list comes to for somebody who performs whole operations on
it and looks at it in between: one row for each element, with its key and the
teardowns that wait for the key, and a count of the keys that were given out.
It knows no frames, no registries and no tables. Its listeners and teardowns
log values and register teardowns, in any realm, and do nothing else; setters
and predicates are expressions. For each edit a roll says what is answered,
what becomes visible, in order, and which roll is left.
-/

namespace Observables

open Script

/-- What a listener or a teardown does. -/
inductive Chore where
  /-- It logs the value of an expression. -/
  | log (value : Expression)
  /-- It registers a teardown with chores of its own, in the realm that an expression names or
  in the current one. -/
  | register (place : Option Expression) (tag : Expression) (body : List Chore)

/-- What names come to while chores are done. -/
structure Outlook where
  /-- What the container of a name holds. -/
  held : String → Value
  /-- What a name of a realm means: the realm of the list or the current one, which are one and
  the same while a key is open, or another realm, or nothing. -/
  places : String → Option Bool

namespace Chore

/-- The action that does the chore. -/
def action : Chore → Action
  | .log value => ⟨"log", none, none, .log value⟩
  | .register place tag body =>
    ⟨"register", none, none, .register place tag .direct (actions body)⟩
where
  /-- The actions that do several chores. -/
  actions : List Chore → List Action
    | [] => []
    | chore :: chores => chore.action :: actions chores

end Chore

/-- The key to which a teardown is bound, if any, that is registered while a key is open, or
none is; nothing if it is registered in no realm. -/
def Outlook.binding (outlook : Outlook) (locals : Variables) (active : Option Key) :
    Option Expression → Option (Option Key)
  | none => some active
  | some name => (outlook.places (name.evaluate outlook.held locals).joined).map fun own =>
      if own then active else none

/-- What a chore makes visible while a key is open, or none is. -/
def Chore.events (outlook : Outlook) (locals : Variables) (active : Option Key) :
    Chore → List Event
  | .log value => [.logged (value.evaluate outlook.held locals)]
  | .register place _ _ =>
    [.answered "register" (.value (match outlook.binding locals active place with
      | none => .text "missing"
      | some bound => .bool bound.isSome))]

/-- A subscriber or a teardown that does chores. -/
structure Listener where
  /-- The name under which its calls appear. -/
  tag : String
  /-- What it does. -/
  body : List Chore
  /-- The variables as they were when it was made. -/
  locals : Variables

/-- The teardowns that a chore binds to the open key. -/
def Chore.teardowns (outlook : Outlook) (locals : Variables) (active : Option Key) :
    Chore → List Listener
  | .log _ => []
  | .register place tag body =>
    match outlook.binding locals active place with
    | some (some _) => [⟨(tag.evaluate outlook.held locals).joined, body, locals⟩]
    | _ => []

namespace Listener

/-- The callback that a listener is for a container. -/
def callback (listener : Listener) : Callback :=
  ⟨listener.tag, .direct, Chore.action.actions listener.body, listener.locals⟩

/-- The variables of a call. -/
def bindings (active : Option Key) (arguments : List (String × Value)) (listener : Listener) :
    Variables :=
  listener.locals.insertAll (arguments ++ [("key", .optional .key active)])

/-- What a call makes visible: the call itself and what the chores make visible. -/
def events (outlook : Outlook) (active : Option Key) (call : Event)
    (arguments : List (String × Value)) (listener : Listener) : List Event :=
  call :: listener.body.flatMap (Chore.events outlook (listener.bindings active arguments) active)

/-- The teardowns that a call binds to the open key, in order. -/
def teardowns (outlook : Outlook) (active : Option Key) (arguments : List (String × Value))
    (listener : Listener) : List Listener :=
  listener.body.flatMap (Chore.teardowns outlook (listener.bindings active arguments) active)

end Listener

/-- One element of a list. -/
structure Row where
  /-- The element. -/
  item : Value
  /-- Its key. -/
  key : Key
  /-- The teardowns that wait for the key, in order of registration. -/
  pending : List Listener

/-- A list as rows. -/
structure Roll where
  /-- The name of the list. -/
  name : String
  /-- What other names hold. -/
  others : String → Value
  /-- What the names of realms mean. -/
  places : String → Option Bool
  /-- The variables of the script, which does not change them. -/
  locals : Variables
  /-- The number of the list. -/
  id : Nat
  /-- How many keys were given out. -/
  nextSeq : Nat
  /-- The number of the next subscription. -/
  nextSubscription : Nat
  /-- The rows, in order. -/
  rows : List Row
  /-- The listeners of each channel, in the order of their subscription. -/
  listeners : Channel → List Listener

/-- What can be done to a list at the outermost level of a script. -/
inductive Edit where
  /-- Subscribe a listener to a channel. -/
  | subscribe (tag : String) (channel : Channel) (body : List Chore)
  /-- Add an element at the end. -/
  | push (item : Value)
  /-- Add an element at a position. -/
  | insertAt (position : Nat) (item : Value)
  /-- Remove the last element. -/
  | pop
  /-- Remove the element at a position. -/
  | removeAt (position : Nat)
  /-- Remove the first element of which an expression is true. -/
  | findAndRemove (test : Expression)
  /-- Replace the elements by those that an expression gives. -/
  | set (answer : Expression)

namespace Edit

/-- The name of the operation that an edit is. -/
def verb : Edit → String
  | .subscribe .. => "subscribe"
  | .push _ => "push"
  | .insertAt .. => "insert_at"
  | .pop => "pop"
  | .removeAt _ => "remove_at"
  | .findAndRemove _ => "find_and_remove"
  | .set _ => "set"

/-- The operation that an edit is. -/
def operation : Edit → Operation (List Action)
  | .subscribe tag channel body =>
    .subscribe (.literal (.text tag)) (some channel) (Chore.action.actions body)
  | .push item => .push (.literal item)
  | .insertAt position item => .insertAt (.literal (.nat position)) (.literal item)
  | .pop => .pop
  | .removeAt position => .removeAt (.literal (.nat position))
  | .findAndRemove test => .findAndRemove [] test
  | .set answer => .set [] answer

/-- The action that performs an edit on the list of a name. -/
def action (name : String) (edit : Edit) : Action :=
  ⟨edit.verb, none, some (.literal (.text name)), .operate edit.operation⟩

end Edit

/-- What an edit comes to. -/
structure Edited where
  /-- What is answered. -/
  reply : Value
  /-- What becomes visible, in order. -/
  events : List Event
  /-- What is left. -/
  roll : Roll

namespace Roll

/-- The elements. -/
def items (roll : Roll) : List Value := roll.rows.map (·.item)

/-- The keys of the elements. -/
def keys (roll : Roll) : List Key := roll.rows.map (·.key)

/-- The teardowns that wait for a key. -/
def pending (roll : Roll) (key : Key) : List Listener :=
  roll.rows.flatMap fun row => if row.key = key then row.pending else []

/-- What a name holds. -/
def held (roll : Roll) (name : String) : Value :=
  if name = roll.name then .list roll.items else roll.others name

/-- What names come to. -/
def outlook (roll : Roll) : Outlook := ⟨roll.held, roll.places⟩

/-- What a listener gets to know of a notice. -/
def arguments (roll : Roll) : Notice → List (String × Value)
  | .changed => [("v", .list roll.items)]
  | .added item position => [("item", item), ("pos", .nat position)]
  | .removed position => [("pos", .nat position)]

/-- How a call of a listener appears. -/
def call (roll : Roll) (active : Option Key) (notice : Notice) (listener : Listener) : Event :=
  match notice with
  | .changed => .change listener.tag (.list roll.items) active
  | .added item position => .add listener.tag item position active
  | .removed position => .remove listener.tag position active

/-- What becomes visible when all listeners of a channel are told. -/
def told (roll : Roll) (active : Option Key) (notice : Notice) : List Event :=
  (roll.listeners notice.channel).flatMap fun listener =>
    listener.events roll.outlook active (roll.call active notice listener) (roll.arguments notice)

/-- The teardowns that are bound to the open key when all listeners of a channel are told. -/
def bound (roll : Roll) (active : Option Key) (notice : Notice) : List Listener :=
  (roll.listeners notice.channel).flatMap
    (Listener.teardowns roll.outlook active (roll.arguments notice))

/-- What becomes visible when teardowns are run. -/
def tornDown (roll : Roll) (teardowns : List Listener) : List Event :=
  teardowns.flatMap fun listener =>
    listener.events roll.outlook none (.teardown listener.tag none) []

/-- Put an element into a list, not past its end. All change listeners are told of the
new elements; then the add listeners are told while the new key is open, and what they
register waits for it. -/
def insert (roll : Roll) (position : Nat) (item : Value) : Edited :=
  let place := min position roll.rows.length
  let key : Key := ⟨roll.id, roll.nextSeq⟩
  let added (pending : List Listener) : Roll :=
    { roll with
      nextSeq := roll.nextSeq + 1
      rows := roll.rows.insertIdx place ⟨item, key, pending⟩ }
  let notice := Notice.added item place
  ⟨.null, (added []).told none .changed ++ (added []).told (some key) notice,
    added ((added []).bound (some key) notice)⟩

/-- Take the element at a position out of a list. Its teardowns are run; then the change
listeners are told of what is left, and the remove listeners of the position. -/
def remove (roll : Roll) (position : Nat) : Edited :=
  match roll.rows[position]? with
  | none => ⟨.list [], [], roll⟩
  | some row =>
    let left := { roll with rows := roll.rows.eraseIdx position }
    ⟨.list [row.item],
      left.tornDown row.pending ++ left.told none .changed ++ left.told none (.removed position),
      left⟩

/-- The rows of new elements, with fresh keys in order. -/
def fresh (id : Nat) : Nat → List Value → List Row
  | _, [] => []
  | seq, item :: items => ⟨item, ⟨id, seq⟩, []⟩ :: fresh id (seq + 1) items

/-- Replace all elements. The teardowns of all old elements are run, in order; then the
change listeners are told. -/
def replace (roll : Roll) (items : List Value) : Edited :=
  let left := { roll with
    nextSeq := roll.nextSeq + items.length
    rows := fresh roll.id roll.nextSeq items }
  ⟨.null, left.tornDown (roll.rows.flatMap (·.pending)) ++ left.told none .changed, left⟩

/-- An expression holds of an element. -/
def accepts (roll : Roll) (test : Expression) (item : Value) : Bool :=
  (test.evaluate roll.held (roll.locals.insertAll [("x", item)])).truthy

/-- The elements that a setter gives. -/
def answered (roll : Roll) (answer : Expression) : List Value :=
  ((answer.evaluate roll.held (roll.locals.insertAll [("v", .list roll.items)])).items?).getD []

/-- Perform one edit. -/
def perform (roll : Roll) : Edit → Edited
  | .subscribe tag channel body =>
    ⟨.nat roll.nextSubscription, [], { roll with
      nextSubscription := roll.nextSubscription + 1
      listeners := fun other => if other = channel
        then roll.listeners channel ++ [⟨tag, body, roll.locals⟩] else roll.listeners other }⟩
  | .push item => roll.insert roll.rows.length item
  | .insertAt position item => roll.insert position item
  | .pop => roll.remove (roll.rows.length - 1)
  | .removeAt position => roll.remove position
  | .findAndRemove test => roll.remove (roll.items.findIdx (roll.accepts test))
  | .set answer => roll.replace (roll.answered answer)

/-- The roll after several edits. -/
def after (roll : Roll) (edits : List Edit) : Roll :=
  edits.foldl (fun roll edit => (roll.perform edit).roll) roll

/-- What several edits answer and make visible. -/
def answers (roll : Roll) : List Edit → List (Value × List Event)
  | [] => []
  | edit :: edits =>
    let edited := roll.perform edit
    (edited.reply, edited.events) :: edited.roll.answers edits

/-- Nothing waits for a key that is not in the roll. -/
theorem pending_of_not_mem {roll : Roll} {key : Key} (absent : key ∉ roll.keys) :
    roll.pending key = [] := by
  rw [pending, List.flatMap_eq_nil_iff]
  intro row inside
  have apart : row.key ≠ key := fun same => absent (List.mem_map.mpr ⟨row, inside, same⟩)
  exact if_neg apart

/-- What waits for the key of a row is what the row says, if keys are different. -/
theorem pending_of_mem {roll : Roll} (different : roll.keys.Nodup) {row : Row}
    (inside : row ∈ roll.rows) : roll.pending row.key = row.pending := by
  unfold keys at different
  unfold pending
  generalize roll.rows = rows at different inside
  induction rows with
  | nil => cases inside
  | cons first rest ih =>
    obtain ⟨new, others⟩ : first.key ∉ rest.map (·.key) ∧ (rest.map (·.key)).Nodup :=
      List.nodup_cons.mp different
    rw [List.flatMap_cons]
    rcases List.mem_cons.mp inside with same | inside
    · subst same
      have none : rest.flatMap (fun other => if other.key = row.key then other.pending else []) =
          [] := by
        rw [List.flatMap_eq_nil_iff]
        intro other there
        have apart : other.key ≠ row.key :=
          fun same => new (List.mem_map.mpr ⟨other, there, same⟩)
        exact if_neg apart
      rw [if_pos rfl, none, List.append_nil]
    · have apart : first.key ≠ row.key :=
        fun same => new (List.mem_map.mpr ⟨row, inside, same.symm⟩)
      rw [if_neg apart, List.nil_append]
      exact ih others inside

/-- Every key of a roll is the key of a row. -/
theorem exists_row {roll : Roll} {key : Key} (inside : key ∈ roll.keys) :
    ∃ row ∈ roll.rows, row.key = key :=
  List.mem_map.mp inside

/-- The name and the number of a list and the variables of the script are not edited. -/
theorem perform_kept (roll : Roll) (edit : Edit) :
    (roll.perform edit).roll.name = roll.name ∧ (roll.perform edit).roll.id = roll.id ∧
      (roll.perform edit).roll.locals = roll.locals := by
  have remove (position : Nat) : (roll.remove position).roll.name = roll.name ∧
      (roll.remove position).roll.id = roll.id ∧
      (roll.remove position).roll.locals = roll.locals := by
    unfold Roll.remove
    split
    · exact ⟨rfl, rfl, rfl⟩
    · exact ⟨rfl, rfl, rfl⟩
  cases edit with
  | pop | removeAt | findAndRemove => exact remove _
  | _ => exact ⟨rfl, rfl, rfl⟩

/-- A list keeps its name and its number through all edits. -/
theorem after_kept (roll : Roll) (edits : List Edit) :
    (roll.after edits).name = roll.name ∧ (roll.after edits).id = roll.id := by
  induction edits generalizing roll with
  | nil => exact ⟨rfl, rfl⟩
  | cons edit edits ih =>
    obtain ⟨name, id⟩ := ih (roll.perform edit).roll
    obtain ⟨sameName, sameId, _⟩ := roll.perform_kept edit
    exact ⟨name.trans sameName, id.trans sameId⟩

end Roll

end Observables
