import Observables.Proofs.Moment
import Mathlib.Data.List.Forall2

/-!
# Scripts for a direct list and for a shielded one

The same work can be done on a direct list and on a shielded one, but some
answers have different forms: a removed element comes in a list or bare, and
numbers of subscriptions are told or kept back. Two scripts correspond if they
perform the same actions in the same order and their expressions have the same
values, provided that their variables keep corresponding answers. A variable
that keeps answers of different forms has to be read differently in the two
scripts; all others can be read alike.
-/

namespace Observables

open Script

/-- How the answers of an operation on a direct list compare to those of the same operation on
a shielded one. -/
inductive Form where
  /-- They are the same. -/
  | same
  /-- An element or none. -/
  | element
  /-- What concerns a subscription, which a shielded list keeps to itself. -/
  | token
  deriving DecidableEq

namespace Form

/-- A direct answer and the shielded one that corresponds to it. -/
inductive Answers : Form → Reply → Reply → Prop where
  /-- Both answer the same. -/
  | same (reply : Reply) : Answers .same reply reply
  /-- An element was found. -/
  | found (item : Value) :
      Answers .element (.value (Surface.direct.found item)) (.value (Surface.shielded.found item))
  /-- No element was found. -/
  | notFound :
      Answers .element (.value Surface.direct.notFound) (.value Surface.shielded.notFound)
  /-- A subscription has been made. -/
  | subscribed (id : Nat) : Answers .token (.value (.nat id)) (.value .null)
  /-- A subscription has been ended, or there was none. -/
  | ended (found : Bool) : Answers .token (.value (.bool found)) (.value .undefined)

/-- What variables keep of corresponding answers. -/
inductive Keeps : Form → Value → Value → Prop where
  /-- Both keep the same. -/
  | same (value : Value) : Keeps .same value value
  /-- An element. -/
  | found (item : Value) : Keeps .element (.list [item]) item
  /-- No element. -/
  | notFound : Keeps .element (.list []) .null
  /-- What concerns a subscription. -/
  | token (direct shielded : Value) : Keeps .token direct shielded

/-- Variables keep corresponding answers. -/
theorem Answers.kept {form : Form} {direct shielded : Reply}
    (answers : form.Answers direct shielded) : form.Keeps direct.kept shielded.kept := by
  cases answers with
  | same reply => exact .same _
  | found item => exact .found item.plain
  | notFound => exact .notFound
  | subscribed id => exact .token _ _
  | ended found => exact .token _ _

end Form

namespace Script

/-- An operation that carries no expressions and no bodies. -/
def Operation.isBare {Body : Type} : Operation Body → Bool
  | .get | .observe | .subscriberCount | .describe | .id | .length | .isEmpty | .keys | .pop
  | .holdsValue | .holdsElements | .unknown => true
  | _ => false

section

variable {Body : Type} (reads : Expression → Expression → Prop) (runs : Body → Body → Prop)

/-- Two operations are the same but for expressions and bodies, which correspond. -/
inductive Operation.Matches : Operation Body → Operation Body → Prop where
  | bare {operation : Operation Body} (bare : operation.isBare = true) :
      Matches operation operation
  | borrow {body other answer reply} (same : runs body other) (alike : reads answer reply) :
      Matches (.borrow body answer) (.borrow other reply)
  | set {body other answer reply} (same : runs body other) (alike : reads answer reply) :
      Matches (.set body answer) (.set other reply)
  | subscribe {tag name channel body other} (alike : reads tag name) (same : runs body other) :
      Matches (.subscribe tag channel body) (.subscribe name channel other)
  | keyAt {position place} (alike : reads position place) :
      Matches (.keyAt position) (.keyAt place)
  | positionOf {key other} (alike : reads key other) :
      Matches (.positionOf key) (.positionOf other)
  | push {item other} (alike : reads item other) : Matches (.push item) (.push other)
  | insertAt {position place item other} (there : reads position place)
      (alike : reads item other) : Matches (.insertAt position item) (.insertAt place other)
  | removeAt {position place} (alike : reads position place) :
      Matches (.removeAt position) (.removeAt place)
  | findAndRemove {body other answer reply} (same : runs body other)
      (alike : reads answer reply) :
      Matches (.findAndRemove body answer) (.findAndRemove other reply)

/-- Two commands are the same but for expressions and bodies, which correspond. A teardown that
is registered in the current realm may be direct for the one and shielded for the other. -/
inductive Command.Matches : Command Body → Command Body → Prop where
  | log {value other} (alike : reads value other) : Matches (.log value) (.log other)
  | evaluate {value other} (alike : reads value other) :
      Matches (.evaluate value) (.evaluate other)
  | throw {value other} (alike : reads value other) : Matches (.throw value) (.throw other)
  | branch {condition other yes no left right} (alike : reads condition other)
      (first : runs yes left) (second : runs no right) :
      Matches (.branch condition yes no) (.branch other left right)
  | limit {id other times body second} (alike : reads id other) (same : runs body second) :
      Matches (.limit id times body) (.limit other times second)
  | attempt {body other} (same : runs body other) : Matches (.attempt body) (.attempt other)
  | openRealm {name other label firstId} (alike : reads name other) :
      Matches (.openRealm name label firstId) (.openRealm other label firstId)
  | sameRealm {left right first second} (one : reads left first) (two : reads right second) :
      Matches (.sameRealm left right) (.sameRealm first second)
  | realm {realm other query} (alike : Option.Rel reads realm other) :
      Matches (.realm realm query) (.realm other query)
  | pending {realm other key name} (there : Option.Rel reads realm other)
      (alike : reads key name) : Matches (.pending realm key) (.pending other name)
  | runTeardowns {realm other key name} (there : Option.Rel reads realm other)
      (alike : reads key name) : Matches (.runTeardowns realm key) (.runTeardowns other name)
  | withKey {realm other key name body second} (there : Option.Rel reads realm other)
      (alike : reads key name) (same : runs body second) :
      Matches (.withKey realm key body) (.withKey other name second)
  | register {realm other tag name surface body second} (there : Option.Rel reads realm other)
      (alike : reads tag name) (same : runs body second) :
      Matches (.register realm tag surface body) (.register other name surface second)
  | registerCurrent {tag name body second} (alike : reads tag name) (same : runs body second) :
      Matches (.register none tag .direct body) (.register none name .shielded second)
  | handle {handle other query} (alike : reads handle other) :
      Matches (.handle handle query) (.handle other query)
  | makeCell {name other value second realm third surface} (named : reads name other)
      (alike : reads value second) (there : Option.Rel reads realm third) :
      Matches (.makeCell name value realm surface) (.makeCell other second third surface)
  | makeList {name other value second realm third surface} (named : reads name other)
      (alike : reads value second) (there : Option.Rel reads realm third) :
      Matches (.makeList name value realm surface) (.makeList other second third surface)
  | drop {name other} (alike : reads name other) : Matches (.drop name) (.drop other)
  | alias {name other} (alike : reads name other) : Matches (.alias name) (.alias other)
  | operate {operation other} (same : Operation.Matches reads runs operation other) :
      Matches (.operate operation) (.operate other)

end

end Script

/-- A list that is direct in one run and shielded in another, with the form of the answers that
each variable keeps. What callbacks are given is the same in both. -/
structure Port where
  /-- The list. -/
  list : ContainerRef
  /-- The form of the answers that a variable keeps. -/
  form : String → Form
  /-- Arguments of callbacks, setters and predicates have the same form. -/
  given : ∀ name ∈ ["v", "item", "pos", "key", "x"], form name = .same

namespace Port

variable (port : Port)

/-- Variables of the two scripts keep corresponding answers under the same names. -/
def Locals (left right : Variables) : Prop :=
  ∀ name, Option.Rel (port.form name).Keeps (left.find? name) (right.find? name)

/-- Two expressions have the same value wherever variables correspond. -/
def Reads (left right : Expression) : Prop :=
  ∀ held locals others, port.Locals locals others →
    left.evaluate held locals = right.evaluate held others

/-- Two actions correspond: they are called the same, keep their answers in the same variable
and do the same. -/
inductive Acts : Action → Action → Prop where
  | intro {verb result subject name command other} (named : Option.Rel port.Reads subject name)
      (does : command.Matches port.Reads (List.Forall₂ Acts) other) :
      Acts ⟨verb, result, subject, command⟩ ⟨verb, result, name, other⟩

/-- Two bodies correspond action by action. -/
def Bodies : List Action → List Action → Prop := List.Forall₂ port.Acts

variable {port}

/-- A variable is written in both scripts. -/
theorem Locals.insert {left right : Variables} (locals : port.Locals left right) {name : String}
    {value other : Value} (keeps : (port.form name).Keeps value other) :
    port.Locals (left.insert name value) (right.insert name other) := by
  intro asked
  rw [Directory.find?_insert, Directory.find?_insert]
  by_cases same : asked = name
  · rw [if_pos same, if_pos same, same]
    exact .some keeps
  · rw [if_neg same, if_neg same]
    exact locals asked

/-- The same arguments are given to both scripts. -/
theorem Locals.insertAll {left right : Variables} (locals : port.Locals left right)
    {arguments : List (String × Value)}
    (given : ∀ argument ∈ arguments, port.form argument.1 = .same) :
    port.Locals (left.insertAll arguments) (right.insertAll arguments) := by
  induction arguments generalizing left right with
  | nil => exact locals
  | cons argument arguments ih =>
    have first : (port.form argument.1).Keeps argument.2 argument.2 := by
      rw [given argument List.mem_cons_self]
      exact .same _
    exact ih (locals.insert first) fun other inside => given other (List.mem_cons_of_mem _ inside)

namespace Reads

/-- What is written out reads alike. -/
theorem literal (value : Value) : port.Reads (.literal value) (.literal value) :=
  fun _ _ _ _ => rfl

/-- A variable that keeps the same in both scripts reads alike. -/
theorem kept {name : String} (same : port.form name = .same) :
    port.Reads (.variable name) (.variable name) := by
  intro held locals others keeps
  have kept := keeps name
  rw [same] at kept
  show (locals.find? name).getD .null = (others.find? name).getD .null
  match locals.find? name, others.find? name, kept with
  | _, _, .none => rfl
  | _, _, .some (.same value) => rfl

/-- The element that a variable keeps is the first item of what a direct list answers. -/
theorem element {name : String} (found : port.form name = .element) :
    port.Reads (.apply .item (.list [.variable name, .literal (.nat 0)])) (.variable name) := by
  intro held locals others keeps
  have kept := keeps name
  rw [found] at kept
  show Operator.item.apply (.list [(locals.find? name).getD .null, .nat 0]) =
    (others.find? name).getD .null
  match locals.find? name, others.find? name, kept with
  | _, _, .none => rfl
  | _, _, .some (.found item) => rfl
  | _, _, .some .notFound => rfl

/-- Operators are applied to operands that read alike. -/
theorem apply {operand other : Expression} (reads : port.Reads operand other)
    (operator : Operator) : port.Reads (.apply operator operand) (.apply operator other) :=
  fun held locals others keeps => congrArg operator.apply (reads held locals others keeps)

/-- Two parts that read alike make a pair that does. -/
theorem pair {first second left right : Expression} (one : port.Reads first left)
    (two : port.Reads second right) :
    port.Reads (.list [first, second]) (.list [left, right]) := by
  intro held locals others keeps
  have here := one held locals others keeps
  have there := two held locals others keeps
  simp only [Expression.evaluate, Expression.evaluate.evaluateAll, here, there]

end Reads

end Port

end Observables
