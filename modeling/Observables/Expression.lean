import Observables.Value
import Observables.Table

/-!
# Expressions

Expressions compute values from variables and from what containers hold at
that moment. They have no effect. An operator is applied to the value of its
operand, however that was computed; where it combines several parts, they are
the items of a list. Whatever does not fit an operator gives null, so every
expression has a value.
-/

namespace Observables

/-- The variables of a script, by name. -/
abbrev Variables := Directory Value

/-- Operators on two integers. -/
inductive Arithmetic where
  /-- Sum. -/
  | add
  /-- Product. -/
  | multiply
  /-- Remainder that is never negative. -/
  | remainder
  deriving Repr, DecidableEq

/-- The remainder of division by zero is null; other operators are total. A
result that is out of range is null. -/
def Arithmetic.calculate : Arithmetic → Int → Int → Value
  | .add, left, right => .ofInteger (left + right)
  | .multiply, left, right => .ofInteger (left * right)
  | .remainder, left, right => if right = 0 then .null else .ofInteger (left % right)

/-- What can be done with the value of an operand. -/
inductive Operator where
  /-- Arithmetic on the two integers of a list. -/
  | arithmetic (rule : Arithmetic)
  /-- Structural equality of the two items of a list. -/
  | equal
  /-- Comparison of the two integers of a list. -/
  | less
  /-- Negation of truth. -/
  | not
  /-- All items of a list are truthy. -/
  | all
  /-- Some item of a list is truthy. -/
  | any
  /-- The number of items of a list. -/
  | length
  /-- The item of a list at a position; the operand is the pair of them. -/
  | item
  /-- Two lists one after the other; the operand is the pair of them. -/
  | append
  /-- A list backwards. -/
  | reverse
  /-- A text joined from the items of a list. -/
  | join
  deriving Repr, DecidableEq

/-- Apply an operator. What does not fit is null, except that whatever is not
a pair of integers does not compare as less. -/
def Operator.apply : Operator → Value → Value
  | .arithmetic rule, .list [.int left, .int right] => rule.calculate left right
  | .equal, .list [left, right] => .bool (left.same right)
  | .less, .list [.int left, .int right] => .bool (left < right)
  | .less, _ => .bool false
  | .not, operand => .bool (!operand.truthy)
  | .all, .list items => .bool (items.all Value.truthy)
  | .any, .list items => .bool (items.any Value.truthy)
  | .length, .list items => .nat items.length
  | .item, .list [.list items, .int (.ofNat position)] => (items[position]?).getD .null
  | .append, .list [.list left, .list right] => .list (left ++ right)
  | .reverse, .list items => .list items.reverse
  | .join, .list items => .text (String.join (items.map Value.joined))
  | _, _ => .null

/-- A description of how to compute a value. -/
inductive Expression where
  /-- A value that is written out. -/
  | literal (value : Value)
  /-- A list of the values of its parts. -/
  | list (parts : List Expression)
  /-- The value of a variable. -/
  | variable (name : String)
  /-- What the container holds that the value of a part names. -/
  | held (name : Expression)
  /-- An operator applied to the value of an operand. -/
  | apply (operator : Operator) (operand : Expression)
  /-- The value of the body for each item of a list. -/
  | map (list : Expression) (name : String) (body : Expression)
  deriving Inhabited

namespace Expression

/-- Compute the value of an expression. -/
def evaluate (held : String → Value) (locals : Variables) : Expression → Value
  | .literal value => value
  | .list parts => .list (evaluateAll held locals parts)
  | .variable name => (locals.find? name).getD .null
  | .held name => held (name.evaluate held locals).joined
  | .apply operator operand => operator.apply (operand.evaluate held locals)
  | .map items name body =>
    match items.evaluate held locals with
    | .list items =>
      .list (items.map fun item => body.evaluate held (locals.insert name item))
    | _ => .null
where
  /-- Compute the values of several expressions. -/
  evaluateAll (held : String → Value) (locals : Variables) :
      List Expression → List Value
    | [] => []
    | part :: parts => part.evaluate held locals :: evaluateAll held locals parts

end Expression

end Observables
