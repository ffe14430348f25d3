import Observables.Script.Action

/-!
# Reading scripts from documents

Every part of a document is read once, bottom up, in each of the ways in
which a script may use it: as plain data, as an expression, as an action and
as a list of parts. A record with one field is an expression if the field is
an operator; a record with a field `do` is an action. Whatever has no meaning
in its place reads as null or as an action that no container knows.
-/

namespace Observables.Script

/-- A document together with all that it can mean in a script. -/
structure Reading where
  /-- The document itself. -/
  document : Document
  /-- The expression that it stands for. -/
  expression : Expression
  /-- The action that it stands for. -/
  action : Action
  /-- The readings of the entries, if the document is a list. -/
  parts : Option (List Reading)
  /-- The readings of the fields, if the document is a record. -/
  fields : List (String × Reading)

namespace Reading

/-- The expression that is null. -/
def nullExpression : Expression := .literal .null

/-- An action that no container knows. -/
def unknownAction : Action := ⟨"", none, none, .operate .unknown⟩

/-- A document that stands for a value and for no action. -/
def ofValue (document : Document) (value : Value) : Reading :=
  ⟨document, .literal value, unknownAction, none, []⟩

/-- The actions of the entries: the document read as a body. -/
def body (reading : Reading) : List Action :=
  (reading.parts.getD []).map (·.action)

/-- The operator of a name. -/
def operator? : String → Option Operator
  | "add" => some (.arithmetic .add)
  | "mul" => some (.arithmetic .multiply)
  | "mod" => some (.arithmetic .remainder)
  | "eq" => some .equal
  | "lt" => some .less
  | "not" => some .not
  | "and" => some .all
  | "or" => some .any
  | "len" => some .length
  | "at" => some .item
  | "app" => some .append
  | "rev" => some .reverse
  | "cat" => some .join
  | _ => none

/-- The expression that a record of one field stands for. -/
def application (name : String) (operand : Reading) : Expression :=
  match name with
  | "var" => (operand.document.text?.map Expression.variable).getD nullExpression
  | "undef" => .literal .undefined
  | "get" => .held operand.expression
  | "map" =>
    match operand.parts with
    | some [items, name, body] =>
      (name.document.text?.map fun name => .map items.expression name body.expression).getD
        nullExpression
    | _ => nullExpression
  | _ => ((operator? name).map (.apply · operand.expression)).getD nullExpression

/-- The expression that a record stands for. -/
def ofFields (fields : List (String × Reading)) : Expression :=
  match fields with
  | [(name, operand)] => application name operand
  | _ => nullExpression

end Reading

/-- The fields of an action, with their readings. -/
abbrev Fields := List (String × Reading)

namespace Fields

/-- The expression of a field, if there is such a field. -/
def expression? (fields : Fields) (name : String) : Option Expression :=
  (fields.lookup name).map (·.expression)

/-- The expression of a field; null where it is absent. -/
def expression (fields : Fields) (name : String) : Expression :=
  (fields.expression? name).getD Reading.nullExpression

/-- The body of a field; empty where it is absent. -/
def body (fields : Fields) (name : String) : List Action :=
  ((fields.lookup name).map (·.body)).getD []

/-- The text of a field. -/
def text? (fields : Fields) (name : String) : Option String :=
  (fields.lookup name).bind (·.document.text?)

/-- The number of a field. -/
def nat? (fields : Fields) (name : String) : Option Nat :=
  (fields.lookup name).bind (·.document.nat?)

/-- A field is present. -/
def has (fields : Fields) (name : String) : Bool := (fields.lookup name).isSome

/-- The realm that an action names, if it names one. -/
def realm (fields : Fields) : Option Expression := fields.expression? "rt"

/-- The tag of a callback; empty where it is absent. -/
def tag (fields : Fields) : Expression :=
  (fields.expression? "as").getD (.literal (.text ""))

/-- The channel of a subscription. -/
def channel (fields : Fields) : Option Channel :=
  match fields.text? "ch" with
  | none => some .change
  | some "change" => some .change
  | some "add" => some .added
  | some "remove" => some .removed
  | some _ => none

/-- The operation that the name of an action stands for. -/
def operation (fields : Fields) (verb : String) : Operation (List Action) :=
  match verb with
  | "get" => .get
  | "observe_get" => .observe
  | "with" => .borrow (fields.body "body") (fields.expression "ret")
  | "set" => .set (fields.body "body") (fields.expression "fn")
  | "subscribe" => .subscribe fields.tag fields.channel (fields.body "body")
  | "subscriber_count" => .subscriberCount
  | "debug" => .describe
  | "id" => .id
  | "len" => .length
  | "is_empty" => .isEmpty
  | "keys" => .keys
  | "key_at" => .keyAt (fields.expression "pos")
  | "position_of" => .positionOf (fields.expression "key")
  | "push" => .push (fields.expression "item")
  | "insert_at" => .insertAt (fields.expression "pos") (fields.expression "item")
  | "pop" => .pop
  | "remove_at" => .removeAt (fields.expression "pos")
  | "find_and_remove" => .findAndRemove (fields.body "body") (fields.expression "pred")
  | "is_state" => .holdsValue
  | "is_list_state" => .holdsElements
  | _ => .unknown

/-- The command that the name of an action stands for. -/
def command (fields : Fields) (verb : String) : Command (List Action) :=
  match verb with
  | "log" => .log (fields.expression "v")
  | "eval" => .evaluate (fields.expression "v")
  | "throw" => .throw (fields.expression "v")
  | "if" => .branch (fields.expression "cond") (fields.body "then") (fields.body "else")
  | "limit" => .limit (fields.expression "id") ((fields.nat? "n").getD 1) (fields.body "body")
  | "try" => .attempt (fields.body "body")
  | "runtime" =>
    if fields.has "default" then .openRealm (fields.expression "name") none 0
    else
      .openRealm (fields.expression "name") (fields.text? "label")
        ((fields.nat? "first_id").getD 0)
  | "same_runtime" => .sameRealm (fields.expression "a") (fields.expression "b")
  | "label" => .realm fields.realm .label
  | "next_sub_id" => .realm fields.realm .nextSubscription
  | "next_container_id" => .realm fields.realm .nextContainer
  | "tracked" => .realm fields.realm .tracked
  | "debug_runtime" => .realm fields.realm .describe
  | "active_key" => .realm fields.realm .activeKey
  | "pending" => .pending fields.realm (fields.expression "key")
  | "run_teardowns" => .runTeardowns fields.realm (fields.expression "key")
  | "with_key" => .withKey fields.realm (fields.expression "key") (fields.body "body")
  | "register" =>
    if fields.has "js" then .register fields.realm fields.tag .shielded (fields.body "body")
    else .register fields.realm fields.tag .direct (fields.body "body")
  | "unsub" => .handle (fields.expression "h") .unsubscribe
  | "handle_id" => .handle (fields.expression "h") .id
  | "debug_handle" => .handle (fields.expression "h") .describe
  | "drop_handle" => .handle (fields.expression "h") .forget
  | "state" =>
    .makeCell (fields.expression "name") (fields.expression "value") fields.realm .direct
  | "list" =>
    .makeList (fields.expression "name") (fields.expression "value") fields.realm .direct
  | "js_state" =>
    .makeCell (fields.expression "name") (fields.expression "value") none .shielded
  | "js_list" =>
    .makeList (fields.expression "name") (fields.expression "value") none .shielded
  | "drop" => .drop (fields.expression "name")
  | "alias" => .alias (fields.expression "name")
  | _ => .operate (fields.operation verb)

/-- The action that a record stands for. -/
def action (fields : Fields) : Action :=
  let verb := (fields.text? "do").getD ""
  ⟨verb, fields.text? "to", fields.expression? "on", fields.command verb⟩

end Fields

/-- Read a document in all its meanings. -/
def read : Document → Reading
  | .null => .ofValue .null .null
  | .bool value => .ofValue (.bool value) (.bool value)
  | .int value => .ofValue (.int value) (.int value)
  | .text value => .ofValue (.text value) (.text value)
  | .list entries =>
    let parts := readAll entries
    ⟨.list entries, .list (parts.map (·.expression)), Reading.unknownAction, some parts, []⟩
  | .record fields =>
    let readings := readFields fields
    ⟨.record fields, Reading.ofFields readings, Fields.action readings, none, readings⟩
where
  /-- Read the entries of a list. -/
  readAll : List Document → List Reading
    | [] => []
    | entry :: entries => read entry :: readAll entries
  /-- Read the fields of a record. -/
  readFields : List (String × Document) → List (String × Reading)
    | [] => []
    | (name, document) :: fields => (name, read document) :: readFields fields

/-- Read a document as an expression. -/
def readExpression (document : Document) : Expression := (read document).expression

/-- Read a list of documents as actions. -/
def readActions (documents : List Document) : List Action :=
  documents.map fun document => (read document).action

end Observables.Script
