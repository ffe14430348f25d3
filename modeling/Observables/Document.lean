import Observables.Text.Compact

/-!
# Documents

Requests and answers are documents: trees of null, truth values, integers,
texts, lists and records with named fields. A document has a compact written
form without blanks.
-/

namespace Observables

/-- A tree of data with named fields. -/
inductive Document where
  /-- Nothing. -/
  | null
  /-- A truth value. -/
  | bool (value : Bool)
  /-- An integer. -/
  | int (value : Int)
  /-- A text. -/
  | text (value : String)
  /-- Documents in order. -/
  | list (entries : List Document)
  /-- Documents under field names. -/
  | record (fields : List (String × Document))
  deriving Inhabited

namespace Document

/-- A natural number as a document. -/
def nat (value : Nat) : Document := .int value

/-- What is there, or null. -/
def optional {α : Type} (write : α → Document) : Option α → Document
  | none => .null
  | some value => write value

/-- The field of a record. Other documents have no fields. -/
def field? : Document → String → Option Document
  | .record fields, name => fields.lookup name
  | _, _ => none

/-- The field of a record, null where it has none. -/
def field (document : Document) (name : String) : Document :=
  (document.field? name).getD .null

/-- The entries of a list. -/
def entries? : Document → Option (List Document)
  | .list entries => some entries
  | _ => none

/-- The entries of a list; other documents have none. -/
def entries (document : Document) : List Document := document.entries?.getD []

/-- The text, if the document is one. -/
def text? : Document → Option String
  | .text value => some value
  | _ => none

/-- The number, if the document is an integer that is not negative. -/
def nat? : Document → Option Nat
  | .int (.ofNat value) => some value
  | _ => none

/-- The compact written form. -/
def compact : Document → String
  | .null => "null"
  | .bool true => "true"
  | .bool false => "false"
  | .int value => toString value
  | .text value => Text.compact value
  | .list entries => "[" ++ compactEntries entries ++ "]"
  | .record fields => "\x7b" ++ compactFields fields ++ "\x7d"
where
  /-- Entries with commas between them. -/
  compactEntries : List Document → String
    | [] => ""
    | [entry] => compact entry
    | entry :: rest => compact entry ++ "," ++ compactEntries rest
  /-- Named fields with commas between them. -/
  compactFields : List (String × Document) → String
    | [] => ""
    | [(name, document)] => Text.compact name ++ ":" ++ compact document
    | (name, document) :: rest =>
      Text.compact name ++ ":" ++ compact document ++ "," ++ compactFields rest

end Document

end Observables
