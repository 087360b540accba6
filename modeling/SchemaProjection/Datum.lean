/-
Module: SchemaProjection.Datum
Purpose: Plain data, which may stand for a declaration, a literal or the metadata of a type
  expression, and the two ways in which it is written: bare, where a text is itself, and shown,
  where a text is quoted.
Imports: SchemaProjection.Text.Quoted
Main exports: Constant, Constant.shown, Constant.bare, Datum, Datum.shown
-/
import SchemaProjection.Text.Quoted

namespace SchemaProjection

/-- A constant: a text, an integer, a truth value, or the value that stands for nothing. -/
inductive Constant where
  | text (value : String)
  | integer (value : Int)
  | boolean (value : Bool)
  | nothing
deriving DecidableEq, Repr, Inhabited

namespace Constant

/-- A constant as it is written inside another form, where a text is quoted. -/
def shown : Constant → String
  | .text value => Text.quoted value
  | .integer value => toString value
  | .boolean true => "True"
  | .boolean false => "False"
  | .nothing => "None"

/-- A constant written by itself: a text is its own characters. -/
def bare : Constant → String
  | .text value => value
  | other => other.shown

/-- The number that a constant counts as: a truth value is worth one or zero. -/
def number? : Constant → Option Int
  | .integer value => some value
  | .boolean value => some (if value then 1 else 0)
  | _ => none

/-- Whether two constants have the same value, numbers and truth values being one kind. -/
def sameValue (a b : Constant) : Bool :=
  match a.number?, b.number? with
  | some m, some n => m == n
  | none, none => a == b
  | _, _ => false

end Constant

/-- Plain data: a constant, a list, or a table of named entries in the order in which they came. -/
inductive Datum where
  | constant (value : Constant)
  | list (items : List Datum)
  | table (entries : List (String × Datum))
deriving Inhabited

mutual

/-- Data as it is written in a message. -/
def Datum.shown : Datum → String
  | .constant value => value.shown
  | .list items => "[" ++ ", ".intercalate (Datum.shownItems items) ++ "]"
  | .table entries => "\x7b" ++ ", ".intercalate (Datum.shownEntries entries) ++ "\x7d"

/-- The items of a list, each as it is written. -/
def Datum.shownItems : List Datum → List String
  | [] => []
  | item :: items => item.shown :: Datum.shownItems items

/-- The entries of a table, each with its quoted name before it. -/
def Datum.shownEntries : List (String × Datum) → List String
  | [] => []
  | entry :: entries => Datum.shownEntry entry :: Datum.shownEntries entries

/-- One entry of a table. -/
def Datum.shownEntry : String × Datum → String
  | (name, value) => Text.quoted name ++ ": " ++ value.shown

end

end SchemaProjection
