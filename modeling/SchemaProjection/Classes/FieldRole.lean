/-
Module: SchemaProjection.Classes.FieldRole
Purpose: What an annotated name is to a record class. It is a field unless its type expression has
  one of three forms: the class-level one, the one of a value that is handed over when an object is
  made, and the one that separates the fields given by keyword only. A form left as text counts as
  well if the name that the text begins with stands for it in the module of the class.
Imports: SchemaProjection.TypeExpr.Basic, SchemaProjection.Text.Words
Main exports: Library, Binding, Scope, FieldRole, Scope.referent?, Scope.role
-/
import SchemaProjection.TypeExpr.Basic
import SchemaProjection.Text.Words

namespace SchemaProjection

/-- The libraries with the forms that matter here: `forms` has the class-level one, `records` the
    two others. -/
inductive Library where
  | forms
  | records
deriving DecidableEq

/-- The form that a library has under a name. -/
def Library.form? : Library → String → Option TypeExpr
  | .forms, "ClassVar" => some .bareClassLevel
  | .records, "InitVar" => some .bareInitial
  | .records, "KW_ONLY" => some .keywordOnly
  | _, _ => none

/-- What a name of a module stands for: one of the libraries, or a type expression. -/
inductive Binding where
  | library (value : Library)
  | expr (value : TypeExpr)

/-- The module that a class is made in: its name, and what the names in it stand for. -/
structure Scope where
  name : String
  bindings : List (String × Binding)

/-- What an annotated name is to a record class. `aside` is a name that the class takes note of
    though it is no field, `separator` one that it takes no note of. -/
inductive FieldRole where
  | field
  | aside
  | separator
deriving DecidableEq, Repr

/-- Whether a type expression is the form that separates the fields given by keyword only. -/
def TypeExpr.isSeparator : TypeExpr → Bool
  | .keywordOnly => true
  | _ => false

namespace Scope

/-- What the name that a text begins with stands for, as far as a library is concerned. A qualified
    name has to go through the library itself; any other is looked up in the module. -/
def referent? (scope : Scope) (library : Library) (source : String) : Option TypeExpr :=
  match Text.leadingName? source.toList with
  | none => none
  | some ⟨some qualifier, word⟩ =>
      match scope.bindings.lookup qualifier with
      | some (.library named) => if named = library then library.form? word else none
      | _ => none
  | some ⟨none, word⟩ =>
      match scope.bindings.lookup word with
      | some (.expr value) => some value
      | _ => none

/-- Whether a type expression is of a form of a library, directly or as a text. -/
def denotes (scope : Scope) (library : Library) (isForm : TypeExpr → Bool) : TypeExpr → Bool
  | .text source => (scope.referent? library source).any isForm
  | expr => isForm expr

/-- The role of a name with a type expression in a record class of the module. -/
def role (scope : Scope) (expr : TypeExpr) : FieldRole :=
  if scope.denotes .records TypeExpr.isSeparator expr then .separator
  else if scope.denotes .forms TypeExpr.isClassLevelForm expr then .aside
  else if scope.denotes .records TypeExpr.isInitialForm expr then .aside
  else .field

/-- In a module with both libraries and the class-level form by its own name, a text may stand for
    each of the three forms; a text about anything else makes a field. -/
example :
    let scope : Scope := ⟨"shop", [("t", .library .forms), ("dc", .library .records),
      ("ClassVar", .expr .bareClassLevel)]⟩
    (["ClassVar[int]", " t . ClassVar", "dc.InitVar[int]", "dc.KW_ONLY", "dc.ClassVar", "int"].map
      fun source => scope.role (.text source)) =
        [.aside, .aside, .aside, .separator, .field, .field] := by
  decide +kernel

end Scope

end SchemaProjection
