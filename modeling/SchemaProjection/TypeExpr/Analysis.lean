/-
Module: SchemaProjection.TypeExpr.Analysis
Purpose: What a type expression says about a property. Marks are taken off at the outside and, below
  an optional, once more; it is optional when its arguments are one type and the class of the empty
  value.
Imports: SchemaProjection.TypeExpr.Basic, SchemaProjection.Fault
Main exports: TypeExpr.splitOptional, Analysis, TypeExpr.analyze, isHiddenField
-/
import SchemaProjection.TypeExpr.Basic
import SchemaProjection.Fault

namespace SchemaProjection

/-!
### Layers
-/

/-- Take the marked layer off a type expression, if there is one. -/
def TypeExpr.unwrap : TypeExpr → TypeExpr × List Metadata
  | .marked inner metadata => (inner, metadata)
  | other => (other, [])

/-- Take the marked layer off an argument, if there is one. -/
def Argument.unwrap : Argument → Argument × List Metadata
  | .expr value => (.expr value.unwrap.1, value.unwrap.2)
  | other => (other, [])

/-- The one argument that is left besides the class of the empty value, when that class was among
    the arguments; otherwise the type expression itself. The flag tells which. -/
def TypeExpr.splitOptional (expr : TypeExpr) : Argument × Bool :=
  match expr.arguments.filter fun argument => !argument.isNothingClass with
  | [only] =>
      if expr.arguments.any Argument.isNothingClass then (only, true)
      else (.expr expr, false)
  | _ => (.expr expr, false)

/-!
### Lists and classes in an argument
-/

namespace Argument

/-- Whether an argument is a list, with or without an element type. -/
def isList : Argument → Bool
  | .expr (.builtin .list) | .expr .bareList | .expr (.generic _ .list _) => true
  | _ => false

/-- The element type of a list, if it names one; the empty value is no element type. -/
def listItem : Argument → Option TypeExpr
  | .expr (.generic _ .list (.nothing :: _)) => none
  | .expr (.generic _ .list (item :: _)) => some item
  | _ => none

/-- Whether an argument is the class-level form with an argument of its own. -/
def isClassLevel : Argument → Bool
  | .expr (.classLevel _) => true
  | _ => false

end Argument

/-!
### Analysis
-/

/-- What a type expression says. `nullable` is what it states about null, if anything; `inner` is
    what is left when marks and the optional are taken off. -/
structure Analysis where
  expr : TypeExpr
  inner : Argument
  nullable : Option Bool
  mandatory : Bool
  metadata : List Metadata
deriving Inhabited

namespace Analysis

/-- Whether the type expression is that of a list. -/
def isList (analysis : Analysis) : Bool := analysis.inner.isList

/-- The element type of a list. -/
def listItem (analysis : Analysis) : Option TypeExpr := analysis.inner.listItem

/-- Whether the type expression is that of a class-level name. -/
def isClassLevel (analysis : Analysis) : Bool := analysis.inner.isClassLevel

end Analysis

/-- Take a type expression apart. It may not be marked never null and be optional as well. -/
def TypeExpr.analyze (expr : TypeExpr) : Except Fault Analysis :=
  let (outside, outerMetadata) := expr.unwrap
  let (below, optional) := outside.splitOptional
  let (inner, innerMetadata) := below.unwrap
  let metadata := outerMetadata ++ innerMetadata
  let notNull := metadata.contains (.marker .notNull)
  if optional && notNull then .error (.conflictingNullability expr)
  else
    .ok {
      expr, inner, metadata
      nullable := if optional then some true else if notNull then some false else none
      mandatory := metadata.contains (.marker .mandatory) }

/-- Whether a field is kept out of the properties: by a name that begins with an underscore, or by
    being class-level. -/
def isHiddenField (name : String) (expr : TypeExpr) : Except Fault Bool :=
  if name.toList.head? = some '_' then .ok true
  else return (← expr.analyze).isClassLevel

end SchemaProjection
