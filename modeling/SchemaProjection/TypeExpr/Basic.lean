/-
Module: SchemaProjection.TypeExpr.Basic
Purpose: Type expressions, with which a class annotates its fields, and the arguments of a type
  expression, which decide whether it is read as optional. A type expression is plain data here; how
  one is put together is in `SchemaProjection.TypeExpr.Formation`.
Imports: SchemaProjection.Datum
Main exports: ClassRef, Builtin, Style, Shape, Object, Value, Metadata, TypeExpr, Argument,
  TypeExpr.arguments, Argument.unhashable?
-/
import SchemaProjection.Datum

namespace SchemaProjection

/-- A reference to a class of a table: which class it is, and the name and the module it was made
    under. Two classes of one name stay apart by their numbers. -/
structure ClassRef where
  id : Nat
  name : String
  module : String
deriving DecidableEq, Repr, Inhabited

/-- The classes that exist before any declaration. `nothing` is the class of the empty value and
    `anything` the class that admits every value. -/
inductive Builtin where
  | integer
  | real
  | string
  | boolean
  | bytes
  | complex
  | object
  | list
  | dictionary
  | nothing
  | anything
deriving DecidableEq, Repr, Inhabited

/-- How a generic or a union was put together. A plain form belongs to the classes themselves, a
    qualified one to the vocabulary of type expressions. -/
inductive Style where
  | plain
  | qualified
deriving DecidableEq, Repr, Inhabited

/-- The generic forms that take arguments: the collections, and any other form under the name that
    it is written with. -/
inductive Shape where
  | list
  | set
  | tuple
  | dictionary
  | named (name : String)
deriving DecidableEq, Repr, Inhabited

/-- The marks that the reading of a type expression heeds: `notNull` states that a property is never
    null, `mandatory` that it is always present. -/
inductive Marker where
  | notNull
  | mandatory
deriving DecidableEq, Repr, Inhabited

/-- An object that nothing is known of but how it is shown and whether it can be hashed; if it
    cannot, `unhashable` names the type that this fails for. Objects that count as equal share their
    number. -/
structure Object where
  number : Nat
  shown : String
  unhashable : Option String
deriving DecidableEq, Repr, Inhabited

/-- A value inside of a type expression: a constant, or any other object. -/
inductive Value where
  | constant (value : Constant)
  | object (value : Object)
deriving DecidableEq, Repr, Inhabited

/-- What may be attached to a type expression: a mark, or a value that the reading ignores. -/
inductive Metadata where
  | marker (mark : Marker)
  | value (held : Value)
deriving DecidableEq, Repr, Inhabited

/-- A type expression. `nothing` is the empty value standing for a type, `text` an expression that
    was left as text, and `forward` such a text after it entered a qualified form. The parameters of
    a `callable` are listed; one whose parameters are left open, by an ellipsis or by a variable, is
    a generic form. `object` is any object without arguments, such as a variable. The forms
    `initial` and `keywordOnly` stand on names of a record class that are no fields. -/
inductive TypeExpr where
  | builtin (type : Builtin)
  | reference (target : ClassRef)
  | bareList
  | bareClassLevel
  | bareInitial
  | keywordOnly
  | ellipsis
  | nothing
  | text (source : String)
  | forward (source : String)
  | object (value : Object)
  | generic (style : Style) (shape : Shape) (arguments : List TypeExpr)
  | union (style : Style) (members : List TypeExpr)
  | marked (inner : TypeExpr) (metadata : List Metadata)
  | classLevel (inner : TypeExpr)
  | initial (inner : TypeExpr)
  | literal (values : List Value)
  | callable (style : Style) (parameters : List TypeExpr) (result : TypeExpr)
deriving Inhabited

/-- An argument of a type expression: mostly a type expression again, but also the list of
    parameters of a callable, or what may be attached as metadata. -/
inductive Argument where
  | expr (value : TypeExpr)
  | parameters (values : List TypeExpr)
  | metadata (value : Metadata)
deriving Inhabited

namespace TypeExpr

/-- Whether a type expression is the class of the empty value. -/
def isNothingClass : TypeExpr → Bool
  | .builtin .nothing => true
  | _ => false

/-- Whether a type expression is the class-level form, bare or with an argument, at the outermost
    layer. -/
def isClassLevelForm : TypeExpr → Bool
  | .bareClassLevel | .classLevel _ => true
  | _ => false

/-- Whether a type expression is the form of a value that is handed over when an object is made,
    bare or with an argument, at the outermost layer. -/
def isInitialForm : TypeExpr → Bool
  | .bareInitial | .initial _ => true
  | _ => false

/-- The arguments of a type expression in order. A union has its members, a callable its parameters
    as one argument and then its result, and a marked one its inner type expression followed by the
    metadata. What is handed over when an object is made counts as a form without arguments. -/
def arguments : TypeExpr → List Argument
  | .generic _ _ values => values.map .expr
  | .union _ members => members.map .expr
  | .marked inner metadata => .expr inner :: metadata.map .metadata
  | .classLevel inner => [.expr inner]
  | .literal values => values.map fun value => .metadata (.value value)
  | .callable _ parameters result => [.parameters parameters, .expr result]
  | _ => []

end TypeExpr

/-- Whether an argument is the class of the empty value. -/
def Argument.isNothingClass : Argument → Bool
  | .expr value => value.isNothingClass
  | _ => false

/-!
### What cannot be hashed

To hash a type expression is to hash its parts in order, and it fails on the first part that cannot
be hashed, for the type of that part.
-/

/-- The name of the type that hashing a value fails for. -/
def Value.unhashable? : Value → Option String
  | .constant _ => none
  | .object other => other.unhashable

/-- The name of the type that hashing a piece of metadata fails for. -/
def Metadata.unhashable? : Metadata → Option String
  | .marker _ => none
  | .value held => held.unhashable?

namespace TypeExpr

mutual

/-- The name of the type of the first part of a type expression that cannot be hashed, if there is
    such a part. What is handed over when an object is made is hashed without its argument. -/
def unhashable? : TypeExpr → Option String
  | .object value => value.unhashable
  | .generic _ _ values => firstUnhashable? values
  | .union _ members => firstUnhashable? members
  | .marked inner metadata => inner.unhashable?.or (metadata.findSome? Metadata.unhashable?)
  | .classLevel inner => inner.unhashable?
  | .literal values => values.findSome? Value.unhashable?
  | .callable _ parameters result => (firstUnhashable? parameters).or result.unhashable?
  | _ => none

/-- The name of the type of the first part of some type expressions that cannot be hashed. -/
def firstUnhashable? : List TypeExpr → Option String
  | [] => none
  | value :: values => value.unhashable?.or (firstUnhashable? values)

end

end TypeExpr

/-- The name of the type of the first part of an argument that cannot be hashed. The parameters of a
    callable are one list, and a list cannot be hashed, whatever its items are. -/
def Argument.unhashable? : Argument → Option String
  | .expr value => value.unhashable?
  | .parameters _ => some "list"
  | .metadata value => value.unhashable?

end SchemaProjection
