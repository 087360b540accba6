/-
Module: SchemaProjection.Fault
Purpose: Everything that can go wrong, one constructor for each cause, with the category and the
  message of each. The categories of this library are those of a declaration, of a lookup and of a
  value; the remaining ones stand for a refusal that comes from outside of it.
Imports: SchemaProjection.TypeExpr.Text
Main exports: Fault, Fault.category, Fault.message, Category.isLibrary
-/
import SchemaProjection.TypeExpr.Text

namespace SchemaProjection

/-- The cause of a refusal. -/
inductive Fault where
  /-- A list whose type expression names no element type. -/
  | bareList
  /-- A type expression outside of the supported forms. -/
  | unsupported (expr : TypeExpr)
  /-- A declaration mark on something that is not a record class. -/
  | recordRequired (mark : String)
  /-- A build of something that carries no declaration of its own. -/
  | undeclared (name : String)
  /-- A declared class used as the type of a property. -/
  | declaredReference (name : String)
  /-- A type expression that is marked never null and admits the empty value. -/
  | conflictingNullability (expr : TypeExpr)
  /-- An inline structure met again while its own fields are read. -/
  | recursiveStructure (name : String)
  /-- A list element marked mandatory. -/
  | mandatoryElement (expr : TypeExpr)
  /-- A null union put around another one. -/
  | nestedNull
  /-- A name that no container of a model has. -/
  | unknownContainer (name : String)
  /-- A name that no member of the owner has. -/
  | unknownMember (owner name : String)
  /-- A name that no property of the owner has. -/
  | unknownProperty (owner name : String)
  /-- A second container of one name. -/
  | duplicateContainer (name : String)
  /-- A model without declarations. -/
  | emptyModel
  /-- A word that names no kind. -/
  | unknownKind (word : String)
  /-- The text of a node without a form of its own. -/
  | abstractNode
  /-- Something that cannot be hashed where a type is looked up, for a part of the type named. -/
  | unhashable (type : String)
deriving Inhabited

/-- The sort of a fault, by which callers tell faults apart. -/
inductive Category where
  | declaration
  | lookup
  | value
  | kind
  | abstraction
  | hashing
deriving DecidableEq, Repr, Inhabited

namespace Fault

/-- The category of each cause. -/
def category : Fault → Category
  | .bareList | .unsupported _ | .recordRequired _ | .undeclared _ | .declaredReference _
  | .conflictingNullability _ | .recursiveStructure _ | .mandatoryElement _ | .nestedNull =>
      .declaration
  | .unknownContainer _ | .unknownMember _ _ | .unknownProperty _ _ => .lookup
  | .duplicateContainer _ | .emptyModel => .value
  | .unknownKind _ => .kind
  | .abstractNode => .abstraction
  | .unhashable _ => .hashing

/-- The sentence that states a cause. -/
def sentence : Fault → String
  | .bareList => "List types must be parameterized."
  | .unsupported expr => "Unsupported annotation: " ++ expr.display
  | .recordRequired mark => mark ++ " requires an explicit dataclass."
  | .undeclared name => name ++ " is not decorated with @shapecast.type or @shapecast.entity"
  | .declaredReference name =>
      "Declaration '" ++ name ++ "' cannot be used as a property type; " ++
        "use an undecorated dataclass for inline structures."
  | .conflictingNullability expr =>
      "Annotation " ++ expr.display ++ " is marked NotNull but also allows None."
  | .recursiveStructure name =>
      "Inline structure '" ++ name ++ "' refers back to itself; " ++
        "recursive structures cannot be inlined."
  | .mandatoryElement expr =>
      "Mandatory applies to properties, not list elements: " ++ expr.display
  | .nestedNull => "A nullable type node cannot wrap another one."
  | .unknownContainer name => "No container named '" ++ name ++ "'"
  | .unknownMember owner name => owner ++ " has no member named '" ++ name ++ "'"
  | .unknownProperty owner name => owner ++ " has no property named '" ++ name ++ "'"
  | .duplicateContainer name => "Container '" ++ name ++ "' is declared more than once."
  | .emptyModel => "Model requires at least one declaration."
  | .unknownKind word => Text.quoted word ++ " is not a valid ContainerKind"
  | .abstractNode => ""
  | .unhashable type => "unhashable type: '" ++ type ++ "'"

/-- The message of a fault: its sentence, which is quoted as a whole when a lookup failed. -/
def message (fault : Fault) : String :=
  match fault.category with
  | .lookup => Text.quoted fault.sentence
  | _ => fault.sentence

end Fault

end SchemaProjection
