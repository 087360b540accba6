/-
Module: SchemaProjection.TypeExpr.Text
Purpose: The text of a type expression as messages show it, and the shorter text that stands for it
  when it is a part of another form.
Imports: SchemaProjection.TypeExpr.Basic
Main exports: TypeExpr.display, Argument.display, Metadata.display
-/
import SchemaProjection.TypeExpr.Basic

namespace SchemaProjection

/-- The name of a class that exists before any declaration. -/
def Builtin.name : Builtin → String
  | .integer => "int"
  | .real => "float"
  | .string => "str"
  | .boolean => "bool"
  | .bytes => "bytes"
  | .complex => "complex"
  | .object => "object"
  | .list => "list"
  | .dictionary => "dict"
  | .nothing => "NoneType"
  | .anything => "typing.Any"

/-- The name of a class of a table after that of its module. -/
def ClassRef.qualifiedName (target : ClassRef) : String := target.module ++ "." ++ target.name

/-- The name of a generic form in each style. -/
def Shape.name : Style → Shape → String
  | .plain, .list => "list"
  | .plain, .set => "set"
  | .plain, .tuple => "tuple"
  | .plain, .dictionary => "dict"
  | .qualified, .list => "typing.List"
  | .qualified, .set => "typing.Set"
  | .qualified, .tuple => "typing.Tuple"
  | .qualified, .dictionary => "typing.Dict"
  | _, .named name => name

/-- The name of the form of a callable in each style. -/
def Style.callableName : Style → String
  | .plain => "collections.abc.Callable"
  | .qualified => "typing.Callable"

/-- The text of a mark. -/
def Marker.display : Marker → String
  | .notNull => "<NotNull>"
  | .mandatory => "<Mandatory>"

/-- A value as a part of a type expression, where a text is quoted. -/
def Value.shown : Value → String
  | .constant known => known.shown
  | .object other => other.shown

/-- Metadata as a part of a marked type expression. -/
def Metadata.shown : Metadata → String
  | .marker mark => mark.display
  | .value held => held.shown

/-- Metadata by itself, where a text is its own characters. -/
def Metadata.display : Metadata → String
  | .marker mark => mark.display
  | .value (.constant known) => known.bare
  | .value (.object other) => other.shown

namespace TypeExpr

/-- A list of parts between square brackets; a list without a part is empty between them. -/
def listed (parts : List String) : String := "[" ++ ", ".intercalate parts ++ "]"

/-- The arguments of a form after its name. A form without an argument shows a pair of parentheses
    in their place, whichever form it is. -/
def bracketed (name : String) (parts : List String) : String :=
  name ++ listed (if parts.isEmpty then ["()"] else parts)

/-- A forward reference around its quoted text. -/
def forwardReference (source : String) : String := "ForwardRef(" ++ Text.quoted source ++ ")"

/-- The name of the form of a value that is handed over when an object is made. -/
def initialName : String := "dataclasses.InitVar"

/-- The name of a class without its module, and of the ellipsis. -/
def ownName? : TypeExpr → Option String
  | .builtin .anything => some "Any"
  | .builtin type => some type.name
  | .reference target => some target.name
  | .bareInitial => some "InitVar"
  | .ellipsis => some "Ellipsis"
  | _ => none

mutual

/-- The text of a type expression as a part of another form: a class is its name alone, and a text
    is quoted. A qualified union of two members, one of them the class of the empty value, is shown
    as an optional. -/
def part : TypeExpr → String
  | .builtin type => type.name
  | .reference target => target.qualifiedName
  | .bareList => "typing.List"
  | .bareClassLevel => "typing.ClassVar"
  | .bareInitial => initialName
  | .keywordOnly => "<dataclasses._KW_ONLY_TYPE object>"
  | .ellipsis => "..."
  | .nothing => "None"
  | .text source => Text.quoted source
  | .forward source => forwardReference source
  | .object value => value.shown
  | .generic style shape values => bracketed (shape.name style) (parts values)
  | .union .plain members => " | ".intercalate (alternatives members)
  | .union .qualified [.builtin .nothing, other] => bracketed "typing.Optional" [part other]
  | .union .qualified [other, .builtin .nothing] => bracketed "typing.Optional" [part other]
  | .union .qualified members => bracketed "typing.Union" (parts members)
  | .marked inner metadata =>
      bracketed "typing.Annotated" (part inner :: metadata.map Metadata.shown)
  | .classLevel inner => bracketed "typing.ClassVar" [part inner]
  | .initial inner => bracketed initialName [inner.ownName?.getD (part inner)]
  | .literal values => bracketed "typing.Literal" (values.map Value.shown)
  | .callable style parameters result =>
      bracketed style.callableName [listed (parts parameters), part result]

/-- The parts of a form in order. -/
def parts : List TypeExpr → List String
  | [] => []
  | value :: values => part value :: parts values

/-- The members of a plain union, where the class of the empty value is shown as that value. -/
def alternatives : List TypeExpr → List String
  | [] => []
  | value :: values =>
      (if value.isNothingClass then "None" else part value) :: alternatives values

end

/-- The text of a type expression by itself: a class is shown as a class, a text is its own
    characters, and every other form as it is shown as a part. -/
def display : TypeExpr → String
  | .builtin .anything => Builtin.anything.name
  | .builtin type => "<class '" ++ type.name ++ "'>"
  | .reference target => "<class '" ++ target.qualifiedName ++ "'>"
  | .bareInitial => "<class '" ++ initialName ++ "'>"
  | .ellipsis => "Ellipsis"
  | .text source => source
  | other => other.part

/-- The text of a type expression as an item of a list: a text is quoted, and every other form is
    shown as by itself. -/
def shown : TypeExpr → String
  | .text source => Text.quoted source
  | other => other.display

end TypeExpr

/-- The text of an argument. Parameters are shown as a list of type expressions. -/
def Argument.display : Argument → String
  | .expr value => value.display
  | .parameters values => TypeExpr.listed (values.map TypeExpr.shown)
  | .metadata value => value.display

end SchemaProjection
