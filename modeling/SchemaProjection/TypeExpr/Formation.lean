/-
Module: SchemaProjection.TypeExpr.Formation
Purpose: How type expressions are put together. A qualified form takes the empty value as its class
  and a text as a forward reference; metadata around a marked one joins its list; a union takes up
  the members of the unions among its alternatives, keeps the first of equal members, and with one
  member left is that member.
Imports: SchemaProjection.TypeExpr.Basic
Main exports: TypeExpr.same, TypeExpr.qualify, TypeExpr.attach, TypeExpr.unionOf, TypeExpr.orElse,
  TypeExpr.optional, TypeExpr.literalOf, TypeExpr.callableOf
-/
import SchemaProjection.TypeExpr.Basic

namespace SchemaProjection

/-- Whether two pieces of metadata count as equal: marks by themselves, constants by value, and
    other objects by their numbers. -/
def Metadata.same : Metadata → Metadata → Bool
  | .marker a, .marker b => a == b
  | .value (.constant a), .value (.constant b) => a.sameValue b
  | .value (.object a), .value (.object b) => a.number == b.number
  | _, _ => false

namespace TypeExpr

/-!
### Equality of members

Two unions are equal when they have equally many members and each member of one is among those of
the other, whatever their order and style. Since the members of a union differ from one another, one
direction is enough, and each pair of parts is compared at most once. Literals are equal when they
have the same values. All other forms are compared part by part.
-/

mutual

/-- Whether two type expressions count as one member of a union. -/
def same : TypeExpr → TypeExpr → Bool
  | .builtin a, .builtin b => a == b
  | .reference a, .reference b => a == b
  | .bareList, .bareList | .bareClassLevel, .bareClassLevel | .bareInitial, .bareInitial
  | .keywordOnly, .keywordOnly | .ellipsis, .ellipsis | .nothing, .nothing => true
  | .text a, .text b | .forward a, .forward b => a == b
  | .object a, .object b => a.number == b.number
  | .generic style shape as, .generic style' shape' bs =>
      style == style' && shape == shape' && sameEach as bs
  | .union _ as, .union _ bs => as.length == bs.length && eachAmong as bs
  | .marked a ms, .marked b ns => same a b && ms.isEqv ns Metadata.same
  | .classLevel a, .classLevel b => same a b
  | .literal as, .literal bs => as.all bs.contains && bs.all as.contains
  | .callable style ps r, .callable style' qs s => style == style' && sameEach ps qs && same r s
  | _, _ => false

/-- Whether two lists are equal place by place. -/
def sameEach : List TypeExpr → List TypeExpr → Bool
  | [], [] => true
  | a :: as, b :: bs => same a b && sameEach as bs
  | _, _ => false

/-- Whether each type expression of the first list equals one of the second. -/
def eachAmong : List TypeExpr → List TypeExpr → Bool
  | [], _ => true
  | a :: as, bs => bs.any (same a) && eachAmong as bs

end

/-!
### Forms
-/

/-- A type expression as it enters a qualified form: the empty value becomes its class, and a text a
    forward reference. -/
def qualify : TypeExpr → TypeExpr
  | .nothing => .builtin .nothing
  | .text source => .forward source
  | other => other

/-- Attach metadata. Metadata of an inner marked type expression comes first, in one list. -/
def attach (inner : TypeExpr) (metadata : List Metadata) : TypeExpr :=
  match inner.qualify with
  | .marked core earlier => .marked core (earlier ++ metadata)
  | core => .marked core metadata

/-- Mark a property as never null. -/
def notNull (inner : TypeExpr) : TypeExpr := inner.attach [.marker .notNull]

/-- Mark a property as always present. -/
def mandatory (inner : TypeExpr) : TypeExpr := inner.attach [.marker .mandatory]

/-- A generic form with its arguments; a plain one keeps them as they are. -/
def collection (style : Style) (shape : Shape) (arguments : List TypeExpr) : TypeExpr :=
  match style with
  | .plain => .generic .plain shape arguments
  | .qualified => .generic .qualified shape (arguments.map qualify)

/-- The members that an alternative brings to a union: its own, if it is a union itself. -/
def members : TypeExpr → List TypeExpr
  | .union _ values => values
  | other => [other]

/-- The first of each group of equal type expressions, in order. -/
def distinct (values : List TypeExpr) : List TypeExpr :=
  values.foldl (fun kept value => if kept.any (same · value) then kept else kept ++ [value]) []

/-- The union of some alternatives; one distinct member is itself the result. -/
def unionWith (style : Style) (alternatives : List TypeExpr) : TypeExpr :=
  match distinct (alternatives.flatMap fun value => value.qualify.members) with
  | [only] => only
  | several => .union style several

/-- A qualified union. -/
def unionOf (alternatives : List TypeExpr) : TypeExpr := unionWith .qualified alternatives

/-- The qualified union with the empty value. -/
def optional (inner : TypeExpr) : TypeExpr := unionOf [inner, .nothing]

/-- Whether an alternative may enter a plain union: a class, the empty value, a plain generic form
    or callable, or a plain union. -/
def isPlainAlternative : TypeExpr → Bool
  | .builtin _ | .reference _ | .bareInitial | .nothing => true
  | .generic .plain _ _ | .callable .plain _ _ | .union .plain _ => true
  | _ => false

/-- The union of two alternatives, plain when both may enter a plain union. -/
def orElse (first second : TypeExpr) : TypeExpr :=
  unionWith (if first.isPlainAlternative && second.isPlainAlternative then .plain else .qualified)
    [first, second]

/-- The union of one or more alternatives, formed from left to right. -/
def orElseAll (first : TypeExpr) (rest : List TypeExpr) : TypeExpr := rest.foldl orElse first

/-- The class-level form with an argument. -/
def classLevelOf (inner : TypeExpr) : TypeExpr := .classLevel inner.qualify

/-- A literal with the values given, each once; with a value that cannot be hashed they are kept as
    they are. -/
def literalOf (values : List Value) : TypeExpr :=
  .literal (if values.any (·.unhashable?.isSome) then values else values.eraseDups)

/-- A callable with its parameters and its result; a plain one keeps them as they are. -/
def callableOf (style : Style) (parameters : List TypeExpr) (result : TypeExpr) : TypeExpr :=
  match style with
  | .plain => .callable .plain parameters result
  | .qualified => .callable .qualified (parameters.map qualify) result.qualify

end TypeExpr

end SchemaProjection
