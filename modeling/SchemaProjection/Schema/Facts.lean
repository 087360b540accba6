/-
Module: SchemaProjection.Schema.Facts
Purpose: The facts about a property that decide its projection, and the two rules on them. The
  presence rule says when a member may be left out, the value rule when its value may be null;
  neither follows from the other.
Imports: SchemaProjection.Schema.Basic, SchemaProjection.Settings
Main exports: Facts, Property.facts, Facts.isOptional, Facts.isNullUnion
-/
import SchemaProjection.Schema.Basic
import SchemaProjection.Settings

namespace SchemaProjection

/-- Whether the value may be null, the property is always present, and the value is an array. -/
structure Facts where
  nullable : Bool
  mandatory : Bool
  isArray : Bool
deriving DecidableEq, Repr, Inhabited

/-- Whether a base type is an array. -/
def BaseType.isArray : BaseType → Bool
  | .array _ _ => true
  | .scalar _ | .struct _ => false

/-- Whether the value of a property may be null: what its declaration states, else its default. -/
def Property.resolvedNullable (property : Property) : Bool :=
  property.nullable.getD property.defaultNullable

/-- The facts about a property. -/
def Property.facts (property : Property) : Facts where
  nullable := property.resolvedNullable
  mandatory := property.mandatory
  isArray := property.baseType.isArray

namespace Facts

/-- Presence rule: a member may be left out when it belongs to a type, may be null and is not
    mandatory. -/
def isOptional (facts : Facts) : Kind → Bool
  | .entity => false
  | .type => facts.nullable && !facts.mandatory

/-- Value rule: a member that may be null has a null union, except for an array of an entity unless
    the options ask for it. -/
def isNullUnion (facts : Facts) (kind : Kind) (options : Options) : Bool :=
  facts.nullable &&
    !(kind == .entity && facts.isArray && !options.entityArrayNullUnion)

end Facts

end SchemaProjection
