/-
Module: SchemaProjection.Settings
Purpose: The two records of settings. Defaults fill in the nullability that a type expression leaves
  open; options alter how a projection wraps the members it emits.
Imports: none
Main exports: Defaults, Options
-/

namespace SchemaProjection

/-- The nullability assumed where a declaration states none, by the shape of the value. Properties
    may be null unless declared otherwise, while the elements of an array may not. -/
structure Defaults where
  scalarNullable : Bool := true
  arrayNullable : Bool := true
  structNullable : Bool := true
  elementNullable : Bool := false
deriving DecidableEq, Repr, Inhabited

/-- Switches of the projection. With `entityArrayNullUnion` a nullable array property of an entity
    is emitted with a null union, like every other nullable property; without it, never. -/
structure Options where
  entityArrayNullUnion : Bool := false
deriving DecidableEq, Repr, Inhabited

end SchemaProjection
