/-
Module: SchemaProjection.Schema.Basic
Purpose: The model side. A container declares an ordered list of properties; the base type of a
  property is a scalar, an array or an inline structure with properties of its own. Names may
  repeat, and a lookup answers with the first property of its name.
Imports: SchemaProjection.Kind, SchemaProjection.Fault
Main exports: BaseType, Property, Container, Property.lookup, Container.lookup
-/
import SchemaProjection.Kind
import SchemaProjection.Fault

namespace SchemaProjection

mutual

/-- The type of a value before nullability is decided. A scalar carries the name of its primitive,
    an array whether its elements may be null. -/
inductive BaseType where
  | scalar (primitive : String)
  | array (element : BaseType) (elementNullable : Bool)
  | struct (properties : List Property)

/-- A named property. `nullable` is what the declaration states about null, if it states anything;
    `defaultNullable` applies otherwise. -/
structure Property where
  name : String
  baseType : BaseType
  nullable : Option Bool
  defaultNullable : Bool
  mandatory : Bool

end

/-- A declared type or entity with its properties in order. -/
structure Container where
  name : String
  kind : Kind
  properties : List Property
  description : Option String

instance : Inhabited BaseType := ⟨.scalar ""⟩
instance : Inhabited Property := ⟨"", default, none, true, false⟩

/-!
### Equality
-/

mutual

/-- Decide whether two base types are equal. -/
def BaseType.decEq : (a b : BaseType) → Decidable (a = b)
  | .scalar p, .scalar q =>
    if same : p = q then isTrue (by rw [same]) else isFalse (by simp [same])
  | .array a m, .array b n =>
    match a.decEq b, decEq m n with
    | isTrue element, isTrue flag => isTrue (by rw [element, flag])
    | isFalse element, _ => isFalse (by simp [element])
    | _, isFalse flag => isFalse (by simp [flag])
  | .struct ps, .struct qs =>
    match Property.decEqList ps qs with
    | isTrue same => isTrue (by rw [same])
    | isFalse differ => isFalse (by simp [differ])
  | .scalar _, .array _ _ | .scalar _, .struct _ | .array _ _, .scalar _
  | .array _ _, .struct _ | .struct _, .scalar _ | .struct _, .array _ _ => isFalse (by simp)

/-- Decide whether two properties are equal. -/
def Property.decEq : (a b : Property) → Decidable (a = b)
  | ⟨m, s, n, d, o⟩, ⟨m', t, n', d', o'⟩ =>
    match s.decEq t, decEq (m, n, d, o) (m', n', d', o') with
    | isTrue type, isTrue rest => isTrue (by simp_all)
    | isFalse type, _ => isFalse (by simp [type])
    | _, isFalse rest => isFalse (by intro same; simp_all)

/-- Decide whether two lists of properties are equal. -/
def Property.decEqList : (as bs : List Property) → Decidable (as = bs)
  | [], [] => isTrue rfl
  | a :: as, b :: bs =>
    match a.decEq b, Property.decEqList as bs with
    | isTrue first, isTrue rest => isTrue (by rw [first, rest])
    | isFalse first, _ => isFalse (by simp [first])
    | _, isFalse rest => isFalse (by simp [rest])
  | [], _ :: _ | _ :: _, [] => isFalse (by simp)

end

instance : DecidableEq BaseType := BaseType.decEq
instance : DecidableEq Property := Property.decEq

deriving instance DecidableEq for Container

/-!
### Lookup
-/

/-- How messages name an inline structure. -/
def inlineOwner : String := "inline structure"

/-- The first property of a name among the properties of `owner`. -/
def Property.lookup (owner name : String) : List Property → Except Fault Property
  | [] => .error (.unknownProperty owner name)
  | property :: rest =>
      if property.name = name then .ok property else Property.lookup owner name rest

/-- The first property of a name in a container. -/
def Container.lookup (container : Container) (name : String) : Except Fault Property :=
  Property.lookup container.name name container.properties

end SchemaProjection
