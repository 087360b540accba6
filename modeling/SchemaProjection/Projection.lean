/-
Module: SchemaProjection.Projection
Purpose: Projection of the model side to the output side. Every property becomes one member, at
  every depth, under the kind of the declaration that encloses it: the presence rule decides its
  mark, the value rule its null union, and an array states for its own elements whether they may be
  null. A null union that the value rule withholds is reported after the property's own type was
  projected.
Imports: SchemaProjection.Schema.Facts, SchemaProjection.Node.Basic, SchemaProjection.Notice
Main exports: BaseType.project, Property.project, Container.project, Container.projectAll
-/
import SchemaProjection.Schema.Facts
import SchemaProjection.Node.Basic
import SchemaProjection.Notice

namespace SchemaProjection

/-- Put a null union around the projected type of a property, or report that it is withheld. -/
def Facts.wrap (facts : Facts) (kind : Kind) (options : Options) (name : String) (type : Node) :
    Traced Node :=
  if facts.isNullUnion kind options then .ofExcept type.orNull
  else if facts.nullable then do
    Traced.notify (.suppressed name)
    return type
  else return type

mutual

/-- The node of a base type. It is never a null union itself. -/
def BaseType.project (kind : Kind) (options : Options) : BaseType → Traced Node
  | .scalar primitive => return .scalar primitive
  | .array element elementNullable => do
      let node ← element.project kind options
      let inner ← .ofExcept (if elementNullable then node.orNull else .ok node)
      return .array inner
  | .struct properties => do
      let members ← Property.projectList kind options properties
      return .struct members

/-- The member of a property. -/
def Property.project (kind : Kind) (options : Options) : Property → Traced Member
  | ⟨name, baseType, nullable, defaultNullable, mandatory⟩ => do
      let facts := (Property.mk name baseType nullable defaultNullable mandatory).facts
      let node ← baseType.project kind options
      let type ← facts.wrap kind options name node
      return ⟨name, facts.isOptional kind, type⟩

/-- The members of some properties in order. -/
def Property.projectList (kind : Kind) (options : Options) : List Property → Traced (List Member)
  | [] => return []
  | property :: properties => do
      let member ← property.project kind options
      let members ← Property.projectList kind options properties
      return member :: members

end

/-- The interface of a container, all of it under the container's own kind. -/
def Container.project (options : Options) (container : Container) : Traced Interface := do
  Traced.notify (.projecting container.kind container.name container.properties.length)
  let members ← Property.projectList container.kind options container.properties
  return ⟨container.name, container.kind, members, container.description⟩

/-- The interfaces of some containers in order. -/
def Container.projectAll (options : Options) : List Container → Traced (List Interface)
  | [] => return []
  | container :: containers => do
      let interface ← container.project options
      let interfaces ← Container.projectAll options containers
      return interface :: interfaces

end SchemaProjection
