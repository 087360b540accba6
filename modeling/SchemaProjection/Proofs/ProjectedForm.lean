/-
Module: SchemaProjection.Proofs.ProjectedForm
Purpose: The result of a projection as a function of the declaration alone. The two places where a
  projection puts a null union around a node are asked by flags here, and the node of a base type is
  never a null union itself, so neither place can refuse and every projection has this result.
Imports: SchemaProjection.Projection
Main exports: Node.withNull, BaseType.node, Property.member, Property.members, Container.interface,
  BaseType.unwrapNull_node, Container.outcome_project, Container.outcome_projectAll
-/
import SchemaProjection.Projection

namespace SchemaProjection

/-- A node with a null union around it when the flag asks for one. -/
def Node.withNull (node : Node) (flag : Bool) : Node := if flag then .nullable node else node

mutual

/-- The node of a base type under a kind. -/
def BaseType.node (kind : Kind) (options : Options) : BaseType → Node
  | .scalar primitive => .scalar primitive
  | .array element elementNullable =>
      .array ((element.node kind options).withNull elementNullable)
  | .struct properties => .struct (Property.members kind options properties)

/-- The member of a property under a kind. -/
def Property.member (kind : Kind) (options : Options) : Property → Member
  | ⟨name, baseType, nullable, defaultNullable, mandatory⟩ =>
      let facts := (Property.mk name baseType nullable defaultNullable mandatory).facts
      ⟨name, facts.isOptional kind,
        (baseType.node kind options).withNull (facts.isNullUnion kind options)⟩

/-- The members of some properties in order. -/
def Property.members (kind : Kind) (options : Options) : List Property → List Member
  | [] => []
  | property :: properties =>
      property.member kind options :: Property.members kind options properties

end

/-- The interface of a container. -/
def Container.interface (options : Options) (container : Container) : Interface :=
  ⟨container.name, container.kind,
    Property.members container.kind options container.properties, container.description⟩

/-!
### Null unions
-/

namespace Node

@[simp] theorem withNull_true (node : Node) : node.withNull true = .nullable node := rfl

@[simp] theorem withNull_false (node : Node) : node.withNull false = node := rfl

end Node

/-- The node of a base type is no null union, so it is its own inner node. -/
@[simp] theorem BaseType.unwrapNull_node (kind : Kind) (options : Options) (type : BaseType) :
    (type.node kind options).unwrapNull = type.node kind options := by
  cases type <;> rfl

/-- The node of a base type has a null union. -/
theorem BaseType.orNull_node (kind : Kind) (options : Options) (type : BaseType) :
    (type.node kind options).orNull = .ok (.nullable (type.node kind options)) := by
  cases type <;> rfl

/-- Below the null union that a flag asked for stands the node of the base type. -/
@[simp] theorem BaseType.unwrapNull_withNull_node (kind : Kind) (options : Options)
    (type : BaseType) (flag : Bool) :
    ((type.node kind options).withNull flag).unwrapNull = type.node kind options := by
  cases flag with
  | false => exact type.unwrapNull_node kind options
  | true => rfl

/-- A node of a base type is a null union exactly when a flag asked for one. -/
@[simp] theorem BaseType.isNullable_withNull_node (kind : Kind) (options : Options)
    (type : BaseType) (flag : Bool) :
    ((type.node kind options).withNull flag).isNullable [] = flag := by
  cases flag with
  | false => cases type <;> rfl
  | true => rfl

/-!
### Members
-/

namespace Property

@[simp] theorem name_member (kind : Kind) (options : Options) (property : Property) :
    (property.member kind options).name = property.name := by
  cases property; rfl

@[simp] theorem optional_member (kind : Kind) (options : Options) (property : Property) :
    (property.member kind options).optional = property.facts.isOptional kind := by
  cases property; rfl

@[simp] theorem type_member (kind : Kind) (options : Options) (property : Property) :
    (property.member kind options).type =
      (property.baseType.node kind options).withNull
        (property.facts.isNullUnion kind options) := by
  cases property; rfl

/-- The members are those of the properties, one for each and in order. -/
theorem members_eq_map (kind : Kind) (options : Options) (properties : List Property) :
    members kind options properties = properties.map (member kind options) := by
  induction properties with
  | nil => rfl
  | cons property properties ih => rw [members, ih, List.map_cons]

end Property

/-!
### The projection has this result
-/

/-- The outcome of two computations in a row does not depend on their notices. -/
theorem Traced.outcome_bind {α β : Type} (first : Traced α) (next : α → Traced β) :
    (first >>= next).outcome = first.outcome >>= fun value => (next value).outcome := by
  obtain ⟨notices, outcome⟩ := first
  cases outcome <;> rfl

/-- Wrapping the node of a base type succeeds, with the null union that the value rule asks for. -/
theorem Facts.outcome_wrap (facts : Facts) (kind : Kind) (options : Options) (name : String)
    (type : BaseType) :
    (facts.wrap kind options name (type.node kind options)).outcome =
      .ok ((type.node kind options).withNull (facts.isNullUnion kind options)) := by
  unfold Facts.wrap
  cases facts.isNullUnion kind options with
  | true => exact type.orNull_node kind options
  | false => cases facts.nullable <;> rfl

mutual

/-- Projecting a base type succeeds with its node. -/
theorem BaseType.outcome_project (kind : Kind) (options : Options) :
    (type : BaseType) → (type.project kind options).outcome = .ok (type.node kind options)
  | .scalar _ => rfl
  | .array element elementNullable => by
      rw [BaseType.project, Traced.outcome_bind, BaseType.outcome_project kind options element]
      cases elementNullable with
      | false => rfl
      | true =>
          change (Traced.ofExcept (element.node kind options).orNull >>= _).outcome = _
          rw [element.orNull_node kind options]
          rfl
  | .struct properties => by
      rw [BaseType.project, Traced.outcome_bind,
        Property.outcome_projectList kind options properties]
      rfl

/-- Projecting a property succeeds with its member. -/
theorem Property.outcome_project (kind : Kind) (options : Options) :
    (property : Property) →
      (property.project kind options).outcome = .ok (property.member kind options)
  | ⟨name, baseType, nullable, defaultNullable, mandatory⟩ => by
      rw [Property.project, Traced.outcome_bind, BaseType.outcome_project kind options baseType]
      change (Facts.wrap _ kind options name (baseType.node kind options) >>= _).outcome = _
      rw [Traced.outcome_bind, Facts.outcome_wrap]
      rfl

/-- Projecting properties succeeds with their members. -/
theorem Property.outcome_projectList (kind : Kind) (options : Options) :
    (properties : List Property) →
      (Property.projectList kind options properties).outcome =
        .ok (Property.members kind options properties)
  | [] => rfl
  | property :: properties => by
      rw [Property.projectList, Traced.outcome_bind, Property.outcome_project kind options property]
      change (Property.projectList kind options properties >>= _).outcome = _
      rw [Traced.outcome_bind, Property.outcome_projectList kind options properties]
      rfl

end

/-- Projecting a container succeeds with its interface. -/
theorem Container.outcome_project (options : Options) (container : Container) :
    (container.project options).outcome = .ok (container.interface options) := by
  unfold Container.project
  rw [Traced.outcome_bind]
  change (Property.projectList container.kind options container.properties >>= _).outcome = _
  rw [Traced.outcome_bind, Property.outcome_projectList]
  rfl

/-- Projecting containers succeeds with their interfaces, one for each and in order. -/
theorem Container.outcome_projectAll (options : Options) (containers : List Container) :
    (Container.projectAll options containers).outcome =
      .ok (containers.map (Container.interface options)) := by
  induction containers with
  | nil => rfl
  | cons container containers ih =>
      rw [Container.projectAll, Traced.outcome_bind, container.outcome_project options]
      change (Container.projectAll options containers >>= _).outcome = _
      rw [Traced.outcome_bind, ih]
      rfl

end SchemaProjection
