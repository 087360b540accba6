/-
Module: SchemaProjection.Proofs.ProjectionModes
Purpose: One declaration projected in three ways. As a type it does not depend on the option. As an
  entity with the option it is the projection as a type with every member required; without the
  option, each member whose type is the null union of an array loses that null union as well. Both
  are changes of members, made at every depth, and leave the element of an array as it is, which
  states for itself whether it may be null.
Imports: SchemaProjection.Proofs.ProjectedForm
Main exports: Node.mapMembers, Member.required, Member.plainArray, Node.elementNulls,
  BaseType.mapMembers_node, projection_modes
-/
import SchemaProjection.Proofs.ProjectedForm

namespace SchemaProjection

/-!
### Changing members
-/

mutual

/-- Change every member of a node, at every depth and from the inside to the outside. Null unions
    and arrays that are not the type of a member are kept. -/
def Node.mapMembers (change : Member → Member) : Node → Node
  | .abstract => .abstract
  | .scalar primitive => .scalar primitive
  | .array element => .array (element.mapMembers change)
  | .struct members => .struct (Member.mapAll change members)
  | .nullable inner => .nullable (inner.mapMembers change)

/-- Change a member after every member inside of it. -/
def Member.mapMembers (change : Member → Member) : Member → Member
  | ⟨name, optional, type⟩ => change ⟨name, optional, type.mapMembers change⟩

/-- Change some members, each after every member inside of it. -/
def Member.mapAll (change : Member → Member) : List Member → List Member
  | [] => []
  | member :: members => member.mapMembers change :: Member.mapAll change members

end

/-- A member that may not be left out. -/
def Member.required (member : Member) : Member := { member with optional := false }

/-- An array without its own null union; any other node as it is. -/
def Node.plainArray : Node → Node
  -- a null union of the element itself is no concern of the member
  | .nullable (.array element) => .array element
  | node => node

/-- A member whose type is not the null union of an array. -/
def Member.plainArray (member : Member) : Member := { member with type := member.type.plainArray }

/-- A null union around a node stays where it is. -/
theorem Node.mapMembers_withNull (change : Member → Member) (node : Node) (flag : Bool) :
    (node.withNull flag).mapMembers change = (node.mapMembers change).withNull flag := by
  cases flag <;> rfl

section

variable {kind kind' : Kind} {options options' : Options} {change : Member → Member}

/-- A change of members turns one projection into another when it does so for the outermost member
    of every property, the type inside of it being that of the other projection already. -/
def ChangesMembers (kind kind' : Kind) (options options' : Options)
    (change : Member → Member) : Prop :=
  ∀ property : Property,
    change ⟨property.name, property.facts.isOptional kind,
      (property.baseType.node kind' options').withNull
        (property.facts.isNullUnion kind options)⟩ = property.member kind' options'

mutual

/-- What a change does to outermost members it does at every depth of a base type. -/
theorem BaseType.mapMembers_node (changes : ChangesMembers kind kind' options options' change) :
    (type : BaseType) → (type.node kind options).mapMembers change = type.node kind' options'
  | .scalar _ => rfl
  | .array element elementNullable => by
      have inner := BaseType.mapMembers_node changes element
      simp only [BaseType.node, Node.mapMembers, Node.mapMembers_withNull, inner]
  | .struct properties => by
      have inner := Property.mapAll_members changes properties
      simp only [BaseType.node, Node.mapMembers, inner]

/-- What a change does to outermost members it does at every depth of a property. -/
theorem Property.mapMembers_member (changes : ChangesMembers kind kind' options options' change) :
    (property : Property) →
      (property.member kind options).mapMembers change = property.member kind' options'
  | ⟨name, baseType, nullable, defaultNullable, mandatory⟩ => by
      have inner := BaseType.mapMembers_node changes baseType
      have outer := changes ⟨name, baseType, nullable, defaultNullable, mandatory⟩
      simp only [Property.member, Member.mapMembers, Node.mapMembers_withNull, inner]
      exact outer

/-- What a change does to outermost members it does at every depth of some properties. -/
theorem Property.mapAll_members (changes : ChangesMembers kind kind' options options' change) :
    (properties : List Property) →
      Member.mapAll change (Property.members kind options properties) =
        Property.members kind' options' properties
  | [] => rfl
  | property :: properties => by
      have first := Property.mapMembers_member changes property
      have rest := Property.mapAll_members changes properties
      simp only [Property.members, Member.mapAll, first, rest]

end

end

/-!
### From a type to an entity
-/

/-- In a type every member that may be null has a null union. -/
theorem Facts.isNullUnion_type (facts : Facts) (options : Options) :
    facts.isNullUnion .type options = facts.nullable :=
  Bool.and_true facts.nullable

/-- In an entity the option decides on the null unions of arrays. -/
theorem Facts.isNullUnion_entity (facts : Facts) (flag : Bool) :
    facts.isNullUnion .entity ⟨flag⟩ = (facts.nullable && !(facts.isArray && !flag)) := rfl

/-- With the option an entity differs from a type in that its members are required. -/
theorem changesMembers_required (options : Options) :
    ChangesMembers .type .entity options ⟨true⟩ Member.required := by
  intro property
  obtain ⟨name, baseType, nullable, defaultNullable, mandatory⟩ := property
  simp [Property.member, Member.required, Facts.isOptional, Facts.isNullUnion_type,
    Facts.isNullUnion_entity]

/-- Around the node of a base type, a null union is taken off exactly from an array. -/
theorem BaseType.plainArray_withNull_node (kind : Kind) (options : Options) (type : BaseType)
    (flag : Bool) :
    ((type.node kind options).withNull flag).plainArray =
      (type.node kind options).withNull (flag && !type.isArray) := by
  cases flag <;> cases type <;> rfl

/-- Without the option an entity differs from one with it in the null unions of arrays. -/
theorem changesMembers_plainArray :
    ChangesMembers .entity .entity ⟨true⟩ ⟨false⟩ Member.plainArray := by
  intro property
  obtain ⟨name, baseType, nullable, defaultNullable, mandatory⟩ := property
  simp [Property.member, Member.plainArray, Facts.isOptional, Facts.isNullUnion_entity,
    BaseType.plainArray_withNull_node, Property.facts]

/-!
### A type does not depend on the option
-/

mutual

/-- Projecting a base type as a type is the same run under all options, notices included. -/
theorem BaseType.project_type_congr (options options' : Options) :
    (type : BaseType) → type.project .type options = type.project .type options'
  | .scalar _ => rfl
  | .array element elementNullable => by
      rw [BaseType.project, BaseType.project, BaseType.project_type_congr options options' element]
  | .struct properties => by
      rw [BaseType.project, BaseType.project,
        Property.projectList_type_congr options options' properties]

/-- Projecting a property as a type is the same run under all options, notices included. -/
theorem Property.project_type_congr (options options' : Options) :
    (property : Property) → property.project .type options = property.project .type options'
  | ⟨name, baseType, nullable, defaultNullable, mandatory⟩ => by
      rw [Property.project, Property.project, BaseType.project_type_congr options options' baseType]
      rfl

/-- Projecting properties as those of a type is the same run under all options. -/
theorem Property.projectList_type_congr (options options' : Options) :
    (properties : List Property) →
      Property.projectList .type options properties =
        Property.projectList .type options' properties
  | [] => rfl
  | property :: properties => by
      rw [Property.projectList, Property.projectList,
        Property.project_type_congr options options' property,
        Property.projectList_type_congr options options' properties]

end

/-!
### Elements of arrays
-/

mutual

/-- Which elements of arrays are null unions: for each array its own element and then those inside
    of it, the members of a structure in order. -/
def Node.elementNulls : Node → List Bool
  | .abstract | .scalar _ => []
  | .array element => element.isNullable [] :: element.elementNulls
  | .struct members => Member.elementNullsAll members
  | .nullable inner => inner.elementNulls

/-- Which elements of arrays in a member are null unions. -/
def Member.elementNulls : Member → List Bool
  | ⟨_, _, type⟩ => type.elementNulls

/-- Which elements of arrays in some members are null unions. -/
def Member.elementNullsAll : List Member → List Bool
  | [] => []
  | member :: members => member.elementNulls ++ Member.elementNullsAll members

end

mutual

/-- What the arrays in a base type state about null for their elements, in the same order. -/
def BaseType.elementNulls : BaseType → List Bool
  | .scalar _ => []
  | .array element elementNullable => elementNullable :: element.elementNulls
  | .struct properties => Property.elementNullsAll properties

/-- What the arrays in a property state about null for their elements. -/
def Property.elementNulls : Property → List Bool
  | ⟨_, baseType, _, _, _⟩ => baseType.elementNulls

/-- What the arrays in some properties state about null for their elements. -/
def Property.elementNullsAll : List Property → List Bool
  | [] => []
  | property :: properties => property.elementNulls ++ Property.elementNullsAll properties

end

/-- A null union around a node is none of an element inside of it. -/
@[simp] theorem Node.elementNulls_withNull (node : Node) (flag : Bool) :
    (node.withNull flag).elementNulls = node.elementNulls := by
  cases flag <;> rfl

mutual

/-- The elements that are null unions are those that the arrays of a base type ask for, under every
    kind and all options. -/
theorem BaseType.elementNulls_node (kind : Kind) (options : Options) :
    (type : BaseType) → (type.node kind options).elementNulls = type.elementNulls
  | .scalar _ => rfl
  | .array element elementNullable => by
      have inner := BaseType.elementNulls_node kind options element
      simp only [BaseType.node, Node.elementNulls, BaseType.elementNulls,
        BaseType.isNullable_withNull_node, Node.elementNulls_withNull, inner]
  | .struct properties => by
      have inner := Property.elementNullsAll_members kind options properties
      simp only [BaseType.node, Node.elementNulls, BaseType.elementNulls, inner]

/-- The elements that are null unions are those that the arrays of a property ask for. -/
theorem Property.elementNulls_member (kind : Kind) (options : Options) :
    (property : Property) → (property.member kind options).elementNulls = property.elementNulls
  | ⟨name, baseType, nullable, defaultNullable, mandatory⟩ => by
      have inner := BaseType.elementNulls_node kind options baseType
      simp only [Property.member, Member.elementNulls, Property.elementNulls,
        Node.elementNulls_withNull, inner]

/-- The elements that are null unions are those that the arrays of some properties ask for. -/
theorem Property.elementNullsAll_members (kind : Kind) (options : Options) :
    (properties : List Property) →
      Member.elementNullsAll (Property.members kind options properties) =
        Property.elementNullsAll properties
  | [] => rfl
  | property :: properties => by
      have first := Property.elementNulls_member kind options property
      have rest := Property.elementNullsAll_members kind options properties
      simp only [Property.members, Member.elementNullsAll, Property.elementNullsAll, first, rest]

end

/-!
### The three modes
-/

/-- How the projections of a property and of a base type relate. As a type, they are the same under
    all options. As an entity with the option, they are that result with every member required, at
    every depth. As an entity without it, they are the result with the option in which each member
    that is the null union of an array has lost that null union, at every depth; and the elements of
    arrays are null unions exactly where their arrays ask for it, in all three. -/
theorem projection_modes (options options' : Options) :
    (∀ property : Property,
      property.project .type options = property.project .type options' ∧
      ∃ asType withOption without : Member,
        (property.project .type options).outcome = .ok asType ∧
        (property.project .entity ⟨true⟩).outcome = .ok withOption ∧
        (property.project .entity ⟨false⟩).outcome = .ok without ∧
        withOption = asType.mapMembers Member.required ∧
        without = withOption.mapMembers Member.plainArray ∧
        asType.elementNulls = property.elementNulls ∧
        withOption.elementNulls = property.elementNulls ∧
        without.elementNulls = property.elementNulls) ∧
    ∀ type : BaseType,
      type.project .type options = type.project .type options' ∧
      ∃ asType withOption without : Node,
        (type.project .type options).outcome = .ok asType ∧
        (type.project .entity ⟨true⟩).outcome = .ok withOption ∧
        (type.project .entity ⟨false⟩).outcome = .ok without ∧
        withOption = asType.mapMembers Member.required ∧
        without = withOption.mapMembers Member.plainArray ∧
        asType.elementNulls = type.elementNulls ∧
        withOption.elementNulls = type.elementNulls ∧
        without.elementNulls = type.elementNulls := by
  have required := changesMembers_required options
  have plain := changesMembers_plainArray
  constructor
  · intro property
    refine ⟨property.project_type_congr options options', property.member .type options,
      property.member .entity ⟨true⟩, property.member .entity ⟨false⟩, ?_⟩
    refine ⟨property.outcome_project .type options, property.outcome_project .entity ⟨true⟩,
      property.outcome_project .entity ⟨false⟩, ?_, ?_, ?_⟩
    · exact (property.mapMembers_member required).symm
    · exact (property.mapMembers_member plain).symm
    · exact ⟨property.elementNulls_member .type options,
        property.elementNulls_member .entity ⟨true⟩, property.elementNulls_member .entity ⟨false⟩⟩
  · intro type
    refine ⟨type.project_type_congr options options', type.node .type options,
      type.node .entity ⟨true⟩, type.node .entity ⟨false⟩, ?_⟩
    refine ⟨type.outcome_project .type options, type.outcome_project .entity ⟨true⟩,
      type.outcome_project .entity ⟨false⟩, ?_, ?_, ?_⟩
    · exact (type.mapMembers_node required).symm
    · exact (type.mapMembers_node plain).symm
    · exact ⟨type.elementNulls_node .type options, type.elementNulls_node .entity ⟨true⟩,
        type.elementNulls_node .entity ⟨false⟩⟩

end SchemaProjection
