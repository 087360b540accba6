/-
Module: SchemaProjection.Proofs.NormalForm
Purpose: What a projection keeps of a declaration. The normal form of a property has its name, its
  shape, its primitives and what its arrays state about elements; of what is stated about null and
  about presence it keeps only what the kind and the option let through. Projecting is the same for
  a property and its normal form, and the normal form can be read back from the member, so that two
  properties have one projection exactly when they have one normal form.
Imports: SchemaProjection.Proofs.ProjectedForm
Main exports: Property.normal, Member.declared, Property.member_normal, Property.declared_member,
  outcome_project_eq_iff
-/
import SchemaProjection.Proofs.ProjectedForm

namespace SchemaProjection

/-!
### The normal form
-/

/-- Whether a projection says nothing about the null of a property: for an array of an entity,
    unless the options ask for its null union. -/
def Facts.isSilent (facts : Facts) (kind : Kind) (options : Options) : Bool :=
  kind == .entity && facts.isArray && !options.entityArrayNullUnion

/-- What a projection keeps of the nullability of a property. -/
def Facts.keptNullable (facts : Facts) (kind : Kind) (options : Options) : Option Bool :=
  if facts.isSilent kind options then none else some facts.nullable

/-- What a projection keeps of the mark that a property is mandatory: all of it for a property of a
    type that may be null, and nothing for any other. -/
def Facts.keptMandatory (facts : Facts) : Kind → Bool
  | .entity => false
  | .type => facts.nullable && facts.mandatory

mutual

/-- The normal form of a base type. -/
def BaseType.normal (kind : Kind) (options : Options) : BaseType → BaseType
  | .scalar primitive => .scalar primitive
  | .array element elementNullable => .array (element.normal kind options) elementNullable
  | .struct properties => .struct (Property.normals kind options properties)

/-- The normal form of a property. What is kept of its nullability is stated, and it has the default
    that it may not be null. -/
def Property.normal (kind : Kind) (options : Options) : Property → Property
  | ⟨name, baseType, nullable, defaultNullable, mandatory⟩ =>
      let facts := (Property.mk name baseType nullable defaultNullable mandatory).facts
      ⟨name, baseType.normal kind options, facts.keptNullable kind options, false,
        facts.keptMandatory kind⟩

/-- The normal forms of some properties in order. -/
def Property.normals (kind : Kind) (options : Options) : List Property → List Property
  | [] => []
  | property :: properties =>
      property.normal kind options :: Property.normals kind options properties

end

/-!
### A normal form has the same projection
-/

/-- A normal form is an array exactly when the base type is. -/
@[simp] theorem BaseType.isArray_normal (kind : Kind) (options : Options) (type : BaseType) :
    (type.normal kind options).isArray = type.isArray := by
  cases type <;> rfl

namespace Facts

variable (facts : Facts) (kind : Kind) (options : Options)

/-- A property that may be null has a null union unless the projection is silent about it. -/
theorem isNullUnion_eq :
    facts.isNullUnion kind options = (facts.nullable && !facts.isSilent kind options) := rfl

/-- What is kept of the nullability says whether there is a null union. -/
theorem getD_keptNullable :
    (facts.keptNullable kind options).getD false = facts.isNullUnion kind options := by
  rw [isNullUnion_eq, keptNullable]
  cases facts.isSilent kind options with
  | true => exact (Bool.and_false facts.nullable).symm
  | false => exact (Bool.and_true facts.nullable).symm

/-- The facts about a normal form. -/
def kept : Facts where
  nullable := (facts.keptNullable kind options).getD false
  mandatory := facts.keptMandatory kind
  isArray := facts.isArray

/-- What is kept leads to the same null union. -/
theorem isNullUnion_kept :
    (facts.kept kind options).isNullUnion kind options = facts.isNullUnion kind options := by
  have same : (facts.kept kind options).isSilent kind options = facts.isSilent kind options := rfl
  rw [isNullUnion_eq, same, kept, getD_keptNullable, isNullUnion_eq, Bool.and_assoc, Bool.and_self]

/-- What is kept leads to the same mark. -/
theorem isOptional_kept :
    (facts.kept kind options).isOptional kind = facts.isOptional kind := by
  cases kind with
  | entity => rfl
  | type =>
      obtain ⟨nullable, mandatory, isArray⟩ := facts
      cases nullable <;> cases mandatory <;> rfl

end Facts

/-- The facts about the normal form of a property are those that are kept. -/
theorem Property.facts_normal (kind : Kind) (options : Options) (property : Property) :
    (property.normal kind options).facts = property.facts.kept kind options := by
  obtain ⟨name, baseType, nullable, defaultNullable, mandatory⟩ := property
  simp only [Property.normal, Property.facts, Property.resolvedNullable, Facts.kept,
    BaseType.isArray_normal]

mutual

/-- The node of a base type is that of its normal form. -/
theorem BaseType.node_normal (kind : Kind) (options : Options) :
    (type : BaseType) → (type.normal kind options).node kind options = type.node kind options
  | .scalar _ => rfl
  | .array element elementNullable => by
      have inner := BaseType.node_normal kind options element
      simp only [BaseType.normal, BaseType.node, inner]
  | .struct properties => by
      have inner := Property.members_normals kind options properties
      simp only [BaseType.normal, BaseType.node, inner]

/-- The member of a property is that of its normal form. -/
theorem Property.member_normal (kind : Kind) (options : Options) :
    (property : Property) →
      (property.normal kind options).member kind options = property.member kind options
  | ⟨name, baseType, nullable, defaultNullable, mandatory⟩ => by
      have inner := BaseType.node_normal kind options baseType
      have kept := Property.facts_normal kind options
        ⟨name, baseType, nullable, defaultNullable, mandatory⟩
      simp only [Property.normal] at kept ⊢
      simp only [Property.member, kept, inner, Facts.isOptional_kept, Facts.isNullUnion_kept]

/-- The members of some properties are those of their normal forms. -/
theorem Property.members_normals (kind : Kind) (options : Options) :
    (properties : List Property) →
      Property.members kind options (Property.normals kind options properties) =
        Property.members kind options properties
  | [] => rfl
  | property :: properties => by
      have first := Property.member_normal kind options property
      have rest := Property.members_normals kind options properties
      simp only [Property.normals, Property.members, first, rest]

end

/-!
### The normal form is read back from the projection
-/

/-- The facts that a member shows of the property it came from. -/
def Member.facts (member : Member) : Facts where
  nullable := member.type.isNullable []
  mandatory := !member.optional
  isArray := member.type.unwrapNull.isArray none

mutual

/-- The base type that a node shows. An abstract node, which no projection holds, shows nothing. -/
def Node.declared (kind : Kind) (options : Options) : Node → BaseType
  | .abstract => default
  | .scalar primitive => .scalar primitive
  | .array element => .array (element.declared kind options) (element.isNullable [])
  | .struct members => .struct (Member.declaredAll kind options members)
  | .nullable inner => inner.declared kind options

/-- The property that a member shows, in normal form. -/
def Member.declared (kind : Kind) (options : Options) : Member → Property
  | ⟨name, optional, type⟩ =>
      let facts := (Member.mk name optional type).facts
      ⟨name, type.declared kind options, facts.keptNullable kind options, false,
        facts.keptMandatory kind⟩

/-- The properties that some members show. -/
def Member.declaredAll (kind : Kind) (options : Options) : List Member → List Property
  | [] => []
  | member :: members =>
      member.declared kind options :: Member.declaredAll kind options members

end

/-- A null union shows the base type of what is inside of it. -/
@[simp] theorem Node.declared_withNull (kind : Kind) (options : Options) (node : Node)
    (flag : Bool) :
    (node.withNull flag).declared kind options = node.declared kind options := by
  cases flag <;> rfl

namespace Facts

variable (facts : Facts) (kind : Kind) (options : Options)

/-- The facts that are left of some facts when only their mark and their null union are shown. -/
def shown : Facts where
  nullable := facts.isNullUnion kind options
  mandatory := !facts.isOptional kind
  isArray := facts.isArray

/-- The null union shows all that is kept of the nullability. -/
theorem keptNullable_shown :
    (facts.shown kind options).keptNullable kind options = facts.keptNullable kind options := by
  have same : (facts.shown kind options).isSilent kind options = facts.isSilent kind options := rfl
  rw [keptNullable, keptNullable, same]
  cases silent : facts.isSilent kind options with
  | true => rfl
  -- not silent: the null union is there exactly when the property may be null
  | false => simp [shown, isNullUnion_eq, silent]

/-- Together with the null union, the mark shows all that is kept of being mandatory. -/
theorem keptMandatory_shown :
    (facts.shown kind options).keptMandatory kind = facts.keptMandatory kind := by
  cases kind with
  | entity => rfl
  | type =>
      obtain ⟨nullable, mandatory, isArray⟩ := facts
      cases nullable <;> cases mandatory <;> rfl

end Facts

/-- The node of a base type is an array exactly when the base type is. -/
@[simp] theorem BaseType.isArray_node (kind : Kind) (options : Options) (type : BaseType) :
    (type.node kind options).isArray none = type.isArray := by
  cases type <;> rfl

/-- A member shows what is left of the facts about its property. -/
theorem Property.facts_member (kind : Kind) (options : Options) (property : Property) :
    (property.member kind options).facts = property.facts.shown kind options := by
  simp only [Member.facts, Property.optional_member, Property.type_member,
    BaseType.isNullable_withNull_node, BaseType.unwrapNull_withNull_node, BaseType.isArray_node,
    Facts.shown]
  rfl

mutual

/-- The node of a base type shows its normal form. -/
theorem BaseType.declared_node (kind : Kind) (options : Options) :
    (type : BaseType) →
      (type.node kind options).declared kind options = type.normal kind options
  | .scalar _ => rfl
  | .array element elementNullable => by
      have inner := BaseType.declared_node kind options element
      simp only [BaseType.node, Node.declared, BaseType.normal, Node.declared_withNull,
        BaseType.isNullable_withNull_node, inner]
  | .struct properties => by
      have inner := Property.declaredAll_members kind options properties
      simp only [BaseType.node, Node.declared, BaseType.normal, inner]

/-- The member of a property shows its normal form. -/
theorem Property.declared_member (kind : Kind) (options : Options) :
    (property : Property) →
      (property.member kind options).declared kind options = property.normal kind options
  | ⟨name, baseType, nullable, defaultNullable, mandatory⟩ => by
      have inner := BaseType.declared_node kind options baseType
      have shown := Property.facts_member kind options
        ⟨name, baseType, nullable, defaultNullable, mandatory⟩
      simp only [Property.member] at shown ⊢
      simp only [Member.declared, Property.normal, shown, Node.declared_withNull, inner,
        Facts.keptNullable_shown, Facts.keptMandatory_shown]

/-- The members of some properties show their normal forms. -/
theorem Property.declaredAll_members (kind : Kind) (options : Options) :
    (properties : List Property) →
      Member.declaredAll kind options (Property.members kind options properties) =
        Property.normals kind options properties
  | [] => rfl
  | property :: properties => by
      have first := Property.declared_member kind options property
      have rest := Property.declaredAll_members kind options properties
      simp only [Property.members, Member.declaredAll, Property.normals, first, rest]

end

/-!
### What is merged
-/

/-- Two properties have one member exactly when they have one normal form. -/
theorem Property.member_eq_member_iff (kind : Kind) (options : Options) (first second : Property) :
    first.member kind options = second.member kind options ↔
      first.normal kind options = second.normal kind options := by
  constructor
  · intro same
    rw [← first.declared_member kind options, same, second.declared_member kind options]
  · intro same
    rw [← first.member_normal kind options, same, second.member_normal kind options]

/-- The projections of two properties succeed, and they are equal exactly when the properties have
    one normal form under the kind and the options: no other declarations are merged. -/
theorem outcome_project_eq_iff (kind : Kind) (options : Options) (first second : Property) :
    ∃ one two : Member,
      (first.project kind options).outcome = .ok one ∧
      (second.project kind options).outcome = .ok two ∧
      (one = two ↔ first.normal kind options = second.normal kind options) := by
  refine ⟨first.member kind options, second.member kind options, ?_, ?_, ?_⟩
  · exact first.outcome_project kind options
  · exact second.outcome_project kind options
  · exact first.member_eq_member_iff kind options second

end SchemaProjection
