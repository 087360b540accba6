/-
Module: SchemaProjection.Proofs.OutputForm
Purpose: The form of what a projection emits. A node is well formed when no abstract node is in it
  and no null union in it holds another one directly, at any depth. Every projection is well formed,
  which is why neither of the two refusals that the output side knows, the one of a null union
  around a null union and the one of a node without a text, can come up from a container to its
  text.
Imports: SchemaProjection.Proofs.ProjectedForm, SchemaProjection.Proofs.Outcomes,
  SchemaProjection.Node.Text
Main exports: Node.Within, Node.WellFormed, BaseType.wellFormed_node, Interface.isOk_renderAll,
  containers_have_text
-/
import SchemaProjection.Proofs.ProjectedForm
import SchemaProjection.Proofs.Outcomes
import SchemaProjection.Node.Text

namespace SchemaProjection

/-!
### Well-formed nodes
-/

/-- A node is another node or stands somewhere inside of it. -/
inductive Node.Within (node : Node) : Node → Prop where
  | self : Within node node
  | element {element : Node} (below : Within node element) : Within node (.array element)
  | member {members : List Member} {member : Member} (mem : member ∈ members)
      (below : Within node member.type) : Within node (.struct members)
  | inner {inner : Node} (below : Within node inner) : Within node (.nullable inner)

/-- A node is well formed: every node in it is a scalar, an array, a structure or a null union, and
    no null union is the inner node of another one. -/
structure Node.WellFormed (node : Node) : Prop where
  concrete : ∀ part : Node, part.Within node → part ≠ .abstract
  flat : ∀ inner : Node, (Node.nullable inner).Within node → inner.isNullable [] = false

namespace Node

/-- A scalar is well formed. -/
theorem wellFormed_scalar (primitive : String) : (scalar primitive).WellFormed where
  concrete part within := by
    cases within
    nofun
  flat inner within := by cases within

/-- An array is well formed when its element is. -/
theorem wellFormed_array {element : Node} (below : element.WellFormed) :
    (array element).WellFormed where
  concrete part within := by
    cases within with
    | self => nofun
    | element within => exact below.concrete part within
  flat inner within := by
    cases within with
    | element within => exact below.flat inner within

/-- A structure is well formed when the types of its members are. -/
theorem wellFormed_struct {members : List Member}
    (below : ∀ member ∈ members, member.type.WellFormed) : (struct members).WellFormed where
  concrete part within := by
    cases within with
    | self => nofun
    | member mem within => exact (below _ mem).concrete part within
  flat inner within := by
    cases within with
    | member mem within => exact (below _ mem).flat inner within

/-- A null union around a well-formed node other than a null union is well formed. -/
theorem wellFormed_nullable {node : Node} (plain : node.isNullable [] = false)
    (below : node.WellFormed) : (nullable node).WellFormed where
  concrete part within := by
    cases within with
    | self => nofun
    | inner within => exact below.concrete part within
  flat inner within := by
    cases within with
    | self => exact plain
    | inner within => exact below.flat inner within

mutual

/-- A well-formed node is concrete, so that it has a text. -/
theorem isConcrete_of_wellFormed : (node : Node) → node.WellFormed → node.isConcrete = true
  | .abstract, wellFormed => absurd rfl (wellFormed.concrete .abstract .self)
  | .scalar _, _ => rfl
  | .array element, wellFormed => by
      rw [isConcrete]
      apply isConcrete_of_wellFormed element
      exact ⟨fun part within => wellFormed.concrete part (.element within),
        fun inner within => wellFormed.flat inner (.element within)⟩
  | .struct members, wellFormed => by
      rw [isConcrete]
      apply areConcrete_of_wellFormed members
      intro member mem
      exact ⟨fun part within => wellFormed.concrete part (.member mem within),
        fun inner within => wellFormed.flat inner (.member mem within)⟩
  | .nullable inner, wellFormed => by
      rw [isConcrete]
      apply isConcrete_of_wellFormed inner
      exact ⟨fun part within => wellFormed.concrete part (.inner within),
        fun deeper within => wellFormed.flat deeper (.inner within)⟩

/-- Members with well-formed types are concrete. -/
theorem areConcrete_of_wellFormed :
    (members : List Member) → (∀ member ∈ members, member.type.WellFormed) →
      Member.areConcrete members = true
  | [], _ => rfl
  | ⟨name, optional, type⟩ :: members, wellFormed => by
      have first := isConcrete_of_wellFormed type (wellFormed _ List.mem_cons_self)
      have rest := areConcrete_of_wellFormed members
        fun member mem => wellFormed member (List.mem_cons_of_mem _ mem)
      rw [Member.areConcrete, Member.isConcrete, first, rest, Bool.and_self]

end

end Node

/-!
### Projections are well formed
-/

section

variable (kind : Kind) (options : Options)

/-- The node of a base type is not a null union. -/
theorem BaseType.isNullable_node (type : BaseType) :
    (type.node kind options).isNullable [] = false := by
  cases type <;> rfl

/-- Asking for a null union around the node of a base type keeps it well formed. -/
theorem BaseType.wellFormed_withNull {type : BaseType}
    (below : (type.node kind options).WellFormed) (flag : Bool) :
    ((type.node kind options).withNull flag).WellFormed := by
  cases flag with
  | false => exact below
  | true => exact Node.wellFormed_nullable (type.isNullable_node kind options) below

mutual

/-- The node of a base type is well formed. -/
theorem BaseType.wellFormed_node : (type : BaseType) → (type.node kind options).WellFormed
  | .scalar primitive => Node.wellFormed_scalar primitive
  | .array element elementNullable => by
      have inner := BaseType.wellFormed_node element
      exact Node.wellFormed_array (BaseType.wellFormed_withNull kind options inner elementNullable)
  | .struct properties => Node.wellFormed_struct (Property.wellFormed_members properties)

/-- The type of a property's member is well formed. -/
theorem Property.wellFormed_member :
    (property : Property) → (property.member kind options).type.WellFormed
  | ⟨name, baseType, nullable, defaultNullable, mandatory⟩ => by
      have inner := BaseType.wellFormed_node baseType
      rw [Property.type_member]
      exact BaseType.wellFormed_withNull kind options inner _

/-- The types of the members of some properties are well formed. -/
theorem Property.wellFormed_members :
    (properties : List Property) →
      ∀ member ∈ Property.members kind options properties, member.type.WellFormed
  | [] => nofun
  | property :: properties => by
      have first := Property.wellFormed_member property
      have rest := Property.wellFormed_members properties
      exact List.forall_mem_cons.2 ⟨first, rest⟩

end

end

/-!
### Texts
-/

namespace Interface

/-- An interface has a text exactly when its members are concrete, whatever the indentation. -/
theorem isOk_render (interface : Interface) (indent : String) :
    (interface.render indent).isOk = Member.areConcrete interface.members := by
  rw [render, ← Member.isOk_renderList]
  cases Member.renderList interface.members <;> rfl

/-- Some interfaces have a text exactly when the members of all of them are concrete. -/
theorem isOk_renderAll (interfaces : List Interface) (indent : String) :
    (renderAll interfaces indent).isOk = true ↔
      ∀ interface ∈ interfaces, Member.areConcrete interface.members = true := by
  have texts : (renderAll interfaces indent).isOk =
      (interfaces.mapM fun each : Interface => each.render indent).isOk := by
    rw [renderAll]
    cases interfaces.mapM fun each : Interface => each.render indent <;> rfl
  rw [texts, isOk_mapM]
  simp only [isOk_render]

end Interface

/-- From containers to their text nothing is refused: under all options and with every indentation
    some containers are projected, and what they are projected to has a text. In it the types of all
    members are well formed. So is the node of each base type and the type of the member of each
    property, and the node of a base type is never a null union itself. -/
theorem containers_have_text (options : Options) (indent : String) (containers : List Container) :
    (∃ interfaces text,
      (Container.projectAll options containers).outcome = .ok interfaces ∧
      Interface.renderAll interfaces indent = .ok text ∧
      ∀ interface ∈ interfaces, ∀ member ∈ interface.members, member.type.WellFormed) ∧
    ∀ kind : Kind,
      (∀ type : BaseType, ∃ node, (type.project kind options).outcome = .ok node ∧
        node.WellFormed ∧ node.isNullable [] = false) ∧
      ∀ property : Property, ∃ member, (property.project kind options).outcome = .ok member ∧
        member.type.WellFormed := by
  constructor
  · have wellFormed : ∀ interface ∈ containers.map (Container.interface options),
        ∀ member ∈ interface.members, member.type.WellFormed := by
      intro interface mem
      obtain ⟨container, _, rfl⟩ := List.mem_map.1 mem
      exact Property.wellFormed_members container.kind options container.properties
    have shown : (Interface.renderAll (containers.map (Container.interface options)) indent).isOk =
        true := by
      apply (Interface.isOk_renderAll _ indent).2
      intro interface mem
      exact Node.areConcrete_of_wellFormed interface.members (wellFormed interface mem)
    cases written : Interface.renderAll (containers.map (Container.interface options)) indent with
    | error fault =>
        rw [written] at shown
        cases shown
    | ok text =>
        exact ⟨_, text, Container.outcome_projectAll options containers, written, wellFormed⟩
  · intro kind
    constructor
    · intro type
      exact ⟨_, type.outcome_project kind options, type.wellFormed_node kind options,
        type.isNullable_node kind options⟩
    · intro property
      exact ⟨_, property.outcome_project kind options, property.wellFormed_member kind options⟩

end SchemaProjection
