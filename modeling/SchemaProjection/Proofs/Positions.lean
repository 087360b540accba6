/-
Module: SchemaProjection.Proofs.Positions
Purpose: The rule table at every depth. A path goes from a declaration into a property, from a
  property of an inline structure into a property of that structure, and from an array into its
  element. The same path can be followed in the projection, below the null unions that were added,
  and what it leads to there is decided by the rules at that very place and the kind of the
  declaration.
Imports: SchemaProjection.Proofs.ProjectedForm
Main exports: Step, Site, Spot, Site.at?, Spot.at?, Site.Matches, Site.at?_image,
  project_matches_at_every_path
-/
import SchemaProjection.Proofs.ProjectedForm

namespace SchemaProjection

/-- One step of a path: into a property of a level, by its index, or into the element of an
    array. -/
inductive Step where
  | property (index : Nat)
  | element
deriving DecidableEq, Repr

/-- What a path leads to in a declaration: the declaration itself, a property, or the element of an
    array together with what the array states about null for it. -/
inductive Site where
  | root (properties : List Property)
  | ofProperty (property : Property)
  | ofElement (type : BaseType) (nullable : Bool)

/-- What a path leads to in a projection. -/
inductive Spot where
  | root (members : List Member)
  | ofMember (member : Member)
  | ofElement (node : Node)

/-!
### Following a path
-/

namespace Site

/-- The base type of a site. A declaration stands for the structure of its properties. -/
def type : Site → BaseType
  | .root properties => .struct properties
  | .ofProperty property => property.baseType
  | .ofElement type _ => type

/-- The site one step further, if the base type of a site allows the step. -/
def next? (site : Site) : Step → Option Site
  | .property index =>
      match site.type with
      | .struct properties => properties[index]?.map .ofProperty
      | .scalar _ | .array _ _ => none
  | .element =>
      match site.type with
      | .array element nullable => some (.ofElement element nullable)
      | .scalar _ | .struct _ => none

/-- The site at the end of a path. -/
def at? (site : Site) : List Step → Option Site
  | [] => some site
  | step :: path => (site.next? step).bind fun next => next.at? path

end Site

namespace Spot

/-- The node of a spot without its own null union. -/
def node : Spot → Node
  | .root members => .struct members
  | .ofMember member => member.type.unwrapNull
  | .ofElement node => node.unwrapNull

/-- The spot one step further, if the node of a spot allows the step. -/
def next? (spot : Spot) : Step → Option Spot
  | .property index =>
      match spot.node with
      | .struct members => members[index]?.map .ofMember
      | _ => none
  | .element =>
      match spot.node with
      | .array element => some (.ofElement element)
      | _ => none

/-- The spot at the end of a path. -/
def at? (spot : Spot) : List Step → Option Spot
  | [] => some spot
  | step :: path => (spot.next? step).bind fun next => next.at? path

end Spot

/-!
### The rule table
-/

/-- A node has the shape of a base type: the same primitive, an array for an array, and for a
    structure one member for each property, in order and under the same name. -/
def BaseType.SameShape : BaseType → Node → Prop
  | .scalar primitive, .scalar emitted => emitted = primitive
  | .array _ _, .array _ => True
  | .struct properties, .struct members =>
      members.map Member.name = properties.map Property.name
  | _, _ => False

/-- A member is the image of a property under a kind. Its presence and its null union follow from
    the property's own facts, the kind and the option on arrays of entities. -/
structure Property.IsImage (kind : Kind) (options : Options) (property : Property)
    (member : Member) : Prop where
  name : member.name = property.name
  optional : member.optional = true ↔
    kind = .type ∧ property.nullable.getD property.defaultNullable = true ∧
      property.mandatory = false
  nullUnion : member.type.isNullable [] = true ↔
    property.nullable.getD property.defaultNullable = true ∧
      ¬(kind = .entity ∧ (∃ element flag, property.baseType = .array element flag) ∧
        options.entityArrayNullUnion = false)
  shape : property.baseType.SameShape member.type.unwrapNull

/-- What a path leads to in a projection corresponds to what it leads to in the declaration. The
    null union of an element follows from its own array alone. -/
def Site.Matches (kind : Kind) (options : Options) : Site → Spot → Prop
  | .root properties, .root members => (BaseType.struct properties).SameShape (.struct members)
  | .ofProperty property, .ofMember member => property.IsImage kind options member
  | .ofElement type nullable, .ofElement node =>
      (node.isNullable [] = true ↔ nullable = true) ∧ type.SameShape node.unwrapNull
  | _, _ => False

/-!
### Paths commute with projection
-/

/-- What a site becomes in the projection. -/
def Site.image (kind : Kind) (options : Options) : Site → Spot
  | .root properties => .root (Property.members kind options properties)
  | .ofProperty property => .ofMember (property.member kind options)
  | .ofElement type nullable => .ofElement ((type.node kind options).withNull nullable)

section

variable (kind : Kind) (options : Options)

/-- The node of an image is that of the site's base type. -/
theorem Site.node_image (site : Site) :
    (site.image kind options).node = site.type.node kind options := by
  cases site with
  | root properties => rfl
  | ofProperty property => simp [Site.image, Spot.node, Site.type]
  | ofElement type nullable => simp [Site.image, Spot.node, Site.type]

/-- A step leads from an image to the image of what it leads to, and to nothing if it leads to
    nothing. -/
theorem Site.next?_image (site : Site) (step : Step) :
    (site.image kind options).next? step = (site.next? step).map (Site.image kind options) := by
  cases step with
  | property index =>
      simp only [Spot.next?, Site.next?, Site.node_image]
      cases site.type with
      | scalar primitive => rfl
      | array element nullable => rfl
      | struct properties =>
          simp only [BaseType.node, Property.members_eq_map, List.getElem?_map, Option.map_map]
          rfl
  | element =>
      simp only [Spot.next?, Site.next?, Site.node_image]
      cases site.type <;> rfl

/-- A path leads from an image to the image of what it leads to. -/
theorem Site.at?_image (site : Site) (path : List Step) :
    (site.image kind options).at? path = (site.at? path).map (Site.image kind options) := by
  induction path generalizing site with
  | nil => rfl
  | cons step path ih =>
      rw [Spot.at?, Site.at?, Site.next?_image]
      cases site.next? step with
      | none => rfl
      | some next => exact ih next

/-!
### Each image obeys the rules
-/

/-- The node of a base type has its shape. -/
theorem BaseType.sameShape_node (type : BaseType) : type.SameShape (type.node kind options) := by
  cases type with
  | scalar primitive => exact rfl
  | array element nullable => exact trivial
  | struct properties =>
      simp [BaseType.SameShape, BaseType.node, Property.members_eq_map]

/-- The array test holds of the arrays. -/
theorem BaseType.isArray_iff (type : BaseType) :
    type.isArray = true ↔ ∃ element flag, type = .array element flag := by
  cases type <;> simp [BaseType.isArray]

/-- The member of a property is its image. -/
theorem Property.isImage_member (property : Property) :
    property.IsImage kind options (property.member kind options) where
  name := property.name_member kind options
  optional := by
    rw [Property.optional_member]
    cases kind <;> simp [Facts.isOptional, Property.facts, Property.resolvedNullable]
  nullUnion := by
    rw [Property.type_member, BaseType.isNullable_withNull_node, ← BaseType.isArray_iff]
    simp only [Facts.isNullUnion, Property.facts, Property.resolvedNullable]
    cases kind <;> cases property.baseType.isArray <;> simp
  shape := by
    rw [Property.type_member, BaseType.unwrapNull_withNull_node]
    exact property.baseType.sameShape_node kind options

/-- Every site matches its image. -/
theorem Site.matches_image (site : Site) :
    site.Matches kind options (site.image kind options) := by
  cases site with
  | root properties => exact (BaseType.struct properties).sameShape_node kind options
  | ofProperty property => exact property.isImage_member kind options
  | ofElement type nullable =>
      constructor
      · rw [BaseType.isNullable_withNull_node]
      · rw [BaseType.unwrapNull_withNull_node]
        exact type.sameShape_node kind options

end

/-- A projection is a position-by-position image of its container. It keeps the container's name,
    kind and description, and every path leads to something in the container exactly when it leads
    to something in the projection, which then obeys the rule table under the container's kind. -/
theorem project_matches_at_every_path (options : Options) (container : Container) :
    ∃ interface, (container.project options).outcome = .ok interface ∧
      interface.name = container.name ∧ interface.kind = container.kind ∧
      interface.description = container.description ∧
      ∀ path, Option.Rel (Site.Matches container.kind options)
        ((Site.root container.properties).at? path) ((Spot.root interface.members).at? path) := by
  refine ⟨container.interface options, container.outcome_project options, rfl, rfl, rfl, ?_⟩
  intro path
  have commutes := Site.at?_image container.kind options (.root container.properties) path
  change (Spot.root (container.interface options).members).at? path = _ at commutes
  rw [commutes]
  cases (Site.root container.properties).at? path with
  | none => exact .none
  | some site => exact .some (site.matches_image container.kind options)

end SchemaProjection
