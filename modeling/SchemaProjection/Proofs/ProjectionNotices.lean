/-
Module: SchemaProjection.Proofs.ProjectionNotices
Purpose: The record of a projection. Each container opens with one notice of its own, and after it
  comes a notice for every null union that was withheld, in post-order: what lies inside of a
  property comes before the property, and siblings keep their order. The places of a declaration
  list its properties at every depth in that order, each with the path to it, so that none is missed
  and none is counted twice. The notices of withheld null unions count what the option would add.
Imports: SchemaProjection.Proofs.Positions
Main exports: Place, BaseType.places, PathBefore, Property.isWithheld, Container.withheld,
  BaseType.mem_places, BaseType.pairwise_places, Container.notices_projectAll,
  BaseType.nullUnions_node, notices_are_withheld_places
-/
import SchemaProjection.Proofs.Positions

namespace SchemaProjection

/-!
### Places
-/

/-- A property inside of a declaration with the path that leads to it. -/
structure Place where
  path : List Step
  property : Property

/-- A place as it is seen from one step further out. -/
def Place.under (step : Step) (place : Place) : Place := ⟨step :: place.path, place.property⟩

mutual

/-- The properties inside of a base type, at every depth and in post-order. -/
def BaseType.places : BaseType → List Place
  | .scalar _ => []
  | .array element _ => element.places.map (Place.under .element)
  | .struct properties => Property.placesFrom 0 properties

/-- The properties inside of a property, and after them the property itself. -/
def Property.places : Property → List Place
  | ⟨name, baseType, nullable, defaultNullable, mandatory⟩ =>
      baseType.places ++ [⟨[], ⟨name, baseType, nullable, defaultNullable, mandatory⟩⟩]

/-- The properties inside of some properties and these themselves. The first of them has the index
    given. -/
def Property.placesFrom (index : Nat) : List Property → List Place
  | [] => []
  | property :: properties =>
      property.places.map (Place.under (.property index)) ++
        Property.placesFrom (index + 1) properties

end

/-- One path comes before another one in post-order: it goes on where the other one ends, or it
    turns to an earlier property where the two part. -/
def PathBefore : List Step → List Step → Prop
  | _ :: _, [] => True
  | .property index :: path, .property other :: rest =>
      index < other ∨ index = other ∧ PathBefore path rest
  | .element :: path, .element :: rest => PathBefore path rest
  | _, _ => False

/-- No path comes before itself, so a list of paths in this order names none of them twice. -/
theorem not_pathBefore_self (path : List Step) : ¬PathBefore path path := by
  induction path with
  | nil => exact id
  | cons step path ih =>
      cases step with
      | element => exact ih
      | property index =>
          rintro (earlier | ⟨_, before⟩)
          · exact Nat.lt_irrefl index earlier
          · exact ih before

/-!
### Every property has one place
-/

/-- A path goes on from what its first step leads to, which the base type alone decides. -/
theorem Site.at?_cons (site : Site) (step : Step) (path : List Step) :
    site.at? (step :: path) = (site.next? step).bind fun next => next.at? path := rfl

/-- From a site whose base type is a structure, a path goes on from the property of its first
    step. -/
theorem Site.at?_property {site : Site} {properties : List Property}
    (struct : site.type = .struct properties) (index : Nat) (path : List Step) :
    site.at? (.property index :: path) =
      properties[index]?.bind fun property => (Site.ofProperty property).at? path := by
  rw [Site.at?_cons, Site.next?, struct]
  exact Option.bind_map

/-- A place is among those seen from one step further out when its path begins with that step and
    goes on to one of them. -/
theorem Place.mem_map_under {place : Place} {step : Step} {places : List Place} :
    place ∈ places.map (Place.under step) ↔
      ∃ path, place.path = step :: path ∧ ⟨path, place.property⟩ ∈ places := by
  constructor
  · intro mem
    obtain ⟨inner, among, rfl⟩ := List.mem_map.1 mem
    exact ⟨inner.path, rfl, among⟩
  · rintro ⟨path, begins, among⟩
    refine List.mem_map.2 ⟨⟨path, place.property⟩, among, ?_⟩
    rw [Place.under, ← begins]

mutual

/-- The places inside of a base type are the properties that paths lead to from a value of it. -/
theorem BaseType.mem_places (place : Place) (flag : Bool) :
    (type : BaseType) →
      (place ∈ type.places ↔
        (Site.ofElement type flag).at? place.path = some (.ofProperty place.property))
  | .scalar primitive => by
      obtain ⟨path, property⟩ := place
      cases path with
      | nil => simp [BaseType.places, Site.at?]
      | cons step path => cases step <;> simp [BaseType.places, Site.at?, Site.next?, Site.type]
  | .array element elementNullable => by
      rw [BaseType.places, Place.mem_map_under]
      obtain ⟨path, property⟩ := place
      cases path with
      | nil => simp [Site.at?]
      | cons step path =>
          cases step with
          | property index => simp [Site.at?, Site.next?, Site.type]
          | element =>
              have inner := BaseType.mem_places ⟨path, property⟩ elementNullable element
              simpa [Site.at?, Site.next?, Site.type] using inner
  | .struct properties => by
      rw [BaseType.places, Property.mem_placesFrom place 0 properties]
      obtain ⟨path, property⟩ := place
      cases path with
      | nil => simp [Site.at?]
      | cons step path =>
          cases step with
          | element => simp [Site.at?, Site.next?, Site.type]
          | property index =>
              have struct : (Site.ofElement (.struct properties) flag).type =
                  .struct properties := rfl
              rw [Site.at?_property struct]
              constructor
              · rintro ⟨offset, rest, begins, reached⟩
                simp only [List.cons.injEq, Step.property.injEq, Nat.zero_add] at begins
                obtain ⟨rfl, rfl⟩ := begins
                exact reached
              · intro reached
                exact ⟨index, path, by rw [Nat.zero_add], reached⟩

/-- The places of a property are the property itself and those that paths lead to inside of it. -/
theorem Property.mem_places (place : Place) :
    (property : Property) →
      (place ∈ property.places ↔
        (Site.ofProperty property).at? place.path = some (.ofProperty place.property))
  | ⟨name, baseType, nullable, defaultNullable, mandatory⟩ => by
      have inside := BaseType.mem_places place false baseType
      obtain ⟨path, property⟩ := place
      simp only [Property.places, List.mem_append, inside]
      cases path with
      | nil => simp [Site.at?, eq_comm]
      | cons step path => simp [Site.at?_cons, Site.next?, Site.type]

/-- The places of some properties are those of each of them, under its index. -/
theorem Property.mem_placesFrom (place : Place) (index : Nat) :
    (properties : List Property) →
      (place ∈ Property.placesFrom index properties ↔
        ∃ offset path, place.path = .property (index + offset) :: path ∧
          (properties[offset]?.bind fun property => (Site.ofProperty property).at? path) =
            some (.ofProperty place.property))
  | [] => by simp [Property.placesFrom]
  | first :: properties => by
      rw [Property.placesFrom, List.mem_append, Place.mem_map_under,
        Property.mem_placesFrom place (index + 1) properties]
      constructor
      · rintro (⟨path, begins, among⟩ | ⟨offset, path, begins, reached⟩)
        · have own := Property.mem_places ⟨path, place.property⟩ first
          exact ⟨0, path, begins, own.1 among⟩
        · exact ⟨offset + 1, path, by rw [begins]; congr 2; omega, reached⟩
      · rintro ⟨offset, path, begins, reached⟩
        cases offset with
        | zero =>
            have own := Property.mem_places ⟨path, place.property⟩ first
            exact .inl ⟨path, begins, own.2 reached⟩
        | succ offset => exact .inr ⟨offset, path, by rw [begins]; congr 2; omega, reached⟩

end

/-- No place inside of a base type is the base type itself. -/
theorem BaseType.path_ne_nil {type : BaseType} {place : Place} (mem : place ∈ type.places) :
    place.path ≠ [] := by
  intro empty
  have reached := (BaseType.mem_places place false type).1 mem
  rw [empty] at reached
  cases reached

/-!
### The places are in post-order
-/

/-- One more step in front of two paths keeps their order. -/
theorem PathBefore.cons {path other : List Step} (before : PathBefore path other) (step : Step) :
    PathBefore (step :: path) (step :: other) := by
  cases step with
  | element => exact before
  | property index => exact .inr ⟨rfl, before⟩

/-- One more step in front of all places keeps their order. -/
theorem Place.pairwise_map_under {places : List Place} (step : Step)
    (ordered : places.Pairwise fun first second => PathBefore first.path second.path) :
    (places.map (Place.under step)).Pairwise
      fun first second => PathBefore first.path second.path :=
  ordered.map _ fun _ _ before => before.cons step

mutual

/-- The places inside of a base type are in post-order. -/
theorem BaseType.pairwise_places :
    (type : BaseType) →
      type.places.Pairwise fun first second => PathBefore first.path second.path
  | .scalar _ => .nil
  | .array element _ => Place.pairwise_map_under .element (BaseType.pairwise_places element)
  | .struct properties => Property.pairwise_placesFrom 0 properties

/-- The places of a property are in post-order. -/
theorem Property.pairwise_places :
    (property : Property) →
      property.places.Pairwise fun first second => PathBefore first.path second.path
  | ⟨name, baseType, nullable, defaultNullable, mandatory⟩ => by
      refine List.pairwise_append.2 ⟨BaseType.pairwise_places baseType, List.pairwise_singleton _ _,
        ?_⟩
      intro inner among own last
      cases List.mem_singleton.1 last
      cases inside : inner.path with
      | nil => exact absurd inside (BaseType.path_ne_nil among)
      | cons step path => exact trivial

/-- The places of some properties are in post-order. -/
theorem Property.pairwise_placesFrom (index : Nat) :
    (properties : List Property) →
      (Property.placesFrom index properties).Pairwise
        fun first second => PathBefore first.path second.path
  | [] => .nil
  | first :: properties => by
      have own := Place.pairwise_map_under (.property index) (Property.pairwise_places first)
      refine List.pairwise_append.2 ⟨own, Property.pairwise_placesFrom (index + 1) properties, ?_⟩
      intro earlier before later after
      obtain ⟨path, begins, _⟩ := Place.mem_map_under.1 before
      obtain ⟨offset, rest, starts, _⟩ := (Property.mem_placesFrom later (index + 1) properties).1
        after
      rw [begins, starts]
      exact .inl (by omega)

end

/-!
### The notices of a projection
-/

/-- The null union of a property is withheld: its value may be null, and it has none. -/
def Facts.isWithheld (facts : Facts) (kind : Kind) (options : Options) : Bool :=
  facts.nullable && !facts.isNullUnion kind options

/-- The null unions that are withheld are those of the arrays of an entity that may be null, unless
    the options ask for them. -/
theorem Facts.isWithheld_iff (facts : Facts) (kind : Kind) (options : Options) :
    facts.isWithheld kind options = true ↔
      kind = .entity ∧ options.entityArrayNullUnion = false ∧ facts.nullable = true ∧
        facts.isArray = true := by
  obtain ⟨nullable, mandatory, isArray⟩ := facts
  obtain ⟨flag⟩ := options
  cases kind <;> cases nullable <;> cases isArray <;> cases flag <;>
    simp [isWithheld, isNullUnion]

/-- The notices of the withheld null unions among some places. -/
def withheldNotices (kind : Kind) (options : Options) (places : List Place) : List Notice :=
  (places.filter fun place => place.property.facts.isWithheld kind options).map
    fun place => .suppressed place.property.name

section

variable (kind : Kind) (options : Options)

@[simp] theorem withheldNotices_append (places others : List Place) :
    withheldNotices kind options (places ++ others) =
      withheldNotices kind options places ++ withheldNotices kind options others := by
  simp [withheldNotices]

/-- The notices do not depend on the paths. -/
@[simp] theorem withheldNotices_map_under (step : Step) (places : List Place) :
    withheldNotices kind options (places.map (Place.under step)) =
      withheldNotices kind options places := by
  simp [withheldNotices, List.filter_map, Function.comp_def, Place.under]

/-- The notices of two computations in a row, of which the first succeeds. -/
theorem Traced.notices_bind {α β : Type} {first : Traced α} {value : α}
    (done : first.outcome = .ok value) (next : α → Traced β) :
    (first >>= next).notices = first.notices ++ (next value).notices := by
  obtain ⟨notices, outcome⟩ := first
  cases done
  rfl

/-- Wrapping the type of a property gives a notice exactly when its null union is withheld. -/
theorem Facts.notices_wrap (facts : Facts) (name : String) (type : Node) :
    (facts.wrap kind options name type).notices =
      if facts.isWithheld kind options then [.suppressed name] else [] := by
  unfold Facts.wrap Facts.isWithheld
  cases facts.isNullUnion kind options <;> cases facts.nullable <;> rfl

mutual

/-- Projecting a base type gives the notices of the places inside of it. -/
theorem BaseType.notices_project :
    (type : BaseType) →
      (type.project kind options).notices = withheldNotices kind options type.places
  | .scalar _ => rfl
  | .array element elementNullable => by
      have inner := BaseType.notices_project element
      rw [BaseType.project, Traced.notices_bind (element.outcome_project kind options), inner,
        BaseType.places, withheldNotices_map_under]
      cases elementNullable with
      | false => exact List.append_nil _
      | true =>
          have wrapped : (Traced.ofExcept (element.node kind options).orNull).outcome = _ :=
            element.orNull_node kind options
          change _ ++ (Traced.ofExcept (element.node kind options).orNull >>= _).notices = _
          rw [Traced.notices_bind wrapped]
          exact List.append_nil _
  | .struct properties => by
      have inner := Property.notices_projectList properties 0
      rw [BaseType.project, Traced.notices_bind (Property.outcome_projectList kind options _),
        inner]
      exact List.append_nil _

/-- Projecting a property gives the notices of the places inside of it and then its own. -/
theorem Property.notices_project :
    (property : Property) →
      (property.project kind options).notices = withheldNotices kind options property.places
  | ⟨name, baseType, nullable, defaultNullable, mandatory⟩ => by
      have inner := BaseType.notices_project baseType
      have wrapped := Facts.outcome_wrap
        (Property.mk name baseType nullable defaultNullable mandatory).facts kind options name
        baseType
      rw [Property.project, Traced.notices_bind (baseType.outcome_project kind options), inner,
        Property.places, withheldNotices_append]
      congr 1
      rw [Traced.notices_bind wrapped, Facts.notices_wrap]
      simp only [withheldNotices, List.filter_cons, List.filter_nil]
      cases Facts.isWithheld _ kind options <;> rfl

/-- Projecting some properties gives the notices of their places. -/
theorem Property.notices_projectList :
    (properties : List Property) → (index : Nat) →
      (Property.projectList kind options properties).notices =
        withheldNotices kind options (Property.placesFrom index properties)
  | [], _ => rfl
  | property :: properties, index => by
      have first := Property.notices_project property
      have rest := Property.notices_projectList properties (index + 1)
      rw [Property.projectList, Traced.notices_bind (property.outcome_project kind options), first,
        Property.placesFrom, withheldNotices_append, withheldNotices_map_under]
      congr 1
      rw [Traced.notices_bind (Property.outcome_projectList kind options properties), rest]
      exact List.append_nil _

end

end

/-- The places of a container whose null unions are withheld, in post-order. -/
def Container.withheld (options : Options) (container : Container) : List Place :=
  (BaseType.struct container.properties).places.filter
    fun place => place.property.facts.isWithheld container.kind options

/-- The notices that projecting a container gives. -/
def Container.notices (options : Options) (container : Container) : List Notice :=
  .projecting container.kind container.name container.properties.length ::
    (container.withheld options).map fun place => .suppressed place.property.name

/-- The texts of the notices that projecting a container gives. -/
theorem Container.message_notices (options : Options) (container : Container) :
    (container.notices options).map Notice.message =
      ("Projecting " ++ container.kind.text ++ " '" ++ container.name ++ "' with " ++
        toString container.properties.length ++ " properties") ::
      (container.withheld options).map fun place =>
        "Entity array property '" ++ place.property.name ++
          "' is nullable but emitted without null union" := by
  rw [notices, List.map_cons, List.map_map]
  rfl

/-- Projecting a container gives its notices. -/
theorem Container.notices_project (options : Options) (container : Container) :
    (container.project options).notices = container.notices options := by
  have members := Property.outcome_projectList container.kind options container.properties
  have inner := Property.notices_projectList container.kind options container.properties 0
  unfold Container.project
  rw [Traced.notices_bind rfl, Traced.notices_bind members, inner]
  exact congrArg (_ :: ·) (List.append_nil _)

/-- Projecting containers gives the notices of each of them in order. -/
theorem Container.notices_projectAll (options : Options) (containers : List Container) :
    (Container.projectAll options containers).notices =
      containers.flatMap (Container.notices options) := by
  induction containers with
  | nil => rfl
  | cons container containers ih =>
      rw [Container.projectAll, Traced.notices_bind (container.outcome_project options),
        container.notices_project options, List.flatMap_cons]
      congr 1
      rw [Traced.notices_bind (Container.outcome_projectAll options containers), ih]
      exact List.append_nil _

/-!
### What the option would add
-/

mutual

/-- How many null unions are in a node, at every depth. -/
def Node.nullUnions : Node → Nat
  | .abstract | .scalar _ => 0
  | .array element => element.nullUnions
  | .struct members => Member.nullUnionsAll members
  | .nullable inner => inner.nullUnions + 1

/-- How many null unions are in a member. -/
def Member.nullUnions : Member → Nat
  | ⟨_, _, type⟩ => type.nullUnions

/-- How many null unions are in some members. -/
def Member.nullUnionsAll : List Member → Nat
  | [] => 0
  | member :: members => member.nullUnions + Member.nullUnionsAll members

end

/-- How many null unions are in some interfaces. -/
def Interface.nullUnionsAll : List Interface → Nat
  | [] => 0
  | interface :: interfaces =>
      Member.nullUnionsAll interface.members + Interface.nullUnionsAll interfaces

/-- A null union around a node is one more. -/
@[simp] theorem Node.nullUnions_withNull (node : Node) (flag : Bool) :
    (node.withNull flag).nullUnions = node.nullUnions + flag.toNat := by
  cases flag <;> rfl

/-- How many of some places have their null unions withheld. -/
def withheldCount (kind : Kind) (options : Options) (places : List Place) : Nat :=
  places.countP fun place => place.property.facts.isWithheld kind options

section

variable (kind : Kind) (options : Options)

@[simp] theorem withheldCount_append (places others : List Place) :
    withheldCount kind options (places ++ others) =
      withheldCount kind options places + withheldCount kind options others :=
  List.countP_append

@[simp] theorem withheldCount_map_under (step : Step) (places : List Place) :
    withheldCount kind options (places.map (Place.under step)) =
      withheldCount kind options places :=
  List.countP_map

theorem withheldCount_singleton (place : Place) :
    withheldCount kind options [place] =
      (place.property.facts.isWithheld kind options).toNat := by
  rw [withheldCount, List.countP_singleton]
  cases place.property.facts.isWithheld kind options <;> rfl

/-- With the option a null union is there if it is there without, or withheld. -/
theorem Facts.isNullUnion_option (facts : Facts) :
    (facts.isNullUnion kind ⟨true⟩).toNat =
      (facts.isNullUnion kind options).toNat + (facts.isWithheld kind options).toNat := by
  obtain ⟨nullable, mandatory, isArray⟩ := facts
  obtain ⟨flag⟩ := options
  cases kind <;> cases nullable <;> cases isArray <;> cases flag <;> rfl

mutual

/-- With the option the node of a base type has one more null union for each one withheld. -/
theorem BaseType.nullUnions_node :
    (type : BaseType) →
      (type.node kind ⟨true⟩).nullUnions =
        (type.node kind options).nullUnions + withheldCount kind options type.places
  | .scalar _ => rfl
  | .array element elementNullable => by
      have inner := BaseType.nullUnions_node element
      simp only [BaseType.node, Node.nullUnions, Node.nullUnions_withNull, BaseType.places,
        withheldCount_map_under, inner]
      omega
  | .struct properties => Property.nullUnionsAll_members properties 0

/-- With the option the member of a property has one more null union for each one withheld. -/
theorem Property.nullUnions_member :
    (property : Property) →
      (property.member kind ⟨true⟩).nullUnions =
        (property.member kind options).nullUnions + withheldCount kind options property.places
  | ⟨name, baseType, nullable, defaultNullable, mandatory⟩ => by
      have inner := BaseType.nullUnions_node baseType
      have own := (Property.mk name baseType nullable defaultNullable mandatory).facts
        |>.isNullUnion_option kind options
      simp only [Property.member, Member.nullUnions, Node.nullUnions_withNull, Property.places,
        withheldCount_append, withheldCount_singleton, inner, own]
      omega

/-- With the option the members of some properties have one more null union for each one
    withheld. -/
theorem Property.nullUnionsAll_members :
    (properties : List Property) → (index : Nat) →
      Member.nullUnionsAll (Property.members kind ⟨true⟩ properties) =
        Member.nullUnionsAll (Property.members kind options properties) +
          withheldCount kind options (Property.placesFrom index properties)
  | [], _ => rfl
  | property :: properties, index => by
      have first := Property.nullUnions_member property
      have rest := Property.nullUnionsAll_members properties (index + 1)
      simp only [Property.members, Member.nullUnionsAll, Property.placesFrom, withheldCount_append,
        withheldCount_map_under, first, rest]
      omega

end

end

/-- Where nothing is withheld the option changes no null union. -/
theorem Facts.isNullUnion_eq_of_isWithheld {facts : Facts} {kind : Kind} {options : Options}
    (shown : facts.isWithheld kind options = false) :
    facts.isNullUnion kind options = facts.isNullUnion kind ⟨true⟩ := by
  have added := facts.isNullUnion_option kind options
  rw [shown] at added
  cases without : facts.isNullUnion kind options <;>
    cases option : facts.isNullUnion kind ⟨true⟩ <;> simp_all

section

variable {kind : Kind} {options : Options}

mutual

/-- Where nothing is withheld inside of a base type, the option changes nothing about its node. -/
theorem BaseType.node_eq_of_withheldCount :
    (type : BaseType) → withheldCount kind options type.places = 0 →
      type.node kind options = type.node kind ⟨true⟩
  | .scalar _, _ => rfl
  | .array element elementNullable, clear => by
      rw [BaseType.places, withheldCount_map_under] at clear
      rw [BaseType.node, BaseType.node, BaseType.node_eq_of_withheldCount element clear]
  | .struct properties, clear => by
      rw [BaseType.node, BaseType.node, Property.members_eq_of_withheldCount properties 0 clear]

/-- Where nothing is withheld in a property, the option changes nothing about its member. -/
theorem Property.member_eq_of_withheldCount :
    (property : Property) → withheldCount kind options property.places = 0 →
      property.member kind options = property.member kind ⟨true⟩
  | ⟨name, baseType, nullable, defaultNullable, mandatory⟩, clear => by
      rw [Property.places, withheldCount_append, Nat.add_eq_zero_iff] at clear
      obtain ⟨inside, own⟩ := clear
      have shown : (Property.mk name baseType nullable defaultNullable mandatory).facts.isWithheld
          kind options = false := by simpa [withheldCount] using own
      rw [Property.member, Property.member, BaseType.node_eq_of_withheldCount baseType inside,
        Facts.isNullUnion_eq_of_isWithheld shown]

/-- Where nothing is withheld in some properties, the option changes nothing about their members. -/
theorem Property.members_eq_of_withheldCount :
    (properties : List Property) → (index : Nat) →
      withheldCount kind options (Property.placesFrom index properties) = 0 →
        Property.members kind options properties = Property.members kind ⟨true⟩ properties
  | [], _, _ => rfl
  | property :: properties, index, clear => by
      rw [Property.placesFrom, withheldCount_append, withheldCount_map_under,
        Nat.add_eq_zero_iff] at clear
      obtain ⟨first, rest⟩ := clear
      rw [Property.members, Property.members, Property.member_eq_of_withheldCount property first,
        Property.members_eq_of_withheldCount properties (index + 1) rest]

end

end

/-!
### The record of a model
-/

/-- Whether a notice is that of a withheld null union. -/
def Notice.isSuppressed : Notice → Bool
  | .suppressed _ => true
  | .projecting _ _ _ | .built _ => false

namespace Container

/-- Some places are where the null unions of a container are withheld: the properties at the end of
    any path, in post-order and each once, that may be null and are arrays, if the container is an
    entity and the option is not set, and no place otherwise. -/
structure IsWithheld (options : Options) (container : Container) (places : List Place) : Prop where
  ordered : places.Pairwise fun first second => PathBefore first.path second.path
  distinct : (places.map Place.path).Nodup
  exact : ∀ place, place ∈ places ↔
    container.kind = .entity ∧ options.entityArrayNullUnion = false ∧
      (Site.root container.properties).at? place.path = some (.ofProperty place.property) ∧
      place.property.nullable.getD place.property.defaultNullable = true ∧
      ∃ element flag, place.property.baseType = .array element flag

/-- The places of a container are the properties that paths lead to from it. -/
theorem mem_places (container : Container) (place : Place) :
    place ∈ (BaseType.struct container.properties).places ↔
      (Site.root container.properties).at? place.path = some (.ofProperty place.property) := by
  rw [BaseType.mem_places place false]
  obtain ⟨path, property⟩ := place
  cases path with
  | nil => simp [Site.at?]
  | cons step path => exact Iff.rfl

/-- The places of the withheld null unions are as they should be. -/
theorem isWithheld_withheld (options : Options) (container : Container) :
    container.IsWithheld options (container.withheld options) where
  ordered := (BaseType.pairwise_places (.struct container.properties)).filter _
  distinct := by
    have ordered := (BaseType.pairwise_places (.struct container.properties)).filter
      fun place => place.property.facts.isWithheld container.kind options
    refine List.pairwise_map.2 (ordered.imp ?_)
    intro first second before same
    exact not_pathBefore_self second.path (same ▸ before)
  exact place := by
    rw [withheld, List.mem_filter, container.mem_places, Facts.isWithheld_iff,
      ← BaseType.isArray_iff]
    simp only [Property.facts, Property.resolvedNullable]
    constructor
    · rintro ⟨reached, entity, unset, mayBeNull, isArray⟩
      exact ⟨entity, unset, reached, mayBeNull, isArray⟩
    · rintro ⟨entity, unset, reached, mayBeNull, isArray⟩
      exact ⟨reached, entity, unset, mayBeNull, isArray⟩

/-- A container gives one notice for each withheld null union. -/
theorem countP_notices (options : Options) (container : Container) :
    (container.notices options).countP Notice.isSuppressed =
      withheldCount container.kind options (BaseType.struct container.properties).places := by
  rw [notices, List.countP_cons_of_neg (by simp [Notice.isSuppressed]), List.countP_map,
    withheld, List.countP_filter, withheldCount]
  apply List.countP_congr
  simp [Notice.isSuppressed]

/-- With the option the interfaces of some containers have one more null union for each notice of a
    withheld one. -/
theorem nullUnionsAll_interfaces (options : Options) (containers : List Container) :
    Interface.nullUnionsAll (containers.map (interface ⟨true⟩)) =
      Interface.nullUnionsAll (containers.map (interface options)) +
        (containers.flatMap (notices options)).countP Notice.isSuppressed := by
  induction containers with
  | nil => rfl
  | cons container containers ih =>
      have own := Property.nullUnionsAll_members container.kind options container.properties 0
      have counted := container.countP_notices options
      simp only [Interface.nullUnionsAll, List.map_cons, List.flatMap_cons,
        List.countP_append, interface, BaseType.places] at ih counted ⊢
      omega

/-- The option changes nothing about the interfaces of some containers exactly when there is no
    notice of a withheld null union. -/
theorem interfaces_eq_iff (options : Options) (containers : List Container) :
    containers.map (interface ⟨true⟩) = containers.map (interface options) ↔
      ∀ notice ∈ containers.flatMap (notices options), notice.isSuppressed = false := by
  constructor
  · intro same
    have counted := nullUnionsAll_interfaces options containers
    rw [same] at counted
    have none : (containers.flatMap (notices options)).countP Notice.isSuppressed = 0 := by omega
    intro notice mem
    simpa using List.countP_eq_zero.1 none notice mem
  · intro silent
    apply List.map_congr_left
    intro container mem
    have clear : (container.notices options).countP Notice.isSuppressed = 0 := by
      apply List.countP_eq_zero.2
      intro notice given
      simp [silent notice (List.mem_flatMap.2 ⟨container, mem, given⟩)]
    rw [countP_notices] at clear
    rw [interface, interface,
      Property.members_eq_of_withheldCount container.properties 0 clear]

end Container

/-- What projecting some containers puts on record, and what that says about the result. Container
    by container and in order there is a notice with the kind, the name and the number of the
    properties of the container, and after it a notice for each null union that is withheld in it,
    in post-order. As many null unions would be added by the option as there are notices of withheld
    ones, and without such a notice it would change nothing. -/
theorem notices_are_withheld_places (options : Options) (containers : List Container) :
    ∃ interfaces withOption : List Interface,
      (Container.projectAll options containers).outcome = .ok interfaces ∧
      (Container.projectAll ⟨true⟩ containers).outcome = .ok withOption ∧
      (∃ withheld : Container → List Place,
        (∀ container : Container, container.IsWithheld options (withheld container)) ∧
        ((Container.projectAll options containers).notices = containers.flatMap fun container =>
          .projecting container.kind container.name container.properties.length ::
            (withheld container).map fun place => .suppressed place.property.name) ∧
        (Container.projectAll options containers).notices.map Notice.message =
          containers.flatMap fun container =>
            ("Projecting " ++ container.kind.text ++ " '" ++ container.name ++ "' with " ++
              toString container.properties.length ++ " properties") ::
            (withheld container).map fun place =>
              "Entity array property '" ++ place.property.name ++
                "' is nullable but emitted without null union") ∧
      Interface.nullUnionsAll withOption = Interface.nullUnionsAll interfaces +
        (Container.projectAll options containers).notices.countP Notice.isSuppressed ∧
      (withOption = interfaces ↔
        ∀ notice ∈ (Container.projectAll options containers).notices,
          notice.isSuppressed = false) := by
  have given := Container.notices_projectAll options containers
  refine ⟨containers.map (Container.interface options),
    containers.map (Container.interface ⟨true⟩), ?_, ?_,
    ⟨Container.withheld options, ?_, given, ?_⟩, ?_, ?_⟩
  · exact Container.outcome_projectAll options containers
  · exact Container.outcome_projectAll ⟨true⟩ containers
  · exact Container.isWithheld_withheld options
  · rw [given, List.map_flatMap]
    congr 1
    funext container
    rw [Container.message_notices]
  · rw [given]
    exact Container.nullUnionsAll_interfaces options containers
  · rw [given]
    exact Container.interfaces_eq_iff options containers

end SchemaProjection
