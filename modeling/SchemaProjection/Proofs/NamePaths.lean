/-
Module: SchemaProjection.Proofs.NamePaths
Purpose: Following names. A name is looked up in a declaration, the next one in the inline structure
  that the property found has, and so on; in a projection the same is done with members, below the
  null unions that were added. Both searches look at one level after another, and at each level the
  first property of a name becomes the first member of that name, so they end alike: with a property
  and its projection, or without a name that is missing on both sides.
Imports: SchemaProjection.Proofs.Positions
Main exports: Search, searchNames, Container.search, Interface.search, Site.pathTo?, Spot.pathTo?,
  Property.lookup_members, Search.Abreast, search_commutes_with_projection
-/
import SchemaProjection.Proofs.Positions

namespace SchemaProjection

/-!
### Following names
-/

/-- How a search along names ends. Steps are counted from zero, one for each name. -/
inductive Search (α : Type) where
  /-- Each name was found where it was looked up; the last one is that of the target. -/
  | found (target : α)
  /-- The lookup of one step was refused, those of the steps before it were not. -/
  | refused (step : Nat) (fault : Fault)
  /-- What the step before was led to is no structure, so there is nothing to look a name up in. -/
  | noStructure (step : Nat)

/-- A search that was begun one step earlier. -/
def Search.later {α : Type} : Search α → Search α
  | .found target => .found target
  | .refused step fault => .refused (step + 1) fault
  | .noStructure step => .noStructure (step + 1)

/-- Look up a name, and each further name inside of what was found under the one before it. -/
def searchNames {α : Type} (inside : α → Option (String → Except Fault α))
    (lookup : String → Except Fault α) (name : String) : List String → Search α
  | [] =>
      match lookup name with
      | .error fault => .refused 0 fault
      | .ok target => .found target
  | next :: names =>
      match lookup name with
      | .error fault => .refused 0 fault
      | .ok place =>
        match inside place with
        | none => .noStructure 1
        | some lookup => (searchNames inside lookup next names).later

/-- A search ends where its first lookup is refused. -/
theorem searchNames_of_error {α : Type} {inside : α → Option (String → Except Fault α)}
    {lookup : String → Except Fault α} {name : String} {fault : Fault}
    (refused : lookup name = .error fault) (names : List String) :
    searchNames inside lookup name names = .refused 0 fault := by
  cases names <;> simp [searchNames, refused]

/-- The lookup in the inline structure of a property, if its base type is one. -/
def Property.lookupInside? (property : Property) : Option (String → Except Fault Property) :=
  match property.baseType with
  | .struct properties => some fun name => Property.lookup inlineOwner name properties
  | .scalar _ | .array _ _ => none

/-- The lookup in the structure of a member, if its type is one below a null union of its own. -/
def Member.lookupInside? (member : Member) : Option (String → Except Fault Member) :=
  match member.type.unwrapNull with
  | .struct members => some fun name => Member.lookup inlineOwner name members
  | _ => none

/-- Follow names from a container. There is at least one. -/
def Container.search (container : Container) (name : String) (names : List String) :
    Search Property :=
  searchNames Property.lookupInside? container.lookup name names

/-- Follow names from an interface. There is at least one. -/
def Interface.search (interface : Interface) (name : String) (names : List String) :
    Search Member :=
  searchNames Member.lookupInside? interface.lookup name names

/-!
### The path to the first of each name
-/

/-- The names of the properties below a site. -/
def Site.names (site : Site) : List String :=
  match site.type with
  | .struct properties => properties.map Property.name
  | .scalar _ | .array _ _ => []

/-- The names of the members below a spot. -/
def Spot.names (spot : Spot) : List String :=
  match spot.node with
  | .struct members => members.map Member.name
  | _ => []

/-- The path that takes the first property of each name, if every name is there. -/
def Site.pathTo? (site : Site) : List String → Option (List Step)
  | [] => some []
  | name :: names =>
      (site.names.idxOf? name).bind fun index =>
        (site.next? (.property index)).bind fun next =>
          (next.pathTo? names).map (.property index :: ·)

/-- The path that takes the first member of each name, if every name is there. -/
def Spot.pathTo? (spot : Spot) : List String → Option (List Step)
  | [] => some []
  | name :: names =>
      (spot.names.idxOf? name).bind fun index =>
        (spot.next? (.property index)).bind fun next =>
          (next.pathTo? names).map (.property index :: ·)

section

variable (kind : Kind) (options : Options)

/-- Projection keeps the names below a site and their order. -/
theorem Site.names_image (site : Site) : (site.image kind options).names = site.names := by
  rw [Spot.names, Site.names, Site.node_image]
  cases site.type with
  | scalar primitive => rfl
  | array element nullable => rfl
  | struct properties =>
      have names : Member.name ∘ Property.member kind options = Property.name := by
        funext property
        exact property.name_member kind options
      simp only [BaseType.node, Property.members_eq_map, List.map_map, names]

/-- The first members of some names stand where the first properties of the names stand. -/
theorem Site.pathTo?_image (site : Site) (names : List String) :
    (site.image kind options).pathTo? names = site.pathTo? names := by
  induction names generalizing site with
  | nil => rfl
  | cons name names ih =>
      simp only [Spot.pathTo?, Site.pathTo?, Site.names_image, Site.next?_image]
      cases site.names.idxOf? name with
      | none => rfl
      | some index =>
          cases taken : site.next? (.property index) with
          | none => simp [taken]
          | some next => simp [taken, ih next]

end

/-!
### One step
-/

/-- Looking a name up among properties and among their members. Both find the first of the name, at
    the same place, and the member is that of the property; or the name is not there and both are
    refused with the same owner. -/
theorem Property.lookup_members (kind : Kind) (options : Options) (owner name : String)
    (properties : List Property) :
    (∃ index property, (properties.map Property.name).idxOf? name = some index ∧
      properties[index]? = some property ∧
      Property.lookup owner name properties = .ok property ∧
      Member.lookup owner name (Property.members kind options properties) =
        .ok (property.member kind options)) ∨
    (name ∉ properties.map Property.name ∧
      Property.lookup owner name properties = .error (.unknownProperty owner name) ∧
      Member.lookup owner name (Property.members kind options properties) =
        .error (.unknownMember owner name)) := by
  induction properties with
  | nil => exact .inr ⟨by simp, rfl, rfl⟩
  | cons first properties ih =>
      by_cases same : first.name = name
      · refine .inl ⟨0, first, ?_, rfl, ?_, ?_⟩
        · simp [List.idxOf?_cons, same]
        · simp [Property.lookup, same]
        · simp [Property.members, Member.lookup, same]
      · rcases ih with
          ⟨index, property, place, found, declared, emitted⟩ | ⟨absent, declared, emitted⟩
        · refine .inl ⟨index + 1, property, ?_, found, ?_, ?_⟩
          · simp [List.idxOf?_cons, same, place]
          · simp [Property.lookup, same, declared]
          · simp [Property.members, Member.lookup, same, emitted]
        · refine .inr ⟨?_, ?_, ?_⟩
          · simp only [List.map_cons, List.mem_cons, not_or]
            exact ⟨fun eq => same eq.symm, absent⟩
          · simp [Property.lookup, same, declared]
          · simp [Property.members, Member.lookup, same, emitted]

/-- A property has a structure below it exactly when its member has, and then the one of the member
    has the members of the properties. -/
theorem Property.lookupInside?_member (kind : Kind) (options : Options) (property : Property) :
    (∃ properties, property.baseType = .struct properties ∧
      property.lookupInside? = some (fun name => Property.lookup inlineOwner name properties) ∧
      (property.member kind options).lookupInside? = some (fun name =>
        Member.lookup inlineOwner name (Property.members kind options properties))) ∨
    (property.lookupInside? = none ∧ (property.member kind options).lookupInside? = none) := by
  rw [Property.lookupInside?, Member.lookupInside?, Property.type_member,
    BaseType.unwrapNull_withNull_node]
  cases property.baseType with
  | scalar primitive => exact .inr ⟨rfl, rfl⟩
  | array element nullable => exact .inr ⟨rfl, rfl⟩
  | struct properties => exact .inl ⟨properties, rfl, rfl, rfl⟩

/-!
### All steps
-/

/-- A search from a site and one from a spot end alike. `owners` tells in what the name of each step
    is looked up. -/
inductive Search.Abreast (kind : Kind) (options : Options) (owners : Nat → String) (site : Site)
    (spot : Spot) (names : List String) : Search Property → Search Member → Prop where
  /-- Both take the same path, which has the first of each name, and lead to a property and to what
      it is projected to. -/
  | found (path : List Step) {property : Property} {member : Member}
      (declared : site.pathTo? names = some path) (emitted : spot.pathTo? names = some path)
      (target : site.at? path = some (.ofProperty property))
      (image : spot.at? path = some (.ofMember member))
      (projected : (property.project kind options).outcome = .ok member) :
      Abreast kind options owners site spot names (.found property) (.found member)
  /-- Both take the same path to where the name of one step is the first that is missing, and are
      refused in the name of the same owner. -/
  | missing (step : Nat) (path : List Step) {name : String} {place : Site} {image : Spot}
      (named : names[step]? = some name)
      (declared : site.pathTo? (names.take step) = some path)
      (emitted : spot.pathTo? (names.take step) = some path)
      (level : site.at? path = some place) (sameLevel : spot.at? path = some image)
      (absent : name ∉ place.names) (absentToo : name ∉ image.names) :
      Abreast kind options owners site spot names
        (.refused step (.unknownProperty (owners step) name))
        (.refused step (.unknownMember (owners step) name))
  /-- Both take the same path to a property and a member that have no structure below them, with
      names left to look up. -/
  | noStructure (step : Nat) (path : List Step) {property : Property} {member : Member}
      (left : step < names.length)
      (declared : site.pathTo? (names.take step) = some path)
      (emitted : spot.pathTo? (names.take step) = some path)
      (target : site.at? path = some (.ofProperty property))
      (image : spot.at? path = some (.ofMember member))
      (bare : property.lookupInside? = none) (bareToo : member.lookupInside? = none) :
      Abreast kind options owners site spot names (.noStructure step) (.noStructure step)

section

variable {kind : Kind} {options : Options}

/-- Searches that end alike after one step end alike from the step on, when it takes the first
    property of its name. -/
theorem Search.Abreast.later {owners : Nat → String} {site next : Site} {name : String}
    {names : List String} {index : Nat} {search : Search Property} {other : Search Member}
    (first : site.names.idxOf? name = some index)
    (taken : site.next? (.property index) = some next)
    (alike : Abreast kind options (fun step => owners (step + 1)) next (next.image kind options)
      names search other) :
    Abreast kind options owners site (site.image kind options) (name :: names)
      search.later other.later := by
  have way : ∀ {path : List Step} {onward : List String}, next.pathTo? onward = some path →
      site.pathTo? (name :: onward) = some (.property index :: path) := by
    intro path onward found
    simp [Site.pathTo?, first, taken, found]
  have emittedWay : ∀ {path : List Step} {onward : List String},
      next.pathTo? onward = some path →
        (site.image kind options).pathTo? (name :: onward) = some (.property index :: path) := by
    intro path onward found
    rw [Site.pathTo?_image]
    exact way found
  have reach : ∀ path : List Step, site.at? (.property index :: path) = next.at? path := by
    intro path
    rw [Site.at?, taken, Option.bind_some]
  have emittedReach : ∀ path : List Step,
      (site.image kind options).at? (.property index :: path) =
        (next.image kind options).at? path := by
    intro path
    rw [Site.at?_image, Site.at?_image, reach]
  cases alike with
  | found path declared emitted target image projected =>
      exact .found _ (way declared) (emittedWay declared) ((reach _).trans target)
        ((emittedReach _).trans image) projected
  | missing step path named declared emitted level sameLevel absent absentToo =>
      exact .missing (step + 1) _ named (way declared) (emittedWay declared)
        ((reach _).trans level) ((emittedReach _).trans sameLevel) absent absentToo
  | noStructure step path left declared emitted target image bare bareToo =>
      exact .noStructure (step + 1) _ (Nat.succ_lt_succ left) (way declared)
        (emittedWay declared) ((reach _).trans target) ((emittedReach _).trans image) bare bareToo

/-- Searches are refused alike at a first name that is missing. -/
theorem Search.abreast_of_absent {site : Site} {name : String} (absent : name ∉ site.names)
    (owners : Nat → String) (names : List String) :
    Abreast kind options owners site (site.image kind options) (name :: names)
      (.refused 0 (.unknownProperty (owners 0) name))
      (.refused 0 (.unknownMember (owners 0) name)) := by
  have absentToo : name ∉ (site.image kind options).names := by
    rw [Site.names_image]
    exact absent
  exact .missing 0 [] rfl rfl rfl rfl rfl absent absentToo

/-- Searches from a structure and from what it is projected to end alike, when the first name is
    looked up for some owner and all others in the name of inline structures. -/
theorem searchNames_abreast (site : Site) {properties : List Property}
    (level : site.type = .struct properties) (owners : Nat → String) {owner : String}
    (start : owners 0 = owner) (inline : ∀ step, owners (step + 1) = inlineOwner)
    (name : String) (names : List String) :
    Search.Abreast kind options owners site (site.image kind options) (name :: names)
      (searchNames Property.lookupInside? (fun name => Property.lookup owner name properties)
        name names)
      (searchNames Member.lookupInside?
        (fun name => Member.lookup owner name (Property.members kind options properties))
        name names) := by
  subst start
  have atLevel : site.names = properties.map Property.name := by rw [Site.names, level]
  rcases Property.lookup_members kind options (owners 0) name properties with
    ⟨index, property, place, found, declared, emitted⟩ | ⟨absent, declared, emitted⟩
  · rw [← atLevel] at place
    have taken : site.next? (.property index) = some (.ofProperty property) := by
      simp [Site.next?, level, found]
    cases names with
    | nil =>
        simp only [searchNames, declared, emitted]
        have ends : Search.Abreast kind options (fun step => owners (step + 1))
            (.ofProperty property) (.ofMember (property.member kind options)) []
            (.found property) (.found (property.member kind options)) :=
          .found [] rfl rfl rfl rfl (property.outcome_project kind options)
        exact ends.later place taken
    | cons next names =>
        rcases property.lookupInside?_member kind options with
          ⟨inner, type, inside, insideToo⟩ | ⟨bare, bareToo⟩
        · simp only [searchNames, declared, emitted, inside, insideToo]
          -- from here on every name is looked up in an inline structure
          have onward := searchNames_abreast (.ofProperty property) type
            (fun step => owners (step + 1)) (inline 0) (fun step => inline (step + 1)) next names
          exact onward.later place taken
        · simp only [searchNames, declared, emitted, bare, bareToo]
          have ends : Search.Abreast kind options (fun step => owners (step + 1))
              (.ofProperty property) (.ofMember (property.member kind options)) (next :: names)
              (.noStructure 0) (.noStructure 0) :=
            .noStructure 0 [] (Nat.succ_pos _) rfl rfl rfl rfl bare bareToo
          exact ends.later place taken
  · rw [← atLevel] at absent
    rw [searchNames_of_error declared, searchNames_of_error emitted]
    exact Search.abreast_of_absent absent owners names

end

/-!
### Lookup commutes with projection
-/

/-- In what the name of each step is looked up: the first one in the container, later ones in inline
    structures. -/
def Container.owner (container : Container) : Nat → String
  | 0 => container.name
  | _ + 1 => inlineOwner

/-- Lookup commutes with projection along every path of names. Every container is projected, and
    names that are followed in it and in its interface lead along the same path to a property and to
    what the property is projected to; or the first of them that is missing is missing on both
    sides, at the same step and in what has the same owner; or both searches come to something
    without a structure at the same step. -/
theorem search_commutes_with_projection (options : Options) (container : Container) :
    ∃ interface, (container.project options).outcome = .ok interface ∧
      ∀ name names,
        Search.Abreast container.kind options container.owner (.root container.properties)
          (.root interface.members) (name :: names)
          (container.search name names) (interface.search name names) := by
  refine ⟨container.interface options, container.outcome_project options, ?_⟩
  intro name names
  exact searchNames_abreast (.root container.properties) rfl container.owner rfl (fun _ => rfl) name
    names

end SchemaProjection
