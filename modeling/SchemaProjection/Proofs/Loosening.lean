/-
Module: SchemaProjection.Proofs.Loosening
Purpose: Loosening the settings only loosens what is emitted. A node is loosened by null unions
  around nodes in it that had none, and by members in it that may be left out from then on; the
  forms, the primitives and the names in their order stay. What one class is read as under two
  records of defaults differs in flags alone, and the rules on presence and on null unions keep the
  order of the flags, so the same holds of the projections.
Imports: SchemaProjection.Proofs.DefaultsReach
Main exports: Defaults.Loosened, Options.Loosened, Node.Loosened, Interface.Loosened,
  BaseType.Loosened, Defaults.Loosened.keptByReading, Facts.Loosened, Property.Loosened.member,
  ClassTable.projection_loosened
-/
import SchemaProjection.Proofs.DefaultsReach

namespace SchemaProjection

/-!
### Settings
-/

/-- Defaults loosened: what may be null unless something else is stated still may. -/
structure Defaults.Loosened (one two : Defaults) : Prop where
  scalar : one.scalarNullable = true → two.scalarNullable = true
  array : one.arrayNullable = true → two.arrayNullable = true
  struct : one.structNullable = true → two.structNullable = true
  element : one.elementNullable = true → two.elementNullable = true

/-- Options loosened: the null union of an array of an entity, if it was asked for, still is. -/
structure Options.Loosened (one two : Options) : Prop where
  entityArray : one.entityArrayNullUnion = true → two.entityArrayNullUnion = true

/-!
### The output side
-/

mutual

/-- A node that is no null union, loosened in what it holds. -/
inductive Node.LoosenedBelow : Node → Node → Prop where
  | scalar (primitive : String) : Node.LoosenedBelow (.scalar primitive) (.scalar primitive)
  | array {element other : Node} (elements : Node.Loosened element other) :
      Node.LoosenedBelow (.array element) (.array other)
  | struct {members others : List Member} (each : Member.AreLoosened members others) :
      Node.LoosenedBelow (.struct members) (.struct others)

/-- A node loosened: a null union stays one, any other node may have become one. -/
inductive Node.Loosened : Node → Node → Prop where
  | bare {node other : Node} (below : Node.LoosenedBelow node other) : Node.Loosened node other
  | union {node other : Node} (below : Node.LoosenedBelow node other) :
      Node.Loosened (.nullable node) (.nullable other)
  | unionAdded {node other : Node} (below : Node.LoosenedBelow node other) :
      Node.Loosened node (.nullable other)

/-- A member loosened: it has its name, and what might be left out still may. -/
inductive Member.Loosened : Member → Member → Prop where
  | mk {name : String} {optional otherOptional : Bool} {type other : Node}
      (presence : optional = true → otherOptional = true) (types : Node.Loosened type other) :
      Member.Loosened ⟨name, optional, type⟩ ⟨name, otherOptional, other⟩

/-- Members loosened one by one, in their order. -/
inductive Member.AreLoosened : List Member → List Member → Prop where
  | nil : Member.AreLoosened [] []
  | cons {member other : Member} {members others : List Member}
      (first : Member.Loosened member other) (rest : Member.AreLoosened members others) :
      Member.AreLoosened (member :: members) (other :: others)

end

/-- An interface loosened: its head is the same, and its members are loosened. -/
structure Interface.Loosened (interface other : Interface) : Prop where
  name : interface.name = other.name
  kind : interface.kind = other.kind
  description : interface.description = other.description
  members : Member.AreLoosened interface.members other.members

/-- A null union may be put around what is loosened already, and what has one keeps it. -/
theorem Node.LoosenedBelow.withNull {node other : Node} (below : node.LoosenedBelow other)
    {flag otherFlag : Bool} (kept : flag = true → otherFlag = true) :
    (node.withNull flag).Loosened (other.withNull otherFlag) := by
  cases flag with
  | true =>
      rw [kept rfl]
      exact .union below
  | false =>
      cases otherFlag with
      | true => exact .unionAdded below
      | false => exact .bare below

/-!
### The model side

What a declaration states is the same under all defaults. Its elements and properties differ in what
is left to the defaults.
-/

mutual

/-- A base type loosened: the elements that might be null still may, inside of it as well. -/
inductive BaseType.Loosened : BaseType → BaseType → Prop where
  | scalar (primitive : String) : BaseType.Loosened (.scalar primitive) (.scalar primitive)
  | array {element other : BaseType} {nullable otherNullable : Bool}
      (elements : BaseType.Loosened element other)
      (kept : nullable = true → otherNullable = true) :
      BaseType.Loosened (.array element nullable) (.array other otherNullable)
  | struct {properties others : List Property} (each : Property.AreLoosened properties others) :
      BaseType.Loosened (.struct properties) (.struct others)

/-- A property loosened in its default nullability and in its base type. -/
inductive Property.Loosened : Property → Property → Prop where
  | mk {name : String} {type other : BaseType} {nullable : Option Bool}
      {default otherDefault mandatory : Bool} (types : BaseType.Loosened type other)
      (kept : default = true → otherDefault = true) :
      Property.Loosened ⟨name, type, nullable, default, mandatory⟩
        ⟨name, other, nullable, otherDefault, mandatory⟩

/-- Properties loosened one by one, in their order. -/
inductive Property.AreLoosened : List Property → List Property → Prop where
  | nil : Property.AreLoosened [] []
  | cons {property other : Property} {properties others : List Property}
      (first : Property.Loosened property other)
      (rest : Property.AreLoosened properties others) :
      Property.AreLoosened (property :: properties) (other :: others)

end

/-!
### Reading under looser defaults
-/

section

variable {one two : Defaults}

/-- Looser defaults let a base type be null that the others let be null. -/
theorem Defaults.Loosened.nullableFor (looser : one.Loosened two) {type other : BaseType}
    (types : type.Loosened other) (may : one.nullableFor type = true) :
    two.nullableFor other = true := by
  cases types with
  | scalar primitive => exact looser.scalar may
  | array elements kept => exact looser.array may
  | struct each => exact looser.struct may

/-- A core filled in under looser defaults is loosened. -/
theorem Core.loosened_fill (looser : one.Loosened two) {properties others : List Property}
    (each : Property.AreLoosened properties others) (core : Core) :
    (core.fill one properties).Loosened (core.fill two others) := by
  induction core with
  | scalar primitive => exact .scalar primitive
  | reference target expr => exact .struct each
  | list element nullable ih =>
      refine .array ih ?_
      intro may
      cases nullable with
      | none => exact looser.element may
      | some stated => exact may

/-- Reading under looser defaults keeps properties loosened. -/
theorem Defaults.Loosened.keptByReading (looser : one.Loosened two) :
    KeptByReading one two Property.Loosened Property.AreLoosened where
  nil := .nil
  cons := .cons
  fill each analysis core name := by
    have types := core.loosened_fill looser each
    exact .mk types (looser.nullableFor types)

namespace ClassTable

variable (table : ClassTable)

/-- A build under looser defaults ends alike, with a container of the same head whose properties are
    loosened. -/
theorem endAlike_loosened_build (looser : one.Loosened two) (subject : Subject) :
    EndAlike
      (fun container other => container.name = other.name ∧ container.kind = other.kind ∧
        container.description = other.description ∧
        Property.AreLoosened container.properties other.properties)
      (table.build one subject) (table.build two subject) := by
  cases subject with
  | datum value => exact .refused _
  | «class» target =>
      rw [build_class_eq, build_class_eq]
      cases (table.find? target).bind ClassEntry.declaration with
      | none => exact .refused _
      | some own =>
          apply (table.endAlike_readClass_of_kept looser.keptByReading [] target).map
          intro properties others each
          exact ⟨rfl, rfl, rfl, each⟩

end ClassTable

end

/-!
### Projecting under looser options
-/

/-- Facts loosened: what may be null still may, and the rest is the same. -/
structure Facts.Loosened (facts other : Facts) : Prop where
  nullable : facts.nullable = true → other.nullable = true
  mandatory : facts.mandatory = other.mandatory
  isArray : facts.isArray = other.isArray

namespace Facts.Loosened

variable {facts other : Facts}

/-- The presence rule keeps the order of the facts. -/
theorem isOptional (looser : facts.Loosened other) (kind : Kind)
    (optional : facts.isOptional kind = true) : other.isOptional kind = true := by
  cases kind with
  | entity => exact optional
  | type =>
      simp only [Facts.isOptional, Bool.and_eq_true] at optional ⊢
      exact ⟨looser.nullable optional.1, looser.mandatory ▸ optional.2⟩

/-- The value rule keeps the order of the facts and of the options. -/
theorem isNullUnion (looser : facts.Loosened other) {options others : Options}
    (wider : options.Loosened others) (kind : Kind)
    (union : facts.isNullUnion kind options = true) : other.isNullUnion kind others = true := by
  simp only [Facts.isNullUnion, Bool.and_eq_true, Bool.not_eq_true', Bool.and_eq_false_imp,
    Bool.not_eq_false'] at union ⊢
  refine ⟨looser.nullable union.1, ?_⟩
  intro arrayOfEntity
  rw [← looser.isArray] at arrayOfEntity
  exact wider.entityArray (union.2 arrayOfEntity)

end Facts.Loosened

/-- A loosened base type is an array as before. -/
theorem BaseType.Loosened.isArray {type other : BaseType} (types : type.Loosened other) :
    type.isArray = other.isArray := by
  cases types <;> rfl

/-- The facts about a loosened property are loosened. -/
theorem Property.Loosened.facts {property other : Property} (looser : property.Loosened other) :
    property.facts.Loosened other.facts := by
  cases looser with
  | @mk name type other nullable default otherDefault mandatory types kept =>
      refine ⟨?_, rfl, types.isArray⟩
      cases nullable with
      | none => exact kept
      | some stated => exact id

variable {options otherOptions : Options}

mutual

/-- The node of a loosened base type is loosened below. -/
theorem BaseType.Loosened.node (wider : options.Loosened otherOptions) (kind : Kind)
    {type other : BaseType} :
    type.Loosened other → (type.node kind options).LoosenedBelow (other.node kind otherOptions)
  | .scalar primitive => .scalar primitive
  | .array elements kept => by
      have below := BaseType.Loosened.node wider kind elements
      exact .array (below.withNull kept)
  | .struct each => .struct (Property.AreLoosened.members wider kind each)

/-- The member of a loosened property is loosened. -/
theorem Property.Loosened.member (wider : options.Loosened otherOptions) (kind : Kind)
    {property other : Property} :
    property.Loosened other →
      (property.member kind options).Loosened (other.member kind otherOptions)
  | looser@(.mk types _) => by
      have facts := looser.facts
      have below := BaseType.Loosened.node wider kind types
      exact .mk (facts.isOptional kind) (below.withNull (facts.isNullUnion wider kind))

/-- The members of loosened properties are loosened. -/
theorem Property.AreLoosened.members (wider : options.Loosened otherOptions) (kind : Kind)
    {properties others : List Property} :
    Property.AreLoosened properties others →
      Member.AreLoosened (Property.members kind options properties)
        (Property.members kind otherOptions others)
  | .nil => .nil
  | .cons first rest => by
      have member := Property.Loosened.member wider kind first
      exact .cons member (Property.AreLoosened.members wider kind rest)

end

namespace ClassTable

/-- Loosening the settings only loosens what is emitted. What can be built can be built under looser
    defaults. Projected under looser options, it has the same head, names, forms and primitives, and
    differs in null unions around what had none and in members that may be left out from then on, at
    whatever depth. -/
theorem projection_loosened (table : ClassTable) {one two : Defaults}
    (looser : one.Loosened two) {options otherOptions : Options}
    (wider : options.Loosened otherOptions) {subject : Subject} {container : Container}
    (built : table.build one subject = .ok container) :
    ∃ other interface otherInterface, table.build two subject = .ok other ∧
      (container.project options).outcome = .ok interface ∧
      (other.project otherOptions).outcome = .ok otherInterface ∧
      interface.Loosened otherInterface := by
  have alike := table.endAlike_loosened_build looser subject
  rw [built] at alike
  generalize table.build two subject = outcome at alike ⊢
  cases alike with
  | @done _ other parts =>
      obtain ⟨name, kind, description, each⟩ := parts
      refine ⟨other, _, _, rfl, container.outcome_project options,
        other.outcome_project otherOptions, ?_⟩
      have members := Property.AreLoosened.members wider container.kind each
      constructor
      · exact name
      · exact kind
      · exact description
      · change Member.AreLoosened _
          (Property.members other.kind otherOptions other.properties)
        rw [← kind]
        exact members

/-- A stored post with a list of inline tags. Where nothing may be null it has no null union at all;
    where everything may be, it has one at every depth. -/
theorem projection_loosened_post :
    let scope : Scope := ⟨"blog", []⟩
    let tag : ClassRef := ⟨0, "Tag", "blog"⟩
    let post : ClassRef := ⟨1, "Post", "blog"⟩
    let listed := TypeExpr.generic .plain .list [.reference tag]
    let tags := (ClassTable.empty.define scope "Tag" [] true [("label", .builtin .string)]).2
    let posts := (tags.define scope "Post" [] true [("tags", listed)]).2
    let table := posts.withDeclaration post ⟨.entity, "Post", none⟩
    let strict : Defaults := ⟨false, false, false, false⟩
    let loose : Defaults := ⟨true, true, true, true⟩
    let label (defaults : Defaults) : Property :=
      ⟨"label", .scalar "string", none, defaults.scalarNullable, false⟩
    let built (defaults : Defaults) : Container :=
      ⟨"Post", .entity, [⟨"tags", .array (.struct [label defaults]) defaults.elementNullable, none,
        defaults.arrayNullable, false⟩], none⟩
    (∀ defaults, table.build defaults (.class post) = .ok (built defaults)) ∧
      ((built strict).interface ⟨false⟩).members =
        [⟨"tags", false, .array (.struct [⟨"label", false, .scalar "string"⟩])⟩] ∧
      ((built loose).interface ⟨true⟩).members =
        [⟨"tags", false, .nullable (.array (.nullable
          (.struct [⟨"label", false, .nullable (.scalar "string")⟩])))⟩] ∧
      ((built strict).interface ⟨false⟩).Loosened ((built loose).interface ⟨true⟩) := by
  intro scope tag post listed tags posts table strict loose label built
  have tagFields : table.visibleFields tag.id = [("label", .builtin .string)] := by
    apply List.filter_cons_of_pos
    refine (isVisibleField_iff _ _).2 ⟨by decide, ?_⟩
    intro analysis taken
    cases taken
    rfl
  have postFields : table.visibleFields post.id = [("tags", listed)] := by
    apply List.filter_cons_of_pos
    refine (isVisibleField_iff _ _).2 ⟨by decide, ?_⟩
    intro analysis taken
    cases taken
    rfl
  have readTag : ∀ defaults reading,
      table.readClass defaults reading tag = .ok [label defaults] := by
    intro defaults reading
    have peeled : Analysis.core ⟨.builtin .string, .expr (.builtin .string), none, false, []⟩ =
        .ok (.scalar "string") := Analysis.core_of_not_isList rfl
    rw [readClass_eq, tagFields, List.mapM_cons, Property.read_of_core rfl peeled]
    rfl
  have readPost : ∀ defaults, table.readClass defaults [] post =
      .ok (built defaults).properties := by
    intro defaults
    have itemTaken : (TypeExpr.reference tag).analyze =
        .ok ⟨.reference tag, .expr (.reference tag), none, false, []⟩ := rfl
    have peeled : Analysis.core ⟨listed, .expr listed, none, false, []⟩ =
        .ok (.list (.reference tag (.reference tag)) none) := by
      rw [Analysis.core_of_listItem rfl itemTaken rfl, Analysis.core_of_not_isList rfl]
      rfl
    have expanded : table.readReference defaults [post.id] tag (.reference tag) =
        .ok [label defaults] := by
      have admitted : table.checkReference [post.id] tag (.reference tag) = .ok () := rfl
      rw [readReference_eq, admitted]
      exact readTag defaults [post.id]
    rw [readClass_eq, postFields, List.mapM_cons, Property.read_of_core rfl peeled, Core.expand,
      Core.expand, expanded]
    rfl
  have builds : ∀ defaults, table.build defaults (.class post) = .ok (built defaults) := by
    intro defaults
    have known : (table.find? post).bind ClassEntry.declaration = some ⟨.entity, "Post", none⟩ :=
      rfl
    rw [build_class_eq, known, readPost]
    rfl
  have looser : strict.Loosened loose := ⟨fun _ => rfl, fun _ => rfl, fun _ => rfl, fun _ => rfl⟩
  have wider : Options.Loosened ⟨false⟩ ⟨true⟩ := ⟨fun _ => rfl⟩
  obtain ⟨_, _, _, builtToo, shown, shownToo, loosened⟩ :=
    projection_loosened table looser wider (builds strict)
  cases (builds loose).symm.trans builtToo
  cases (Container.outcome_project _ _).symm.trans shown
  cases (Container.outcome_project _ _).symm.trans shownToo
  exact ⟨builds, rfl, rfl, loosened⟩

end ClassTable

end SchemaProjection
