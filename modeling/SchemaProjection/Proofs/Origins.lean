/-
Module: SchemaProjection.Proofs.Origins
Purpose: Where the parts of what was read come from. A path through properties and elements can be
  followed in the type expressions as well: into the type expression of a visible field, from a list
  into its element type, and from a reference into the fields of the class behind it. What a
  successful reading has at the end of a path is what the type expression at the end of the same
  path and the defaults ask for, however deep it is and whichever classes were being read.
Imports: SchemaProjection.Proofs.Positions, SchemaProjection.Proofs.SupportedGrammar
Main exports: TypeExpr.StatesNull, Origin, Origin.at?, Analysis.Reads, Origin.Reads.at?,
  Analysis.Shapes, Origin.Fits, Origin.Reads.fits
-/
import SchemaProjection.Proofs.Positions
import SchemaProjection.Proofs.SupportedGrammar

namespace SchemaProjection

/-!
### What is stated about null
-/

namespace TypeExpr

/-- A layer of a type expression marks it as never null. -/
def MarkedNotNull (expr : TypeExpr) : Prop :=
  ∃ metadata core, expr.Layers false metadata core ∧ .marker .notNull ∈ metadata

/-- A type expression is optional: a union of one type with the class of the empty value, or a
    generic form with such arguments, which is read like the union. -/
inductive IsOptional : TypeExpr → Prop where
  | union {style : Style} {members : List TypeExpr} {inner : TypeExpr}
      (optional : OneOrNothing members inner) : IsOptional (.union style members)
  | collection {style : Style} {shape : Shape} {arguments : List TypeExpr} {inner : TypeExpr}
      (optional : OneOrNothing arguments inner) : IsOptional (.generic style shape arguments)

/-- A type expression states something about null: a layer of it marks it as never null, or it is
    optional below its outermost marks. -/
def StatesNull (expr : TypeExpr) : Prop := expr.MarkedNotNull ∨ expr.unwrap.1.IsOptional

/-- A form whose arguments are one or nothing is split. -/
theorem splitOptional_of_oneOrNothing {expr inner : TypeExpr} {values : List TypeExpr}
    (arguments : expr.arguments = values.map .expr) (optional : OneOrNothing values inner) :
    expr.splitOptional = (.expr inner, true) := by
  have filtered : expr.arguments.filter (fun argument => !argument.isNothingClass) =
      [.expr inner] := by
    rw [arguments, List.filter_map]
    exact congrArg (List.map Argument.expr) optional.1
  have searched : expr.arguments.any Argument.isNothingClass = true := by
    rw [arguments, List.any_map]
    exact optional.2
  unfold splitOptional
  rw [filtered, searched]
  rfl

/-- An optional is split. -/
theorem IsOptional.splitOptional {expr : TypeExpr} (isOptional : expr.IsOptional) :
    expr.splitOptional.2 = true := by
  cases isOptional with
  | union optional => rw [splitOptional_of_oneOrNothing rfl optional]
  | collection optional => rw [splitOptional_of_oneOrNothing rfl optional]

/-- What is split into a type expression is an optional. -/
theorem isOptional_of_splitOptional {expr inner : TypeExpr}
    (split : expr.splitOptional = (.expr inner, true)) : expr.IsOptional := by
  rcases splitOptional_cases expr with
    whole | ⟨other, outer, again⟩ | ⟨_, parameters, _, again⟩ | ⟨data, again⟩
  · cases whole.symm.trans split
  · cases outer with
    -- without metadata a marked form has one argument, which is never split
    | marked =>
        rcases splitOptional_of_arguments (.marked other []) [other] rfl with
          whole | ⟨_, optional, _⟩
        · cases whole.symm.trans again
        · exact absurd optional (not_oneOrNothing_singleton other _)
    | union optional => exact .union optional
    | collection _ optional => exact .collection optional
  · cases again.symm.trans split
  · cases again.symm.trans split

/-- What an analysis found to be stated about null. -/
theorem nullable_of_analyze {expr : TypeExpr} {analysis : Analysis}
    (taken : expr.analyze = .ok analysis) :
    analysis.nullable =
      if expr.unwrap.1.splitOptional.2 then some true
      else if analysis.metadata.contains (.marker .notNull) then some false
      else none := by
  simp only [analyze] at taken
  split at taken
  · cases taken
  · cases taken
    rfl

/-- An analysis that leaves a type expression took an optional off only where one stands. -/
theorem isOptional_of_analyze {expr core : TypeExpr} {analysis : Analysis}
    (taken : expr.analyze = .ok analysis) (left : analysis.inner = .expr core)
    (optional : expr.unwrap.1.splitOptional.2 = true) : expr.unwrap.1.IsOptional := by
  obtain ⟨inside, _⟩ := of_analyze_ok taken
  rw [left] at inside
  cases split : expr.unwrap.1.splitOptional with
  | mk argument flag =>
      rw [split] at inside optional
      cases argument with
      | expr inner =>
          have isSplit : flag = true := optional
          rw [isSplit] at split
          exact isOptional_of_splitOptional split
      | parameters values => cases inside
      | metadata data => cases inside

/-- An analysis that took no optional off took off marks alone. -/
theorem layers_of_analyze_plain {expr : TypeExpr} {analysis : Analysis}
    (taken : expr.analyze = .ok analysis) (plain : expr.unwrap.1.splitOptional.2 = false) :
    ∃ core, expr.Layers false analysis.metadata core := by
  obtain ⟨_, metadata, _⟩ := of_analyze_ok taken
  have whole : expr.unwrap.1.splitOptional = (.expr expr.unwrap.1, false) := by
    rcases splitOptional_cases expr.unwrap.1 with
      whole | ⟨inner, _, split⟩ | ⟨_, parameters, _, split⟩ | ⟨data, split⟩
    · exact whole
    · rw [split] at plain
      cases plain
    · rw [split] at plain
      cases plain
    · rw [split] at plain
      cases plain
  rw [metadata, whole]
  exact ⟨_, (layers_unwrap false expr).trans (layers_unwrap false expr.unwrap.1)⟩

/-- For a supported type expression the analysis finds something stated about null exactly when
    something is stated. -/
theorem EndsIn.isSome_nullable_iff {expr : TypeExpr} {ending : Ending} {analysis : Analysis}
    (ends : expr.EndsIn ending) (taken : expr.analyze = .ok analysis) :
    analysis.nullable.isSome = true ↔ expr.StatesNull := by
  obtain ⟨core, left, bare⟩ := ends.core_bare taken
  rw [nullable_of_analyze taken]
  cases optional : expr.unwrap.1.splitOptional.2 with
  | true =>
      have isOptional := isOptional_of_analyze taken left optional
      exact ⟨fun _ => .inr isOptional, fun _ => rfl⟩
  | false =>
      rw [if_neg (by simp), List.contains_eq_mem]
      constructor
      · intro stated
        by_cases marked : .marker .notNull ∈ analysis.metadata
        · obtain ⟨below, way⟩ := layers_of_analyze_plain taken optional
          exact .inl ⟨_, below, way, marked⟩
        · rw [decide_eq_false marked] at stated
          cases stated
      · rintro (⟨metadata, other, strict, mem⟩ | isOptional)
        · have marked := (layers_of_analyze taken left).mem_of_bare bare strict mem
          rw [decide_eq_true marked]
          rfl
        · rw [isOptional.splitOptional] at optional
          cases optional

end TypeExpr

/-!
### Following a path
-/

/-- What a path leads to among type expressions: the visible fields at the top, the type expression
    of a property with its name, or that of the element of a list. -/
inductive Origin where
  | root (fields : List (String × TypeExpr))
  | ofField (name : String) (expr : TypeExpr)
  | ofElement (expr : TypeExpr)

/-- The visible fields of the class that an analysed type expression refers to, if it refers to
    one. -/
def Analysis.fields (table : ClassTable) (analysis : Analysis) : List (String × TypeExpr) :=
  match analysis.inner with
  | .expr (.reference target) => table.visibleFields target.id
  | _ => []

namespace Origin

/-- The analysis of an origin's type expression. -/
def analysis? : Origin → Option Analysis
  | .root _ => none
  | .ofField _ expr | .ofElement expr => expr.analyze.toOption

/-- The fields that stand below an origin. -/
def fields (table : ClassTable) : Origin → List (String × TypeExpr)
  | .root fields => fields
  | .ofField _ expr | .ofElement expr =>
      (expr.analyze.toOption.map (Analysis.fields table)).getD []

/-- The origin one step further, if the type expression of an origin allows the step. -/
def next? (table : ClassTable) (origin : Origin) : Step → Option Origin
  | .property index =>
      (origin.fields table)[index]?.map fun field => .ofField field.1 field.2
  | .element => (origin.analysis?.bind Analysis.listItem).map .ofElement

/-- The origin at the end of a path. -/
def at? (table : ClassTable) (origin : Origin) : List Step → Option Origin
  | [] => some origin
  | step :: path => (origin.next? table step).bind fun next => next.at? table path

/-- Something is stated about null for an origin. -/
def StatesNull : Origin → Prop
  | .root _ => False
  | .ofField _ expr | .ofElement expr => expr.StatesNull

end Origin

/-!
### What reading gives
-/

/-- What an analysed type expression is read as, when it is read. A list element for which nothing
    is found to be stated has the nullability of the defaults. -/
inductive Analysis.Reads (table : ClassTable) (defaults : Defaults) :
    Analysis → BaseType → Prop where
  | scalar {analysis : Analysis} {type : Builtin} {primitive : String}
      (inner : analysis.inner = .expr (.builtin type)) (known : type.primitive? = some primitive) :
      Reads table defaults analysis (.scalar primitive)
  | struct {analysis : Analysis} {reading : List Nat} {target : ClassRef}
      {properties : List Property} (inner : analysis.inner = .expr (.reference target))
      (read : table.readClass defaults reading target = .ok properties)
      (inlinable : table.Inlinable target.id) :
      Reads table defaults analysis (.struct properties)
  | array {analysis element : Analysis} {item : TypeExpr} {type : BaseType}
      (listed : analysis.listItem = some item) (itemTaken : item.analyze = .ok element)
      (optional : element.mandatory = false) (below : Reads table defaults element type) :
      Reads table defaults analysis
        (.array type (element.nullable.getD defaults.elementNullable))

/-- A property is what a field is read as: what the analysis of its type expression says, with the
    default nullability of the base type that it is read as. -/
def ClassTable.ReadsField (table : ClassTable) (defaults : Defaults) (field : String × TypeExpr)
    (property : Property) : Prop :=
  ∃ analysis type, field.2.analyze = .ok analysis ∧ analysis.Reads table defaults type ∧
    property = analysis.property defaults field.1 type

/-- A reference expands exactly when its class can be expanded, is not being read and can be read,
    and then to what the class is read as. -/
theorem ClassTable.readReference_eq_ok_iff {table : ClassTable} {defaults : Defaults}
    {reading : List Nat} {target : ClassRef} {expr : TypeExpr} {properties : List Property} :
    table.readReference defaults reading target expr = .ok properties ↔
      table.Inlinable target.id ∧ target.id ∉ reading ∧
        table.readClass defaults reading target = .ok properties := by
  rw [readReference_eq]
  rcases table.checkReference_cases reading target expr with
    ⟨inlinable, fresh, admitted⟩ | ⟨_, among, refused⟩ | ⟨foreign, fault, _, refused⟩
  · rw [admitted]
    exact ⟨fun read => ⟨inlinable, fresh, read⟩, fun parts => parts.2.2⟩
  · rw [refused]
    exact ⟨nofun, fun parts => absurd among parts.2.1⟩
  · rw [refused]
    exact ⟨nofun, fun parts => absurd parts.1 foreign⟩

/-- Expanding the core of an analysis reads the analysis. -/
theorem Analysis.reads_of_expand {table : ClassTable} {defaults : Defaults} {reading : List Nat}
    {analysis : Analysis} {core : Core} {type : BaseType} (peeled : analysis.core = .ok core)
    (expanded : core.expand (table.readReference defaults reading) defaults = .ok type) :
    analysis.Reads table defaults type := by
  induction core generalizing analysis type with
  | scalar primitive =>
      obtain ⟨builtin, inner, known⟩ := Analysis.of_core_ok peeled
      cases expanded
      exact .scalar inner known
  | reference target found =>
      rw [Core.expand] at expanded
      obtain ⟨properties, read, made⟩ := of_bind_ok expanded
      cases made
      obtain ⟨inlinable, _, read⟩ := ClassTable.readReference_eq_ok_iff.1 read
      exact .struct (Analysis.of_core_ok peeled) read inlinable
  | list below nullable ih =>
      obtain ⟨item, element, listed, itemTaken, optional, inner, rfl⟩ :=
        Analysis.of_core_ok peeled
      rw [Core.expand] at expanded
      obtain ⟨type, elementExpanded, made⟩ := of_bind_ok expanded
      cases made
      exact .array listed itemTaken optional (ih inner elementExpanded)

namespace ClassTable

variable {table : ClassTable} {defaults : Defaults} {reading : List Nat}

/-- A property that was read is what its field is read as. -/
theorem readsField_of_read {name : String} {expr : TypeExpr} {property : Property}
    (read : Property.read (table.readReference defaults reading) defaults name expr =
      .ok property) : table.ReadsField defaults (name, expr) property := by
  obtain ⟨analysis, core, type, taken, peeled, expanded, made⟩ := Property.read_eq_ok_iff.1 read
  exact ⟨analysis, type, taken, Analysis.reads_of_expand peeled expanded, made⟩

/-- What a class was read as is what its visible fields are read as, place by place. -/
theorem readsField_of_readClass {target : ClassRef} {properties : List Property}
    (read : table.readClass defaults reading target = .ok properties) (index : Nat) :
    Option.Rel (table.ReadsField defaults)
      (table.visibleFields target.id)[index]? properties[index]? := by
  rw [readClass_eq] at read
  exact getElem?_of_mapM (fun _ _ => readsField_of_read) read index

end ClassTable

/-!
### Paths commute with reading
-/

/-- A site was read from an origin. -/
def Origin.Reads (table : ClassTable) (defaults : Defaults) : Origin → Site → Prop
  | .root fields, .root properties => ∀ index : Nat,
      Option.Rel (table.ReadsField defaults) fields[index]? properties[index]?
  | .ofField name expr, .ofProperty property => table.ReadsField defaults (name, expr) property
  | .ofElement expr, .ofElement type nullable =>
      ∃ analysis, expr.analyze = .ok analysis ∧ analysis.Reads table defaults type ∧
        nullable = analysis.nullable.getD defaults.elementNullable
  | _, _ => False

/-- Steps that keep a relation keep it when one follows the other. -/
theorem optionRel_bind {α β γ δ : Type} {related : α → β → Prop} {others : γ → δ → Prop}
    {first : Option α} {second : Option β} {next : α → Option γ} {follow : β → Option δ}
    (start : Option.Rel related first second)
    (keeps : ∀ one two, related one two → Option.Rel others (next one) (follow two)) :
    Option.Rel others (first.bind next) (second.bind follow) := by
  cases start with
  | none => exact .none
  | some relates => exact keeps _ _ relates

/-- What is related more closely is related. -/
theorem optionRel_mono {α β : Type} {related others : α → β → Prop} {first : Option α}
    {second : Option β} (closer : Option.Rel related first second)
    (implies : ∀ one two, related one two → others one two) :
    Option.Rel others first second := by
  cases closer with
  | none => exact .none
  | some relates => exact .some (implies _ _ relates)

section

variable {table : ClassTable} {defaults : Defaults}

/-- Fields and the properties that they were read as stay side by side as origins and sites. -/
theorem ClassTable.reads_of_readsField {field : Option (String × TypeExpr)}
    {property : Option Property} (reads : Option.Rel (table.ReadsField defaults) field property) :
    Option.Rel (Origin.Reads table defaults)
      (field.map fun field => .ofField field.1 field.2) (property.map .ofProperty) := by
  cases reads with
  | none => exact .none
  | some reads => exact .some reads

/-- A step from an origin with an analysed type expression leads to what the same step leads to from
    any site with the base type that the type expression was read as. -/
theorem Analysis.Reads.next? {analysis : Analysis} {type : BaseType}
    (reads : analysis.Reads table defaults type) {origin : Origin} {site : Site}
    (taken : origin.analysis? = some analysis)
    (fields : origin.fields table = analysis.fields table) (typed : site.type = type)
    (step : Step) :
    Option.Rel (Origin.Reads table defaults) (origin.next? table step) (site.next? step) := by
  cases reads with
  | scalar inner known =>
      have bare : analysis.listItem = none := by
        rw [Analysis.listItem, inner]
        rfl
      cases step with
      | property index =>
          rw [Origin.next?, Site.next?, fields, typed, Analysis.fields, inner]
          exact .none
      | element =>
          rw [Origin.next?, Site.next?, taken, typed, Option.bind_some, bare]
          exact .none
  | struct inner read =>
      have bare : analysis.listItem = none := by
        rw [Analysis.listItem, inner]
        rfl
      cases step with
      | property index =>
          rw [Origin.next?, Site.next?, fields, typed, Analysis.fields, inner]
          exact ClassTable.reads_of_readsField (ClassTable.readsField_of_readClass read index)
      | element =>
          rw [Origin.next?, Site.next?, taken, typed, Option.bind_some, bare]
          exact .none
  | array listed itemTaken optional below =>
      obtain ⟨style, rest, inner⟩ := Analysis.inner_of_listItem listed
      cases step with
      | property index =>
          rw [Origin.next?, Site.next?, fields, typed, Analysis.fields, inner]
          exact .none
      | element =>
          rw [Origin.next?, Site.next?, taken, typed, Option.bind_some, listed]
          exact .some ⟨_, itemTaken, below, rfl⟩

namespace Origin

/-- A step from an origin leads to an origin of what the same step leads to from the site, or to
    nothing in both. -/
theorem Reads.next? {origin : Origin} {site : Site} (reads : origin.Reads table defaults site)
    (step : Step) :
    Option.Rel (Origin.Reads table defaults) (origin.next? table step) (site.next? step) := by
  cases origin with
  | root fields =>
      cases site with
      | root properties =>
          cases step with
          | property index => exact ClassTable.reads_of_readsField (reads index)
          | element => exact .none
      | ofProperty property => exact reads.elim
      | ofElement type nullable => exact reads.elim
  | ofField name expr =>
      cases site with
      | ofProperty property =>
          obtain ⟨analysis, type, taken, reads, rfl⟩ := reads
          refine reads.next? ?_ ?_ rfl step
          · rw [analysis?, taken]
            rfl
          · rw [Origin.fields, taken]
            rfl
      | root properties => exact reads.elim
      | ofElement type nullable => exact reads.elim
  | ofElement expr =>
      cases site with
      | ofElement type nullable =>
          obtain ⟨analysis, taken, reads, _⟩ := reads
          refine reads.next? ?_ ?_ rfl step
          · rw [analysis?, taken]
            rfl
          · rw [Origin.fields, taken]
            rfl
      | root properties => exact reads.elim
      | ofProperty property => exact reads.elim

/-- A path from an origin leads to an origin of what the same path leads to from the site, or to
    nothing in both. -/
theorem Reads.at? {origin : Origin} {site : Site} (reads : origin.Reads table defaults site)
    (path : List Step) :
    Option.Rel (Origin.Reads table defaults) (origin.at? table path) (site.at? path) := by
  induction path generalizing origin site with
  | nil => exact .some reads
  | cons step path ih =>
      exact optionRel_bind (reads.next? step) fun _ _ => ih

/-- Where a path leads to an origin, it leads to a site that was read from it. -/
theorem Reads.exists_at? {origin source : Origin} {site : Site} {path : List Step}
    (reads : origin.Reads table defaults site) (reached : origin.at? table path = some source) :
    ∃ place, site.at? path = some place ∧ source.Reads table defaults place := by
  have along := reads.at? path
  rw [reached] at along
  cases found : site.at? path with
  | none =>
      rw [found] at along
      cases along
  | some place =>
      rw [found] at along
      cases along with
      | some reads => exact ⟨place, rfl, reads⟩

end Origin

/-!
### What a type expression asks for
-/

/-- What is read can be read: its type expression ends in a primitive or in a reference. -/
theorem Analysis.Reads.endsIn {analysis : Analysis} {type : BaseType}
    (reads : analysis.Reads table defaults type) {expr : TypeExpr}
    (taken : expr.analyze = .ok analysis) : ∃ ending, expr.EndsIn ending := by
  induction reads generalizing expr with
  | scalar inner known => exact ⟨_, .scalar taken inner known⟩
  | struct inner _ => exact ⟨_, .reference taken inner⟩
  | array listed itemTaken optional _ ih =>
      obtain ⟨ending, ends⟩ := ih itemTaken
      exact ⟨ending, .element taken listed itemTaken optional ends⟩

/-- Properties that some fields were read as have their names, in order. -/
theorem ClassTable.names_of_readsField {fields : List (String × TypeExpr)}
    {properties : List Property} (reads : ∀ index : Nat,
      Option.Rel (table.ReadsField defaults) fields[index]? properties[index]?) :
    properties.map Property.name = fields.map Prod.fst := by
  apply List.ext_getElem?
  intro index
  rw [List.getElem?_map, List.getElem?_map]
  have place := reads index
  generalize fields[index]? = field, properties[index]? = property at place ⊢
  cases place with
  | none => rfl
  | some reads =>
      obtain ⟨analysis, type, _, _, rfl⟩ := reads
      rfl

/-- The outermost form of a base type is the one that an analysed type expression asks for: its
    primitive, an array for a list, or a structure with the names of the visible fields of the class
    that it refers to. -/
def Analysis.Shapes (table : ClassTable) (analysis : Analysis) : BaseType → Prop
  | .scalar primitive => ∃ type : Builtin, analysis.inner = .expr (.builtin type) ∧
      type.primitive? = some primitive
  | .array _ _ => ∃ style item rest,
      analysis.inner = .expr (.generic style .list (item :: rest))
  | .struct properties => ∃ target, analysis.inner = .expr (.reference target) ∧
      properties.map Property.name = (table.visibleFields target.id).map Prod.fst

/-- What is read has the form that is asked for. -/
theorem Analysis.Reads.shapes {analysis : Analysis} {type : BaseType}
    (reads : analysis.Reads table defaults type) : analysis.Shapes table type := by
  cases reads with
  | scalar inner known => exact ⟨_, inner, known⟩
  | struct inner read =>
      exact ⟨_, inner, ClassTable.names_of_readsField (ClassTable.readsField_of_readClass read)⟩
  | array listed _ _ _ =>
      obtain ⟨style, rest, inner⟩ := Analysis.inner_of_listItem listed
      exact ⟨style, _, rest, inner⟩

/-- A property has what the type expression of its field asks for. Whether it may be null and
    whether it is always present is what the type expression says; its default nullability is the
    one that the defaults have for its own base type. -/
structure Property.Fits (table : ClassTable) (defaults : Defaults) (name : String)
    (expr : TypeExpr) (analysis : Analysis) (property : Property) : Prop where
  taken : expr.analyze = .ok analysis
  name : property.name = name
  shapes : analysis.Shapes table property.baseType
  nullable : property.nullable = analysis.nullable
  stated : property.nullable.isSome = true ↔ expr.StatesNull
  mandatory : property.mandatory = analysis.mandatory
  defaultNullable : property.defaultNullable = defaults.nullableFor property.baseType

/-- What a path leads to in a declaration has what the type expression there and the defaults ask
    for. The elements of an array have the nullability that their type expression states, and that
    of the defaults when it states nothing. -/
def Origin.Fits (table : ClassTable) (defaults : Defaults) : Origin → Site → Prop
  | .root fields, .root properties => properties.map Property.name = fields.map Prod.fst
  | .ofField name expr, .ofProperty property =>
      ∃ analysis, property.Fits table defaults name expr analysis
  | .ofElement expr, .ofElement type nullable =>
      ∃ analysis, expr.analyze = .ok analysis ∧ analysis.Shapes table type ∧
        (expr.StatesNull → analysis.nullable = some nullable) ∧
        (¬expr.StatesNull → nullable = defaults.elementNullable)
  | _, _ => False

/-- What was read from an origin fits it. -/
theorem Origin.Reads.fits {origin : Origin} {site : Site}
    (reads : origin.Reads table defaults site) : origin.Fits table defaults site := by
  match origin, site, reads with
  | .root fields, .root properties, reads => exact ClassTable.names_of_readsField reads
  | .ofField name expr, .ofProperty property, reads =>
      obtain ⟨analysis, type, taken, reads, rfl⟩ := reads
      obtain ⟨ending, ends⟩ := reads.endsIn taken
      exact ⟨analysis, taken, rfl, reads.shapes, rfl, ends.isSome_nullable_iff taken, rfl, rfl⟩
  | .ofElement expr, .ofElement type nullable, reads =>
      obtain ⟨analysis, taken, reads, rfl⟩ := reads
      obtain ⟨ending, ends⟩ := reads.endsIn taken
      have found := ends.isSome_nullable_iff taken
      refine ⟨analysis, taken, reads.shapes, ?_, ?_⟩
      · intro stated
        obtain ⟨flag, known⟩ := Option.isSome_iff_exists.1 (found.2 stated)
        rw [known]
        rfl
      · intro unstated
        have nothing : analysis.nullable = none := by
          rw [← Option.not_isSome_iff_eq_none, found]
          exact unstated
        rw [nothing]
        rfl

end

end SchemaProjection
