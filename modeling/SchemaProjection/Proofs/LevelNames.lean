/-
Module: SchemaProjection.Proofs.LevelNames
Purpose: The shape of everything that is built. Wherever a path leads to a structure, the names
  there are those of the visible fields of one class, each once and in the order of the fields; and
  wherever it leads to a scalar, that is one of the three primitives. Projection keeps the names, so
  that in what is emitted every member is found under its name.
Imports: SchemaProjection.Proofs.Origins, SchemaProjection.Proofs.TableChanges
Main exports: ClassEntry.visibleNames, ClassTable.DeclaresRecords, ClassTable.classAt?,
  ClassTable.IsLevelOf, Member.lookup_of_nodup, ClassTable.levels_of_build
-/
import SchemaProjection.Proofs.Origins
import SchemaProjection.Proofs.TableChanges

namespace SchemaProjection

/-!
### The visible names of a class
-/

namespace ClassEntry

/-- The names of the visible fields of a class, in the order of the fields. Which fields there are
    is settled when the class is made; which of them are visible, by the type expressions they have
    now. -/
def visibleNames (entry : ClassEntry) : List String :=
  (entry.fields.filter fun field => isVisibleField (field.1, entry.currentExpr field)).map Prod.fst

/-- The visible names are those of the visible ones among the current fields. -/
theorem visibleNames_eq (entry : ClassEntry) :
    entry.visibleNames = (entry.currentFields.filter isVisibleField).map Prod.fst := by
  rw [visibleNames, currentFields, List.filter_map, List.map_map]
  rfl

/-- A name is visible when it is that of a field, does not begin with an underscore, and the type
    expression of the field now is not read as class-level. -/
theorem mem_visibleNames_iff {entry : ClassEntry} {name : String} :
    name ∈ entry.visibleNames ↔
      name.toList.head? ≠ some '_' ∧ ∃ field ∈ entry.fields, field.1 = name ∧
        ∀ analysis, (entry.currentExpr field).analyze = .ok analysis →
          analysis.isClassLevel = false := by
  simp only [visibleNames, List.mem_map, List.mem_filter, isVisibleField_iff]
  constructor
  · rintro ⟨field, ⟨mem, plain, visible⟩, rfl⟩
    exact ⟨plain, field, mem, rfl, visible⟩
  · rintro ⟨plain, field, mem, rfl, visible⟩
    exact ⟨field, ⟨mem, plain, visible⟩, rfl⟩

/-- No field name occurs twice. -/
theorem nodup_fieldNames (entry : ClassEntry) : (entry.fields.map Prod.fst).Nodup := by
  exact FieldTable.nodup_names_select id entry.slots

/-- No visible name occurs twice. -/
theorem nodup_visibleNames (entry : ClassEntry) : entry.visibleNames.Nodup :=
  (List.Sublist.map Prod.fst List.filter_sublist).nodup entry.nodup_fieldNames

end ClassEntry

/-!
### Only record classes are declared
-/

/-- Every class of a table that carries a declaration is a record class. -/
def ClassTable.DeclaresRecords (table : ClassTable) : Prop :=
  ∀ (id : Nat) (entry : ClassEntry), table.classes[id]? = some entry →
    entry.declaration.isSome = true → entry.isRecord = true

/-- Each change keeps to the declaring of record classes. -/
theorem Change.declaresRecords_apply {table : ClassTable} (records : table.DeclaresRecords)
    (change : Change) : (change.apply table).DeclaresRecords := by
  intro id entry found declared
  by_cases elsewhere : change.about table = some id
  · cases change with
    | define scope name bases record entries =>
        cases elsewhere
        have made := table.find?_define scope name bases record entries
        cases made.symm.trans found
        cases declared
    | reannotate target entries =>
        cases elsewhere
        have changed := table.find?_modify target target
          fun entry => { entry with own := FieldTable.ofEntries entries }
        rw [if_pos rfl] at changed
        obtain ⟨before, known, rfl⟩ := Option.map_eq_some_iff.1 (changed.symm.trans found)
        exact records target.id before known declared
    | declare subject kind name description =>
        cases subject with
        | datum value => cases elsewhere
        | «class» target =>
            cases elsewhere
            rcases apply_declare_class table target kind name description with
              same | ⟨⟨before, known, record⟩, stored⟩
            · rw [same] at found
              exact records target.id entry found declared
            · rw [stored, ClassTable.getElem?_withDeclaration, if_pos rfl, known] at found
              cases found
              exact record
  · rw [getElem?_apply_of_about_ne elsewhere] at found
    exact records id entry found declared

/-- After any changes from the table without a class, only record classes are declared. -/
theorem ClassTable.declaresRecords_after (changes : List Change) :
    (ClassTable.empty.after changes).DeclaresRecords := by
  have start : ClassTable.empty.DeclaresRecords := by
    intro id entry found
    cases found
  generalize ClassTable.empty = table at start ⊢
  induction changes generalizing table with
  | nil => exact start
  | cons change changes ih => exact ih (change.apply table) (change.declaresRecords_apply start)

/-!
### The class at the end of a path
-/

/-- The class that an analysed type expression refers to, if it refers to one. -/
def Analysis.target? (analysis : Analysis) : Option ClassRef :=
  match analysis.inner with
  | .expr (.reference target) => some target
  | _ => none

namespace ClassTable

/-- The class with whose fields a path goes on: at the start the class itself, and later the one
    that the type expression at the end of the path refers to. -/
def classAt? (table : ClassTable) (target : ClassRef) : List Step → Option ClassRef
  | [] => some target
  | step :: path =>
      ((Origin.root (table.visibleFields target.id)).at? table (step :: path)).bind fun origin =>
        origin.analysis?.bind Analysis.target?

/-- Some properties are made of the fields of a class: it is a record class, and their names are its
    visible names, none of which occurs twice. -/
def IsLevelOf (table : ClassTable) (target : ClassRef) (properties : List Property) : Prop :=
  ∃ entry, table.find? target = some entry ∧ entry.isRecord = true ∧
    properties.map Property.name = entry.visibleNames ∧ (properties.map Property.name).Nodup

variable {table : ClassTable} {defaults : Defaults} {reading : List Nat} {target : ClassRef}

/-- What a record class is read as is made of its fields. -/
theorem isLevelOf_of_readClass {entry : ClassEntry} {properties : List Property}
    (known : table.find? target = some entry) (record : entry.isRecord = true)
    (read : table.readClass defaults reading target = .ok properties) :
    table.IsLevelOf target properties := by
  have names := names_of_readsField (readsField_of_readClass read)
  have found : table.classes[target.id]? = some entry := known
  rw [visibleFields, found, Option.map_some, Option.getD_some, ← entry.visibleNames_eq] at names
  refine ⟨entry, known, record, names, ?_⟩
  rw [names]
  exact entry.nodup_visibleNames

end ClassTable

/-- What an analysed type expression is read as: one of the three primitives, or a structure that is
    made of the fields of the class that the type expression refers to, or an array. -/
theorem Analysis.Reads.level {table : ClassTable} {defaults : Defaults} {analysis : Analysis}
    {type : BaseType} (reads : analysis.Reads table defaults type) :
    (∀ primitive, type = .scalar primitive → primitive ∈ ["number", "string", "boolean"]) ∧
      ∀ properties, type = .struct properties →
        ∃ target, analysis.target? = some target ∧ table.IsLevelOf target properties := by
  cases reads with
  | @scalar _ builtin known inner isKnown =>
      refine ⟨?_, nofun⟩
      rintro primitive ⟨⟩
      cases builtin <;> cases isKnown <;> decide
  | @struct _ reading target fields inner read inlinable =>
      refine ⟨nofun, ?_⟩
      rintro properties ⟨⟩
      obtain ⟨entry, known, record⟩ := inlinable.1
      have referred : analysis.target? = some target := by rw [target?, inner]
      exact ⟨target, referred, ClassTable.isLevelOf_of_readClass known record read⟩
  | array _ _ _ _ => exact ⟨nofun, nofun⟩

/-- A path with a step in it does not lead to a declaration itself. -/
theorem Site.at?_cons_ne_root (site : Site) (step : Step) (path : List Step)
    (properties : List Property) : site.at? (step :: path) ≠ some (.root properties) := by
  have once : ∀ (site : Site) (step : Step), site.next? step ≠ some (.root properties) := by
    intro site step found
    cases step with
    | property index =>
        rw [next?] at found
        split at found
        · obtain ⟨property, _, same⟩ := Option.map_eq_some_iff.1 found
          cases same
        · cases found
        · cases found
    | element =>
        rw [next?] at found
        split at found <;> cases found
  intro found
  rw [at?] at found
  obtain ⟨next, stepped, onward⟩ := Option.bind_eq_some_iff.1 found
  induction path generalizing site step next with
  | nil =>
      cases onward
      exact once site step stepped
  | cons second path ih =>
      obtain ⟨later, again, further⟩ := Option.bind_eq_some_iff.1 onward
      exact ih next second onward later again further

/-- What was read from the type expression of a property or an element: a scalar is one of the three
    primitives, a structure is made of the fields of the class that is referred to. -/
theorem Origin.Reads.level {table : ClassTable} {defaults : Defaults} {origin : Origin}
    {site : Site} (reads : origin.Reads table defaults site)
    (below : ∀ properties, site ≠ .root properties) :
    (∀ primitive, site.type = .scalar primitive →
      primitive ∈ ["number", "string", "boolean"]) ∧
    ∀ properties, site.type = .struct properties →
      ∃ target, origin.analysis?.bind Analysis.target? = some target ∧
        table.IsLevelOf target properties := by
  cases site with
  | root properties => exact absurd rfl (below properties)
  | ofProperty property =>
      cases origin with
      | root fields => exact reads.elim
      | ofElement expr => exact reads.elim
      | ofField name expr =>
          obtain ⟨analysis, type, taken, reads, rfl⟩ := reads
          rw [analysis?, taken]
          exact reads.level
  | ofElement type nullable =>
      cases origin with
      | root fields => exact reads.elim
      | ofField name expr => exact reads.elim
      | ofElement expr =>
          obtain ⟨analysis, taken, reads, _⟩ := reads
          rw [analysis?, taken]
          exact reads.level

namespace ClassTable

variable {table : ClassTable} {defaults : Defaults} {target : ClassRef}

/-- What a path leads to in what a record class was read as: a structure there is made of the fields
    of the class at the end of the path, a scalar there is one of the three primitives. -/
theorem level_at? {entry : ClassEntry} {properties : List Property}
    (known : table.find? target = some entry) (record : entry.isRecord = true)
    (read : table.readClass defaults [] target = .ok properties) {path : List Step} {site : Site}
    (reached : (Site.root properties).at? path = some site) :
    (∀ primitive, site.type = .scalar primitive →
      primitive ∈ ["number", "string", "boolean"]) ∧
    ∀ fields, site.type = .struct fields →
      ∃ inner, table.classAt? target path = some inner ∧ table.IsLevelOf inner fields := by
  have start : (Origin.root (table.visibleFields target.id)).Reads table defaults
      (.root properties) := readsField_of_readClass read
  cases path with
  | nil =>
      cases reached
      constructor
      · intro primitive same
        cases same
      · intro fields same
        cases same
        exact ⟨target, rfl, isLevelOf_of_readClass known record read⟩
  | cons step path =>
      have along := start.at? (step :: path)
      rw [reached] at along
      rw [classAt?]
      generalize (Origin.root (table.visibleFields target.id)).at? table (step :: path) = origin
        at along ⊢
      cases along with
      | @some origin _ reads =>
          apply reads.level
          intro fields isRoot
          rw [isRoot] at reached
          exact Site.at?_cons_ne_root _ step path fields reached

end ClassTable

/-!
### Lookup in what is emitted
-/

/-- Where no name occurs twice, every member is found under its name. -/
theorem Member.lookup_of_nodup {members : List Member} (nodup : (members.map Member.name).Nodup)
    (owner : String) :
    ∀ member ∈ members, Member.lookup owner member.name members = .ok member := by
  induction members with
  | nil => nofun
  | cons first members ih =>
      obtain ⟨fresh, rest⟩ := List.nodup_cons.1 nodup
      intro member mem
      rw [lookup]
      rcases List.mem_cons.1 mem with rfl | mem
      · rw [if_pos rfl]
      · have apart : first.name ≠ member.name := by
          intro same
          apply fresh
          rw [same]
          exact List.mem_map_of_mem mem
        rw [if_neg apart]
        exact ih rest member mem

/-- A structure of a projection has the names of the structure at the same place of what was
    projected. -/
theorem Site.names_of_image {kind : Kind} {options : Options} {site : Site}
    {members : List Member} (emitted : (site.image kind options).node = .struct members) :
    ∃ properties, site.type = .struct properties ∧
      members.map Member.name = properties.map Property.name := by
  rw [Site.node_image] at emitted
  cases form : site.type with
  | scalar primitive =>
      rw [form] at emitted
      cases emitted
  | array element nullable =>
      rw [form] at emitted
      cases emitted
  | struct properties =>
      rw [form] at emitted
      cases emitted
      refine ⟨properties, rfl, ?_⟩
      rw [Property.members_eq_map, List.map_map]
      apply List.map_congr_left
      intro property _
      exact property.name_member kind options

namespace ClassTable

/-- Whatever classes were made, annotated anew and declared before, every container that is built is
    of one shape. Wherever a path leads to a structure in it, be it the container itself, the type
    of a property or the element of an array, the names there are the visible ones of the class at
    the end of the path, each once and in the order of its fields; and every scalar is one of the
    three primitives. So in the projection no name occurs twice at any level, and every member is
    the one that is found under its name. -/
theorem levels_of_build (changes : List Change) (defaults : Defaults) (target : ClassRef)
    (container : Container)
    (built : (ClassTable.empty.after changes).build defaults (.class target) = .ok container) :
    (∀ path site, (Site.root container.properties).at? path = some site →
      (∀ primitive, site.type = .scalar primitive →
        primitive ∈ ["number", "string", "boolean"]) ∧
      ∀ properties, site.type = .struct properties →
        ∃ inner, (ClassTable.empty.after changes).classAt? target path = some inner ∧
          (ClassTable.empty.after changes).IsLevelOf inner properties) ∧
    ∀ options, ∃ interface, (container.project options).outcome = .ok interface ∧
      (∀ member ∈ interface.members, interface.lookup member.name = .ok member) ∧
      ∀ path spot members, (Spot.root interface.members).at? path = some spot →
        spot.node = .struct members →
          (members.map Member.name).Nodup ∧
          ∀ owner, ∀ member ∈ members, Member.lookup owner member.name members = .ok member := by
  have records := declaresRecords_after changes
  generalize ClassTable.empty.after changes = table at built records ⊢
  obtain ⟨entry, known, declared, read⟩ := of_build_ok built
  have record := records target.id entry known declared
  constructor
  · intro path site reached
    exact level_at? known record read reached
  · intro options
    -- every structure of the projection is that of a level, so no name occurs twice in it
    have nodup : ∀ path spot members,
        (Spot.root (container.interface options).members).at? path = some spot →
        spot.node = .struct members → (members.map Member.name).Nodup := by
      intro path spot members reached emitted
      have image := Site.at?_image container.kind options (.root container.properties) path
      obtain ⟨site, place, rfl⟩ := Option.map_eq_some_iff.1 (image.symm.trans reached)
      obtain ⟨properties, form, names⟩ := Site.names_of_image emitted
      obtain ⟨_, _, _, _, _, _, distinct⟩ :=
        (level_at? known record read place).2 properties form
      rw [names]
      exact distinct
    refine ⟨container.interface options, container.outcome_project options, ?_, ?_⟩
    · have top := nodup [] (.root (container.interface options).members) _ rfl rfl
      exact Member.lookup_of_nodup top _
    · intro path spot members reached emitted
      have distinct := nodup path spot members reached emitted
      exact ⟨distinct, Member.lookup_of_nodup distinct⟩

/-- A point that inherits from a base and was annotated anew before it was declared. It has the
    names that the base left to it, without the one that is class-level by now. -/
theorem levels_of_build_point :
    let scope : Scope := ⟨"shapes", []⟩
    let base : ClassRef := ⟨0, "Base", "shapes"⟩
    let point : ClassRef := ⟨1, "Point", "shapes"⟩
    let changes : List Change :=
      [.define scope "Base" [] true [("id", .builtin .integer), ("_mark", .builtin .bytes)],
        .define scope "Point" [base] true [("x", .builtin .real), ("tag", .builtin .string)],
        .reannotate point [("x", .classLevel (.builtin .real)), ("id", .builtin .string)],
        .declare (.class point) .type none none]
    ∃ container, (ClassTable.empty.after changes).build {} (.class point) = .ok container ∧
      container.properties.map Property.name = ["id", "tag"] ∧
      ∀ member ∈ (container.interface {}).members,
        (container.interface {}).lookup member.name = .ok member := by
  intro scope base point changes
  let table := ClassTable.empty.after (changes.take 3)
  have fields : (table.classes[point.id]?).map ClassEntry.currentFields =
      some [("id", .builtin .string), ("_mark", .builtin .bytes),
        ("x", .classLevel (.builtin .real)), ("tag", .builtin .string)] := by
    simp only [table, changes, base, point, scope]
    rfl
  have scalars : ∀ field ∈ table.visibleFields point.id,
      ∃ primitive, field.2.EndsIn (.scalar primitive) := by
    intro field mem
    rw [visibleFields, fields, Option.getD_some] at mem
    obtain ⟨among, visible⟩ := List.mem_filter.1 mem
    simp only [List.mem_cons, List.not_mem_nil, or_false] at among
    rcases among with rfl | rfl | rfl | rfl
    · exact ⟨"string", .scalar rfl rfl rfl⟩
    · simp [isVisibleField, isHiddenField] at visible
    · cases visible
    · exact ⟨"string", .scalar rfl rfl rfl⟩
  have record : table.IsRecord point.id := ⟨_, rfl, rfl⟩
  have read := (isOk_readClass_iff table {} [] point).2 (expands_of_scalars scalars [])
  have stored : ClassTable.empty.after changes =
      table.withDeclaration point (Declaration.of point .type none none) :=
    Change.apply_declare_of_isOk record read .type none none
  have known : (table.withDeclaration point (Declaration.of point .type none none)).find? point =
      some (table.withDeclaration point (Declaration.of point .type none none)).classes[1] := rfl
  have self : ∃ properties, table.readClass {} [] point = .ok properties ∧
      (table.withDeclaration point (Declaration.of point .type none none)).build {}
        (.class point) = .ok ⟨"Point", .type, properties, none⟩ :=
    build_withDeclaration_self rfl read {}
  obtain ⟨properties, _, built⟩ := self
  rw [← stored] at built
  obtain ⟨levels, projected⟩ := levels_of_build changes {} point _ built
  obtain ⟨_, level⟩ := levels [] _ rfl
  obtain ⟨inner, same, entry, found, _, names, _⟩ := level properties rfl
  cases same
  rw [stored, known] at found
  cases found
  obtain ⟨interface, done, lookups, _⟩ := projected {}
  cases (Container.outcome_project {} _).symm.trans done
  exact ⟨_, built, names.trans (by decide +kernel), lookups⟩

end ClassTable

end SchemaProjection
