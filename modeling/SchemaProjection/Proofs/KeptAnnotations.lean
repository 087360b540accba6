/-
Module: SchemaProjection.Proofs.KeptAnnotations
Purpose: What becomes of the annotations that a class is made with, whatever classes it comes after.
  In a class that is made as a record those make fields that have this role, so that each of them
  that asks for a property has exactly one in the container of the class; the others are no fields
  by the rules for record classes. A class that is a record only through the classes that it comes
  after can be declared as well, but it has the fields of the nearest such class and no others: its
  annotations of other names are lost without a word.
Imports: SchemaProjection.Proofs.LevelNames
Main exports: AsksForProperty, ClassEntry.HasField, ClassEntry.mem_fieldNames_make_iff,
  ClassTable.KeepsOnly, ClassTable.annotations_of_declared
-/
import SchemaProjection.Proofs.LevelNames

namespace SchemaProjection

/-!
### Annotations and fields
-/

/-- An annotation asks for a property: its name does not begin with an underscore, and its type
    expression is not class-level, be it bare, with an argument or below marks. -/
structure AsksForProperty (field : String × TypeExpr) : Prop where
  named : field.1.toList.head? ≠ some '_'
  outside : field.2.isClassLevelForm = false
  inside : ∀ analysis, field.2.analyze = .ok analysis → analysis.isClassLevel = false

/-- What asks for a property is visible. -/
theorem AsksForProperty.isVisibleField {field : String × TypeExpr} (asks : AsksForProperty field) :
    isVisibleField field = true :=
  (isVisibleField_iff field.1 field.2).2 ⟨asks.named, asks.inside⟩

namespace ClassEntry

/-- An annotation that a class is made with has a field of its name. A class that is made as a
    record makes one for it if that is its role. Where no slot is made for it, which is in any other
    class and for what separates fields, there is one only if the class has it from those that it
    comes after. -/
inductive HasField (scope : Scope) (lineage : List ClassEntry) (record : Bool)
    (field : String × TypeExpr) : Prop where
  | made (byItself : record = true) (role : scope.role field.2 = .field)
  | inherited (noSlot : record = false ∨ scope.role field.2 = .separator)
      (name : field.1 ∈ (inherited lineage record).fields.map Prod.fst)

variable {scope : Scope} {ancestors : List Nat} {lineage : List ClassEntry}
  {entries : List (String × TypeExpr)} {field : String × TypeExpr}

/-- What is found under the name of an annotation of a record class: its own slot, or what was there
    before if it separates fields. -/
theorem find?_slots_make (mem : field ∈ (FieldTable.ofEntries entries).entries) :
    (make scope ancestors lineage true entries).slots.find? field.1 =
      ((scope.role field.2).slot? field.2).or ((inherited lineage true).find? field.1) := by
  let own := FieldTable.ofEntries entries
  change ((inherited lineage true).insertAll (scope.slots own)).find? field.1 = _
  cases slot : (scope.role field.2).slot? field.2 with
  | some held =>
      have entry : (field.1, held) ∈ scope.slots own :=
        FieldTable.mem_select_iff.2 ⟨field.2, mem, slot⟩
      exact FieldTable.find?_insertAll_of_mem (FieldTable.nodup_names_select _ own) entry _
  | none =>
      apply FieldTable.find?_insertAll_of_not_mem
      intro named
      obtain ⟨⟨name, held⟩, entry, same⟩ := List.mem_map.1 named
      obtain ⟨source, found, chosen⟩ := FieldTable.mem_select_iff.1 entry
      -- the name is annotated once, so the slot would be that of the annotation itself
      have first := (own.find?_eq_some_iff).2 mem
      have second := (own.find?_eq_some_iff).2 found
      rw [← same] at first
      cases first.symm.trans second
      cases slot.symm.trans chosen

/-- An annotation has a field of its name exactly as its class and its role tell. -/
theorem mem_fieldNames_make_iff {record : Bool}
    (mem : field ∈ (FieldTable.ofEntries entries).entries) :
    field.1 ∈ (make scope ancestors lineage record entries).fields.map Prod.fst ↔
      HasField scope lineage record field := by
  cases record with
  | false =>
      constructor
      · exact fun name => .inherited (.inl rfl) name
      · intro has
        cases has with
        | made byItself _ => cases byItself
        | inherited _ name => exact name
  | true =>
      rw [fields, Slots.mem_fieldNames_iff, find?_slots_make mem]
      cases role : scope.role field.2 with
      | field => exact ⟨fun _ => .made rfl role, fun _ => ⟨_, rfl⟩⟩
      | aside =>
          constructor
          · rintro ⟨expr, slot⟩
            cases slot
          · intro has
            cases has with
            | made _ other => cases role.symm.trans other
            | inherited noSlot _ =>
                rcases noSlot with plain | other
                · cases plain
                · cases role.symm.trans other
      | separator =>
          rw [FieldRole.slot?, Option.none_or, ← Slots.mem_fieldNames_iff]
          constructor
          · exact fun name => .inherited (.inr role) name
          · intro has
            cases has with
            | made _ other => cases role.symm.trans other
            | inherited _ name => exact name

/-- An own annotation is the type expression of a current field exactly when there is a field of its
    name. -/
theorem mem_currentFields_iff {entry : ClassEntry} {field : String × TypeExpr}
    (mem : field ∈ entry.own.entries) :
    field ∈ entry.currentFields ↔ field.1 ∈ entry.fields.map Prod.fst := by
  have own : entry.own.find? field.1 = some field.2 := (FieldTable.find?_eq_some_iff _).2 mem
  rw [currentFields, List.mem_map, List.mem_map]
  constructor
  · rintro ⟨remembered, among, rfl⟩
    exact ⟨remembered, among, rfl⟩
  · rintro ⟨remembered, among, same⟩
    refine ⟨remembered, among, ?_⟩
    rw [currentExpr, same, own, Option.getD_some]

end ClassEntry

/-!
### Annotations and properties
-/

/-- Where no name occurs twice, a property is the only one of its name. -/
theorem Property.filter_name_of_nodup {properties : List Property}
    (nodup : (properties.map Property.name).Nodup) {property : Property}
    (mem : property ∈ properties) :
    properties.filter (fun other => other.name = property.name) = [property] := by
  induction properties with
  | nil => cases mem
  | cons first properties ih =>
      obtain ⟨fresh, nodup⟩ := List.nodup_cons.1 nodup
      rcases List.mem_cons.1 mem with rfl | mem
      · have others : properties.filter (fun other => other.name = property.name) = [] := by
          rw [List.filter_eq_nil_iff]
          intro other among same
          apply fresh
          rw [← of_decide_eq_true same]
          exact List.mem_map_of_mem among
        rw [List.filter_cons_of_pos (by simp), others]
      · have apart : first.name ≠ property.name := by
          intro same
          apply fresh
          rw [same]
          exact List.mem_map_of_mem mem
        rw [List.filter_cons_of_neg (by simp [apart]), ih nodup mem]

namespace ClassTable

variable {table : ClassTable} {defaults : Defaults} {target : ClassRef}

/-- What a class is read as has exactly one property for each visible field, read from it. -/
theorem exists_property_of_visibleField {reading : List Nat} {properties : List Property}
    (read : table.readClass defaults reading target = .ok properties)
    (nodup : (properties.map Property.name).Nodup) {field : String × TypeExpr}
    (mem : field ∈ table.visibleFields target.id) :
    ∃ property, properties.filter (fun other => other.name = field.1) = [property] ∧
      Property.read (table.readReference defaults (target.id :: reading)) defaults field.1
        field.2 = .ok property := by
  rw [readClass_eq] at read
  obtain ⟨property, among, done⟩ := exists_of_mapM_ok read mem
  obtain ⟨analysis, type, _, _, same⟩ := readsField_of_read done
  have name : property.name = field.1 := by rw [same]; rfl
  refine ⟨property, ?_, done⟩
  rw [← name]
  exact Property.filter_name_of_nodup nodup among

/-- In a container of a class, an annotation that the class has now and that asks for a property has
    exactly one, read from it, if there is a field of its name, and otherwise none. -/
theorem annotation_cases {container : Container} {entry : ClassEntry}
    (built : table.build defaults (.class target) = .ok container)
    (known : table.find? target = some entry) {field : String × TypeExpr}
    (mem : field ∈ entry.own.entries) (asks : AsksForProperty field) :
    (field.1 ∈ entry.fields.map Prod.fst ∧
      ∃ property,
        container.properties.filter (fun other => other.name = field.1) = [property] ∧
        Property.read (table.readReference defaults [target.id]) defaults field.1 field.2 =
          .ok property) ∨
    (field.1 ∉ entry.fields.map Prod.fst ∧
      container.properties.filter (fun other => other.name = field.1) = []) := by
  obtain ⟨_, _, _, read⟩ := of_build_ok built
  have found : table.classes[target.id]? = some entry := known
  have visible : table.visibleFields target.id = entry.currentFields.filter isVisibleField := by
    rw [visibleFields, found]
    rfl
  have names := names_of_readsField (readsField_of_readClass read)
  rw [visible, ← entry.visibleNames_eq] at names
  by_cases isField : field.1 ∈ entry.fields.map Prod.fst
  · refine .inl ⟨isField, ?_⟩
    apply exists_property_of_visibleField read
    · rw [names]
      exact entry.nodup_visibleNames
    · rw [visible]
      exact List.mem_filter.2
        ⟨(ClassEntry.mem_currentFields_iff mem).2 isField, asks.isVisibleField⟩
  · refine .inr ⟨isField, ?_⟩
    rw [List.filter_eq_nil_iff]
    intro other among same
    have shown : other.name ∈ container.properties.map Property.name :=
      List.mem_map_of_mem among
    rw [names, of_decide_eq_true same] at shown
    obtain ⟨_, remembered, mem, name, _⟩ := ClassEntry.mem_visibleNames_iff.1 shown
    exact isField (List.mem_map.2 ⟨remembered, mem, name⟩)

/-- Of the annotations of a class that ask for a property, a container of the class keeps those that
    meet a condition: each of these has exactly one property, read from it, and the others have
    none. -/
def KeepsOnly (table : ClassTable) (defaults : Defaults) (target : ClassRef)
    (entries : List (String × TypeExpr)) (kept : String × TypeExpr → Prop)
    (container : Container) : Prop :=
  ∀ field ∈ entries, AsksForProperty field →
    (kept field → ∃ property,
      container.properties.filter (fun other => other.name = field.1) = [property] ∧
      Property.read (table.readReference defaults [target.id]) defaults field.1 field.2 =
        .ok property) ∧
    (¬kept field → container.properties.filter (fun other => other.name = field.1) = [])

/-- After changes that leave its own annotations in place, a container of a class keeps those that
    it was made with and that have a field. -/
theorem keepsOnly_of_build {before : ClassTable} {scope : Scope} {name : String}
    {bases : List ClassRef} {record : Bool} {entries : List (String × TypeExpr)}
    {changes : List Change}
    (spared : ∀ change ∈ changes,
      ¬change.Reannotates (before.define scope name bases record entries).1.id)
    {container : Container}
    (built : ((before.define scope name bases record entries).2.after changes).build defaults
      (.class (before.define scope name bases record entries).1) = .ok container) :
    ((before.define scope name bases record entries).2.after changes).KeepsOnly defaults
      (before.define scope name bases record entries).1 (FieldTable.ofEntries entries).entries
      (ClassEntry.HasField scope (before.lineage bases) record) container := by
  have start := before.find?_define scope name bases record entries
  obtain ⟨now, known, like, own⟩ := exists_after start changes
  intro field mem asks
  have isOwn : field ∈ now.own.entries := by
    rw [own spared]
    exact mem
  have isField : field.1 ∈ now.fields.map Prod.fst ↔
      ClassEntry.HasField scope (before.lineage bases) record field := by
    rw [ClassEntry.fields, like.slots]
    exact ClassEntry.mem_fieldNames_make_iff mem
  rcases annotation_cases built known isOwn asks with ⟨among, single⟩ | ⟨absent, none⟩
  · exact ⟨fun _ => single, fun refused => absurd (isField.1 among) refused⟩
  · exact ⟨fun has => absurd (isField.2 has) absent, fun _ => none⟩

/-- After any changes, a class that is a record neither by itself nor through a class that it comes
    after is refused as a declaration. -/
theorem run_declare_of_no_record {before : ClassTable} {bases : List ClassRef} {record : Bool}
    (plain : record = false)
    (plainLineage : (before.lineage bases).any ClassEntry.madeAsRecord = false) (scope : Scope)
    (name : String) (entries : List (String × TypeExpr)) (changes : List Change) (kind : Kind)
    (given description : Option String) :
    let made := before.define scope name bases record entries
    (declare (.class made.1) kind given description).run (made.2.after changes) =
      .error (.recordRequired kind.mark) (made.2.after changes) := by
  intro made
  have start := before.find?_define scope name bases record entries
  obtain ⟨now, known, like, _⟩ := exists_after start changes
  have noRecord : now.isRecord = false := by
    rw [like.isRecord, ClassEntry.make, plain, plainLineage]
    rfl
  have found : (made.2.after changes).find? made.1 = some now := known
  rw [run_declare, found]
  dsimp only
  rw [if_neg (by simp [noRecord])]

/-- A class that is declared after changes that leave its own annotations in place can be built at
    once, and its container keeps those that it was made with and that have a field. -/
theorem exists_keepsOnly_of_declared {before : ClassTable} {scope : Scope} {name : String}
    {bases : List ClassRef} {record : Bool} {entries : List (String × TypeExpr)}
    {changes : List Change}
    (spared : ∀ change ∈ changes,
      ¬change.Reannotates (before.define scope name bases record entries).1.id)
    {kind : Kind} {given description : Option String} {declaration : Declaration}
    {after : ClassTable}
    (done : (declare (.class (before.define scope name bases record entries).1) kind given
        description).run ((before.define scope name bases record entries).2.after changes) =
      .ok declaration after) (defaults : Defaults) :
    ∃ container,
      after.build defaults (.class (before.define scope name bases record entries).1) =
          .ok container ∧
        after.KeepsOnly defaults (before.define scope name bases record entries).1
          (FieldTable.ofEntries entries).entries
          (ClassEntry.HasField scope (before.lineage bases) record) container := by
  obtain ⟨⟨entry, known⟩, read, _, changed⟩ := of_run_declare_ok done
  obtain ⟨properties, _, built⟩ := build_withDeclaration_self known read defaults
  rw [← changed] at built
  refine ⟨_, built, ?_⟩
  -- declaring the class is one more change that leaves its annotations in place
  have onward := after_concat (before.define scope name bases record entries).2 changes
    (.declare (.class (before.define scope name bases record entries).1) kind given description)
  rw [Change.apply_declare_of_ok done] at onward
  rw [← onward] at built ⊢
  apply keepsOnly_of_build _ built
  intro change mem
  rcases List.mem_append.1 mem with mem | mem
  · exact spared change mem
  · rw [List.mem_singleton.1 mem]
    exact id

/-- What becomes of the annotations that a class is made with, whatever its bases are and whatever
    happens to the table later as long as they are not replaced. A class that is no record, neither
    by itself nor through a class that it comes after, is refused as a declaration. A class that is
    declared can be built at once under all defaults, and whenever it is built, its annotations that
    ask for a property have exactly one each, read from them, if they have a field. In a class that
    was made as a record they all have one but for the forms that make none; in any other class only
    those have one that have the name of a field of the nearest class made as a record, and the
    others are lost. -/
theorem annotations_of_declared (before : ClassTable) (scope : Scope) (name : String)
    (bases : List ClassRef) (record : Bool) (entries : List (String × TypeExpr))
    (changes : List Change) :
    let made := before.define scope name bases record entries
    let table := made.2.after changes
    let annotations := (FieldTable.ofEntries entries).entries
    let kept := ClassEntry.HasField scope (before.lineage bases) record
    (∀ kind given description,
      record = false → (before.lineage bases).any ClassEntry.madeAsRecord = false →
        (declare (.class made.1) kind given description).run table =
          .error (.recordRequired kind.mark) table) ∧
    ((∀ change ∈ changes, ¬change.Reannotates made.1.id) →
      (∀ kind given description declaration after,
        (declare (.class made.1) kind given description).run table = .ok declaration after →
          ∀ defaults, ∃ container, after.build defaults (.class made.1) = .ok container ∧
            after.KeepsOnly defaults made.1 annotations kept container) ∧
      ∀ defaults container, table.build defaults (.class made.1) = .ok container →
        table.KeepsOnly defaults made.1 annotations kept container) := by
  intro made table annotations kept
  constructor
  · intro kind given description plain plainLineage
    exact run_declare_of_no_record plain plainLineage scope name entries changes kind given
      description
  · intro spared
    constructor
    · intro kind given description declaration after done defaults
      exact exists_keepsOnly_of_declared spared done defaults
    · intro defaults container built
      exact keepsOnly_of_build spared built

/-- A point that is a record by itself keeps both of its annotations, the one that replaces a field
    of its base and the one that adds a field. -/
theorem annotations_of_declared_point :
    let scope : Scope := ⟨"shapes", []⟩
    let base : ClassRef := ⟨0, "Base", "shapes"⟩
    let point : ClassRef := ⟨1, "Point", "shapes"⟩
    let bases := (ClassTable.empty.define scope "Base" [] true [("x", .builtin .integer)]).2
    let entries : List (String × TypeExpr) := [("x", .builtin .string), ("y", .builtin .boolean)]
    let table := (bases.define scope "Point" [base] true entries).2
    ∃ declaration after,
      (declare (.class point) .entity none none).run table = .ok declaration after ∧
      ∀ defaults, ∃ container, after.build defaults (.class point) = .ok container ∧
        ∀ field ∈ entries, ∃ property,
          container.properties.filter (fun other => other.name = field.1) = [property] ∧
          Property.read (after.readReference defaults [point.id]) defaults field.1 field.2 =
            .ok property := by
  intro scope base point bases entries table
  have listed : ∀ field ∈ entries, field = ("x", .builtin .string) ∨
      field = ("y", .builtin .boolean) := by
    intro field mem
    simpa [entries] using mem
  have fields : (table.classes[point.id]?).map ClassEntry.currentFields = some entries := by
    simp only [table, entries, bases, point, base, scope]
    rfl
  have scalars : ∀ field ∈ table.visibleFields point.id,
      ∃ primitive, field.2.EndsIn (.scalar primitive) := by
    intro field mem
    rw [visibleFields, fields, Option.getD_some] at mem
    rcases listed field (List.mem_filter.1 mem).1 with rfl | rfl
    · exact ⟨"string", .scalar rfl rfl rfl⟩
    · exact ⟨"boolean", .scalar rfl rfl rfl⟩
  have asks : ∀ field ∈ entries, AsksForProperty field := by
    intro field mem
    rcases listed field mem with rfl | rfl
    · exact ⟨by decide, rfl, fun analysis taken => by cases taken; rfl⟩
    · exact ⟨by decide, rfl, fun analysis taken => by cases taken; rfl⟩
  have read := (isOk_readClass_iff table {} [] point).2 (expands_of_scalars scalars [])
  obtain ⟨after, done⟩ : ∃ after, (declare (.class point) .entity none none).run table =
      .ok (Declaration.of point .entity none none) after := by
    have known : table.find? point = some table.classes[1] := rfl
    rw [run_declare, known]
    cases result : table.readClass {} [] point with
    | error fault =>
        rw [result] at read
        cases read
    | ok properties => exact ⟨_, rfl⟩
  obtain ⟨_, kept⟩ := annotations_of_declared bases scope "Point" [base] true entries []
  obtain ⟨declared, _⟩ := kept (by simp)
  refine ⟨_, after, done, ?_⟩
  intro defaults
  obtain ⟨container, built, keeps⟩ := declared .entity none none _ after done defaults
  refine ⟨container, built, ?_⟩
  intro field mem
  have role : scope.role field.2 = .field := by
    rcases listed field mem with rfl | rfl
    · rfl
    · rfl
  exact (keeps field mem (asks field mem)).1 (.made rfl role)

/-- A class that is a record through its base alone is accepted as a declaration, and the one
    annotation that it is made with has no property in its container. -/
theorem plain_subclass_loses_annotation :
    let scope : Scope := ⟨"shapes", []⟩
    let base : ClassRef := ⟨0, "Base", "shapes"⟩
    let sub : ClassRef := ⟨1, "Sub", "shapes"⟩
    let bases := (ClassTable.empty.define scope "Base" [] true [("x", .builtin .integer)]).2
    let table := (bases.define scope "Sub" [base] false [("y", .builtin .integer)]).2
    ∃ declaration after,
      (declare (.class sub) .type none none).run table = .ok declaration after ∧
      after.ownFields sub = [("y", .builtin .integer)] ∧
      AsksForProperty ("y", .builtin .integer) ∧
      after.build {} (.class sub) =
        .ok ⟨"Sub", .type, [⟨"x", .scalar "number", none, true, false⟩], none⟩ := by
  intro scope base sub bases table
  have peeled : Analysis.core ⟨.builtin .integer, .expr (.builtin .integer), none, false, []⟩ =
      .ok (.scalar "number") := Analysis.core_of_not_isList rfl
  have single : ∀ expansion, Property.read expansion {} "x" (.builtin .integer) =
      .ok ⟨"x", .scalar "number", none, true, false⟩ :=
    fun expansion => Property.read_of_core rfl peeled expansion {} "x"
  have asks : ∀ name : String, name.toList.head? ≠ some '_' →
      AsksForProperty (name, .builtin .integer) := by
    intro name named
    refine ⟨named, rfl, ?_⟩
    intro analysis taken
    cases taken
    rfl
  have shown : table.visibleFields sub.id = [("x", .builtin .integer)] :=
    List.filter_cons_of_pos (asks "x" (by decide)).isVisibleField
  have read : table.readClass {} [] sub = .ok [⟨"x", .scalar "number", none, true, false⟩] := by
    rw [readClass_eq, shown, List.mapM_cons, single]
    rfl
  have done : (declare (.class sub) .type none none).run table =
      .ok ⟨.type, "Sub", none⟩ (table.withDeclaration sub ⟨.type, "Sub", none⟩) := by
    have known : table.find? sub = some table.classes[1] := rfl
    rw [run_declare, known, read]
    rfl
  have self : ∃ properties, table.readClass {} [] sub = .ok properties ∧
      (table.withDeclaration sub ⟨.type, "Sub", none⟩).build {} (.class sub) =
        .ok ⟨"Sub", .type, properties, none⟩ :=
    build_withDeclaration_self rfl (by rw [read]; rfl) {}
  obtain ⟨properties, again, built⟩ := self
  cases read.symm.trans again
  exact ⟨_, _, done, rfl, asks "y" (by decide), built⟩

end ClassTable

end SchemaProjection
