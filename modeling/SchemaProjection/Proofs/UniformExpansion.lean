/-
Module: SchemaProjection.Proofs.UniformExpansion
Purpose: Inline expansion does not depend on where it happens. The classes being read can only turn
  a reading into a refusal: with fewer of them a successful reading has the same result. So wherever
  a class is referred to in what is built, below lists and other structures of any depth, it expands
  to one and the same structure, which is the one that it is read as alone.
Imports: SchemaProjection.Proofs.LevelNames
Main exports: Property.read_of_implies, ClassTable.readClass_of_subset,
  ClassTable.readClass_unique, ClassTable.ExpandsAlone, ClassTable.struct_at_of_classAt,
  ClassTable.expansion_is_uniform
-/
import SchemaProjection.Proofs.LevelNames

namespace SchemaProjection

/-!
### The classes being read
-/

/-- A property that was read is read the same under every expansion that has the same answers. -/
theorem Property.read_of_implies {expansion other : Expansion}
    (implies : ∀ target inner properties, expansion target inner = .ok properties →
      other target inner = .ok properties)
    {defaults : Defaults} {name : String} {expr : TypeExpr} {property : Property}
    (read : Property.read expansion defaults name expr = .ok property) :
    Property.read other defaults name expr = .ok property := by
  rcases Property.read_cases defaults name expr with
    ⟨fault, _, _, always⟩ | ⟨_, made, _, always⟩ | ⟨target, inner, fill, _, always⟩
  · rw [always] at read
    cases read
  · rw [always] at read ⊢
    exact read
  · rw [always] at read ⊢
    cases answer : expansion target inner with
    | error fault =>
        rw [answer] at read
        cases read
    | ok properties =>
        rw [implies target inner properties answer]
        rw [answer] at read
        exact read

namespace ClassTable

variable {table : ClassTable} {defaults : Defaults}

/-- A class that is read while some classes are being read is read the same while fewer are. -/
theorem readClass_of_subset {reading larger : List Nat} {target : ClassRef}
    {properties : List Property} (fewer : reading ⊆ larger)
    (read : table.readClass defaults larger target = .ok properties) :
    table.readClass defaults reading target = .ok properties := by
  induction larger, target using reading_induction table generalizing reading properties with
  | step larger target ih =>
      rw [readClass_eq] at read ⊢
      refine mapM_eq_ok_of_implies ?_ read
      intro field property
      apply Property.read_of_implies
      intro inner expr fields expanded
      obtain ⟨inlinable, fresh, inside⟩ := readReference_eq_ok_iff.1 expanded
      -- both readings go on with the class itself among those being read
      have onward : target.id :: reading ⊆ target.id :: larger := List.cons_subset_cons _ fewer
      have freshToo : inner.id ∉ target.id :: reading := fun among => fresh (onward among)
      have insideToo := ih inner inlinable fresh onward inside
      exact readReference_eq_ok_iff.2 ⟨inlinable, freshToo, insideToo⟩

/-- All successful readings of a class have the same result. -/
theorem readClass_unique {reading other : List Nat} {target : ClassRef}
    {properties others : List Property}
    (read : table.readClass defaults reading target = .ok properties)
    (again : table.readClass defaults other target = .ok others) : properties = others := by
  have alone := readClass_of_subset (List.nil_subset reading) read
  have aloneToo := readClass_of_subset (List.nil_subset other) again
  exact Except.ok.inj (alone.symm.trans aloneToo)

/-- Which class is read depends on its number and not on the name that it is referred to by. -/
theorem readClass_congr {target other : ClassRef} (same : target.id = other.id)
    (reading : List Nat) :
    table.readClass defaults reading target = table.readClass defaults reading other := by
  rw [readClass_eq, readClass_eq, same]

/-!
### A class alone
-/

/-- A base type is the structure that a class expands to alone: the one of the property that a mere
    reference to the class is read as, whatever its name. -/
def ExpandsAlone (table : ClassTable) (defaults : Defaults) (target : ClassRef)
    (type : BaseType) : Prop :=
  ∃ fields, type = .struct fields ∧ ∀ name,
    table.readProperty defaults name (.reference target) =
      .ok ⟨name, .struct fields, none, defaults.structNullable, false⟩

/-- A class that can be read where it is referred to expands alone to what it was read as. -/
theorem expandsAlone_of_readClass {reading : List Nat} {target : ClassRef}
    {fields : List Property} (inlinable : table.Inlinable target.id)
    (read : table.readClass defaults reading target = .ok fields) :
    table.ExpandsAlone defaults target (.struct fields) := by
  refine ⟨fields, rfl, ?_⟩
  intro name
  have alone := readClass_of_subset (List.nil_subset reading) read
  have expanded : table.readReference defaults [] target (.reference target) = .ok fields :=
    readReference_eq_ok_iff.2 ⟨inlinable, List.not_mem_nil, alone⟩
  have taken : (TypeExpr.reference target).analyze =
      .ok ⟨.reference target, .expr (.reference target), none, false, []⟩ := rfl
  apply Property.read_eq_ok_iff.2
  refine ⟨_, .reference target (.reference target), .struct fields, taken, ?_, ?_, rfl⟩
  · rw [Analysis.core_of_not_isList rfl]
    rfl
  · rw [Core.expand, expanded]
    rfl

end ClassTable

/-!
### A class at the end of a path
-/

/-- What an analysed type expression that refers to a class is read as: the structure of what the
    class is read as alone. -/
theorem Analysis.Reads.struct_of_target {table : ClassTable} {defaults : Defaults}
    {analysis : Analysis} {type : BaseType} (reads : analysis.Reads table defaults type)
    {target : ClassRef} (refers : analysis.target? = some target) :
    ∃ fields, type = .struct fields ∧ table.Inlinable target.id ∧
      table.readClass defaults [] target = .ok fields := by
  cases reads with
  | scalar inner known =>
      rw [target?, inner] at refers
      cases refers
  | array listed itemTaken optional below =>
      obtain ⟨style, rest, inner⟩ := Analysis.inner_of_listItem listed
      rw [target?, inner] at refers
      cases refers
  | @struct _ reading _ fields inner read inlinable =>
      rw [target?, inner] at refers
      cases refers
      have alone := ClassTable.readClass_of_subset (List.nil_subset reading) read
      exact ⟨fields, rfl, inlinable, alone⟩

/-- What was read from the type expression of a property or an element that refers to a class. -/
theorem Origin.Reads.struct_of_target {table : ClassTable} {defaults : Defaults} {origin : Origin}
    {site : Site} (reads : origin.Reads table defaults site) {target : ClassRef}
    (refers : origin.analysis?.bind Analysis.target? = some target) :
    ∃ fields, site.type = .struct fields ∧ table.Inlinable target.id ∧
      table.readClass defaults [] target = .ok fields := by
  match origin, site, reads with
  | .root fields, _, _ => cases refers
  | .ofField name expr, .ofProperty property, ⟨analysis, type, taken, reads, made⟩ =>
      rw [analysis?, taken] at refers
      obtain ⟨fields, isStruct, alone⟩ := reads.struct_of_target refers
      rw [made]
      exact ⟨fields, isStruct, alone⟩
  | .ofElement expr, .ofElement type nullable, ⟨analysis, taken, reads, _⟩ =>
      rw [analysis?, taken] at refers
      exact reads.struct_of_target refers

namespace ClassTable

variable {table : ClassTable} {defaults : Defaults}

/-- Where a path leads to a class in a table, it leads to the structure that the class is read as
    alone in whatever was read there. -/
theorem struct_at_of_classAt {target inner : ClassRef} {properties : List Property}
    (read : table.readClass defaults [] target = .ok properties) {step : Step} {path : List Step}
    {site : Site} (reached : (Site.root properties).at? (step :: path) = some site)
    (refers : table.classAt? target (step :: path) = some inner) :
    ∃ fields, site.type = .struct fields ∧ table.Inlinable inner.id ∧
      table.readClass defaults [] inner = .ok fields := by
  have start : (Origin.root (table.visibleFields target.id)).Reads table defaults
      (.root properties) := readsField_of_readClass read
  obtain ⟨origin, found, refersThere⟩ := Option.bind_eq_some_iff.1 refers
  obtain ⟨place, foundPlace, reads⟩ := start.exists_at? found
  cases reached.symm.trans foundPlace
  exact reads.struct_of_target refersThere

/-- Every structure below the top of what a class was read as stands where a path leads to a
    class. -/
theorem exists_classAt_of_struct {target : ClassRef} {properties fields : List Property}
    (read : table.readClass defaults [] target = .ok properties) {step : Step} {path : List Step}
    {site : Site} (reached : (Site.root properties).at? (step :: path) = some site)
    (isStruct : site.type = .struct fields) :
    ∃ inner, table.classAt? target (step :: path) = some inner := by
  have start : (Origin.root (table.visibleFields target.id)).Reads table defaults
      (.root properties) := readsField_of_readClass read
  have along := start.at? (step :: path)
  rw [reached] at along
  rw [classAt?]
  generalize (Origin.root (table.visibleFields target.id)).at? table (step :: path) = origin
    at along ⊢
  cases along with
  | @some origin _ reads =>
      have below : ∀ others, site ≠ .root others := by
        intro others isRoot
        rw [isRoot] at reached
        exact Site.at?_cons_ne_root _ step path others reached
      obtain ⟨inner, refers, _⟩ := (reads.level below).2 fields isStruct
      exact ⟨inner, refers⟩

/-- Inline expansion does not depend on where it happens. A class that is read while some classes
    are being read is read the same while fewer are, and all successful readings of it agree. In a
    container that was built every inline structure, be it the type of a property or the element of
    an array, inside of whatever other structures, stands where a path leads to a class; wherever a
    path leads to one class, there is one and the same structure, which is the type of a property
    with a mere reference to the class. -/
theorem expansion_is_uniform (table : ClassTable) (defaults : Defaults) :
    (∀ reading larger target properties, reading ⊆ larger →
      table.readClass defaults larger target = .ok properties →
      table.readClass defaults reading target = .ok properties) ∧
    (∀ reading other target properties others,
      table.readClass defaults reading target = .ok properties →
      table.readClass defaults other target = .ok others → properties = others) ∧
    ∀ target container, table.build defaults (.class target) = .ok container →
      ∀ step path site, (Site.root container.properties).at? (step :: path) = some site →
        (∀ fields, site.type = .struct fields →
          ∃ inner, table.classAt? target (step :: path) = some inner) ∧
        ∀ inner, table.classAt? target (step :: path) = some inner →
          table.ExpandsAlone defaults inner site.type ∧
          ∀ otherStep otherPath otherSite again,
            (Site.root container.properties).at? (otherStep :: otherPath) = some otherSite →
            table.classAt? target (otherStep :: otherPath) = some again →
            again.id = inner.id → otherSite.type = site.type := by
  refine ⟨?_, ?_, ?_⟩
  · intro reading larger target properties fewer read
    exact readClass_of_subset fewer read
  · intro reading other target properties others read again
    exact readClass_unique read again
  · intro target container built step path site reached
    obtain ⟨_, _, _, read⟩ := of_build_ok built
    constructor
    · intro fields isStruct
      exact exists_classAt_of_struct read reached isStruct
    · intro inner refers
      obtain ⟨fields, isStruct, inlinable, alone⟩ := struct_at_of_classAt read reached refers
      rw [isStruct]
      refine ⟨expandsAlone_of_readClass inlinable alone, ?_⟩
      intro otherStep otherPath otherSite again otherReached otherRefers same
      obtain ⟨others, otherStruct, _, otherAlone⟩ :=
        struct_at_of_classAt read otherReached otherRefers
      rw [readClass_congr same] at otherAlone
      rw [otherStruct, readClass_unique otherAlone alone]

end ClassTable

end SchemaProjection
