/-
Module: SchemaProjection.Proofs.DeclaringClasses
Purpose: What declaring a class does to every build. A refused declaration leaves the table as it
  was. A class that was declared can be built at once and under all defaults, since reading it found
  no way back to it; another class keeps its build unless it reaches the declared class, in which
  case it is refused for that reference.
Imports: SchemaProjection.Classes.Declaration, SchemaProjection.Proofs.InlineReading
Main exports: ClassTable.readClass_withDeclaration, ClassTable.readClass_withDeclaration_of_reaches,
  ClassTable.run_declare, ClassTable.declare_effect
-/
import SchemaProjection.Classes.Declaration
import SchemaProjection.Proofs.InlineReading

namespace SchemaProjection

open Relation (TransGen ReflTransGen)

/-- A declaration has the given name, or that of its class in place of an empty or absent one. -/
theorem Declaration.name_of (target : ClassRef) (kind : Kind) (name description : Option String) :
    (Declaration.of target kind name description).name =
      if name.getD "" = "" then target.name else name.getD "" := by
  cases name with
  | none => rfl
  | some given =>
      by_cases empty : given = ""
      · subst empty
        rfl
      · simp [Declaration.of, empty]

namespace ClassTable

section

variable {table : ClassTable} {target : ClassRef} {declaration : Declaration}

/-!
### The table with one more declaration
-/

theorem getElem?_withDeclaration (id : Nat) :
    (table.withDeclaration target declaration).classes[id]? =
      if target.id = id then
        table.classes[id]?.map fun entry => { entry with declaration := some declaration }
      else table.classes[id]? :=
  table.find?_modify target ⟨id, "", ""⟩ _

theorem visibleFields_withDeclaration (id : Nat) :
    (table.withDeclaration target declaration).visibleFields id = table.visibleFields id := by
  rw [visibleFields, getElem?_withDeclaration, visibleFields]
  split
  · rw [Option.map_map]
    rfl
  · rfl

theorem refers_withDeclaration (table : ClassTable) (target : ClassRef)
    (declaration : Declaration) :
    (table.withDeclaration target declaration).Refers = table.Refers := by
  funext source next
  rw [Refers, visibleFields_withDeclaration, Refers]

theorem find?_withDeclaration_of_ne {source : ClassRef} (apart : source.id ≠ target.id) :
    (table.withDeclaration target declaration).find? source = table.find? source := by
  rw [find?, getElem?_withDeclaration, if_neg (fun same => apart same.symm), find?]

theorem find?_withDeclaration_self {entry : ClassEntry} (known : table.find? target = some entry)
    {source : ClassRef} (same : source.id = target.id) :
    (table.withDeclaration target declaration).find? source =
      some { entry with declaration := some declaration } := by
  rw [find?] at known
  rw [find?, getElem?_withDeclaration, if_pos same.symm, same, known]
  rfl

/-- The decision on a reference to another class is the same as before. -/
theorem checkReference_withDeclaration_of_ne {reference : ClassRef}
    (apart : reference.id ≠ target.id) (reading : List Nat) (expr : TypeExpr) :
    (table.withDeclaration target declaration).checkReference reading reference expr =
      table.checkReference reading reference expr := by
  rw [checkReference, find?_withDeclaration_of_ne apart, checkReference]

/-- A reference to the declared class is refused with its name. -/
theorem checkReference_withDeclaration_self {entry : ClassEntry}
    (known : table.find? target = some entry) {reference : ClassRef}
    (same : reference.id = target.id) (reading : List Nat) (expr : TypeExpr) :
    (table.withDeclaration target declaration).checkReference reading reference expr =
      .error (.declaredReference declaration.name) := by
  rw [checkReference, find?_withDeclaration_self known same]

/-!
### Reading in both tables
-/

/-- Expanding a reference after a declaration gives what it gave before, or the reference leads to
    the declared class, provided the same holds of reading the class behind it. -/
theorem readReference_withDeclaration_of {entry : ClassEntry}
    (known : table.find? target = some entry) {defaults : Defaults} {reading : List Nat}
    {reference : ClassRef}
    (inside : table.Inlinable reference.id → reference.id ∉ reading →
      (table.withDeclaration target declaration).readClass defaults reading reference =
        table.readClass defaults reading reference ∨
      (TransGen table.Refers reference.id target.id ∧
        (table.withDeclaration target declaration).readClass defaults reading reference =
          .error (.declaredReference declaration.name)))
    (expr : TypeExpr) :
    (table.withDeclaration target declaration).readReference defaults reading reference expr =
      table.readReference defaults reading reference expr ∨
    (ReflTransGen table.Refers reference.id target.id ∧
      (table.withDeclaration target declaration).readReference defaults reading reference expr =
        .error (.declaredReference declaration.name)) := by
  rw [readReference_eq, readReference_eq]
  by_cases same : reference.id = target.id
  · rw [checkReference_withDeclaration_self known same]
    exact .inr ⟨same ▸ .refl, rfl⟩
  · rw [checkReference_withDeclaration_of_ne same]
    rcases table.checkReference_cases reading reference expr with
      ⟨inlinable, fresh, passed⟩ | ⟨_, _, refused⟩ | ⟨_, _, _, refused⟩
    · rw [passed]
      rcases inside inlinable fresh with equal | ⟨reaches, refused⟩
      · exact .inl equal
      · exact .inr ⟨reaches.to_reflTransGen, refused⟩
    · rw [refused]
      exact .inl rfl
    · rw [refused]
      exact .inl rfl

/-- Reading a class after a declaration gives what it gave before, or the class reaches the declared
    one and is refused for that. -/
theorem readClass_withDeclaration {entry : ClassEntry} (known : table.find? target = some entry)
    (defaults : Defaults) (reading : List Nat) (source : ClassRef) :
    (table.withDeclaration target declaration).readClass defaults reading source =
      table.readClass defaults reading source ∨
    (TransGen table.Refers source.id target.id ∧
      (table.withDeclaration target declaration).readClass defaults reading source =
        .error (.declaredReference declaration.name)) := by
  induction reading, source using reading_induction table with
  | step reading source ih =>
      have fields : ∀ field ∈ table.visibleFields source.id,
          Property.read ((table.withDeclaration target declaration).readReference defaults
              (source.id :: reading)) defaults field.1 field.2 =
            Property.read (table.readReference defaults (source.id :: reading)) defaults
              field.1 field.2 ∨
          (TransGen table.Refers source.id target.id ∧
            Property.read ((table.withDeclaration target declaration).readReference defaults
              (source.id :: reading)) defaults field.1 field.2 =
              .error (.declaredReference declaration.name)) := by
        intro field mem
        rcases Property.read_cases defaults field.1 field.2 with
          ⟨fault, _, _, read⟩ | ⟨_, property, _, read⟩ | ⟨reference, inner, fill, ends, read⟩
        · exact .inl ((read _).trans (read _).symm)
        · exact .inl ((read _).trans (read _).symm)
        · have refers : table.Refers source.id reference.id := ⟨field, mem, reference, ends, rfl⟩
          rw [read, read]
          rcases readReference_withDeclaration_of known (ih reference) inner with
            same | ⟨onward, refused⟩
          · rw [same]
            exact .inl rfl
          · rw [refused]
            exact .inr ⟨.head' refers onward, rfl⟩
      rw [readClass_eq, readClass_eq, visibleFields_withDeclaration]
      rcases mapM_eq_or_error fields with same | ⟨⟨_, _, reaches⟩, refused⟩
      · exact .inl same
      · exact .inr ⟨reaches, refused⟩

/-- A class that could be read and reaches the declared class is refused for that reference. -/
theorem readClass_withDeclaration_of_reaches {entry : ClassEntry}
    (known : table.find? target = some entry) {defaults : Defaults} {reading : List Nat}
    {source : ClassRef} (reaches : TransGen table.Refers source.id target.id)
    (read : (table.readClass defaults reading source).isOk = true) :
    (table.withDeclaration target declaration).readClass defaults reading source =
      .error (.declaredReference declaration.name) := by
  rcases readClass_withDeclaration known defaults reading source with same | ⟨_, refused⟩
  · -- Had nothing changed, the class would expand in a table in which it reaches a declared class.
    rw [← same, isOk_readClass_iff] at read
    rw [← refers_withDeclaration table target declaration] at reaches
    exact absurd ⟨_, find?_withDeclaration_self known rfl, rfl⟩
      (read.undeclared target.id reaches)
  · exact refused

/-- A class that does not reach the declared class is read as before. -/
theorem readClass_withDeclaration_of_not_reaches {entry : ClassEntry}
    (known : table.find? target = some entry) (defaults : Defaults) (reading : List Nat)
    {source : ClassRef} (apart : ¬TransGen table.Refers source.id target.id) :
    (table.withDeclaration target declaration).readClass defaults reading source =
      table.readClass defaults reading source := by
  rcases readClass_withDeclaration known defaults reading source with same | ⟨reaches, _⟩
  · exact same
  · exact absurd reaches apart

/-!
### Building in both tables
-/

/-- Building a class reads it when it carries a declaration. -/
theorem build_class_eq (table : ClassTable) (defaults : Defaults) (source : ClassRef) :
    table.build defaults (.class source) =
      match (table.find? source).bind ClassEntry.declaration with
      | some own =>
          (table.readClass defaults [] source).map fun properties =>
            ⟨own.name, own.kind, properties, own.description⟩
      | none => .error (.undeclared source.name) := by
  rw [build, subject?]
  cases table.find? source with
  | none => rfl
  | some entry =>
      dsimp only [Option.map_some, Option.bind_some]
      cases entry.declaration with
      | none => rfl
      | some own => cases table.readClass defaults [] source <;> rfl

/-- A class that is built carries a declaration, and its container has what it is read as. -/
theorem of_build_ok {defaults : Defaults} {container : Container}
    (built : table.build defaults (.class target) = .ok container) :
    ∃ entry, table.find? target = some entry ∧ entry.declaration.isSome = true ∧
      table.readClass defaults [] target = .ok container.properties := by
  rw [build_class_eq] at built
  cases known : table.find? target with
  | none =>
      rw [known] at built
      cases built
  | some entry =>
      rw [known, Option.bind_some] at built
      cases declared : entry.declaration with
      | none =>
          rw [declared] at built
          cases built
      | some own =>
          rw [declared] at built
          cases read : table.readClass defaults [] target with
          | error fault =>
              rw [read] at built
              cases built
          | ok properties =>
              rw [read] at built
              cases built
              exact ⟨entry, rfl, by rw [declared]; rfl, rfl⟩

/-- The build of another class after a declaration. One that succeeded is refused when the class
    reaches the declared one and is the same otherwise; one that was refused is refused still, if
    not as before, then because the class reaches the declared one. -/
theorem build_withDeclaration {entry : ClassEntry} (known : table.find? target = some entry)
    {other : ClassRef} (apart : other.id ≠ target.id) (defaults : Defaults) :
    (∀ container, table.build defaults (.class other) = .ok container →
      (TransGen table.Refers other.id target.id →
        (table.withDeclaration target declaration).build defaults (.class other) =
          .error (.declaredReference declaration.name)) ∧
      (¬TransGen table.Refers other.id target.id →
        (table.withDeclaration target declaration).build defaults (.class other) =
          .ok container)) ∧
    ∀ fault, table.build defaults (.class other) = .error fault →
      (table.withDeclaration target declaration).build defaults (.class other) = .error fault ∨
      (TransGen table.Refers other.id target.id ∧
        (table.withDeclaration target declaration).build defaults (.class other) =
          .error (.declaredReference declaration.name)) := by
  rw [build_class_eq, build_class_eq, find?_withDeclaration_of_ne apart]
  cases (table.find? other).bind ClassEntry.declaration with
  | none =>
      constructor
      · intro container built
        cases built
      · intro fault refused
        exact .inl refused
  | some own =>
      dsimp only
      constructor
      · intro container built
        constructor
        · intro reaches
          cases read : table.readClass defaults [] other with
          | error fault => rw [read] at built; cases built
          | ok properties =>
              rw [readClass_withDeclaration_of_reaches known reaches (by rw [read]; rfl)]
              rfl
        · intro unreached
          rw [readClass_withDeclaration_of_not_reaches known defaults [] unreached]
          exact built
      · intro fault refused
        rcases readClass_withDeclaration known defaults [] other with same | ⟨reaches, now⟩
        · rw [same]
          exact .inl refused
        · rw [now]
          exact .inr ⟨reaches, rfl⟩

/-- The build of the declared class itself. Since it could be read, it does not reach itself, and
    what it carries now is out of its own way. -/
theorem build_withDeclaration_self {entry : ClassEntry} (known : table.find? target = some entry)
    (read : (table.readClass {} [] target).isOk = true) (defaults : Defaults) :
    ∃ properties, table.readClass defaults [] target = .ok properties ∧
      (table.withDeclaration target declaration).build defaults (.class target) =
        .ok ⟨declaration.name, declaration.kind, properties, declaration.description⟩ := by
  have expands := (isOk_readClass_iff table {} [] target).1 read
  have again := (isOk_readClass_iff table defaults [] target).2 expands
  have unreached := expands.acyclic target.id .refl
  rw [build_class_eq, find?_withDeclaration_self known rfl,
    readClass_withDeclaration_of_not_reaches known defaults [] unreached]
  cases result : table.readClass defaults [] target with
  | error fault => rw [result] at again; cases again
  | ok properties => exact ⟨properties, rfl, rfl⟩

end

/-!
### Declaring
-/

/-- Declaring a class as a run on the table, which is changed at the very end only. -/
theorem run_declare (table : ClassTable) (target : ClassRef) (kind : Kind)
    (name description : Option String) :
    (declare (.class target) kind name description).run table =
      match table.find? target with
      | none => .error (.recordRequired kind.mark) table
      | some entry =>
        if entry.isRecord then
          match table.readClass {} [] target with
          | .error fault => .error fault table
          | .ok _ =>
            let declaration := Declaration.of target kind name description
            .ok declaration (table.withDeclaration target declaration)
        else .error (.recordRequired kind.mark) table := by
  simp only [declare, EStateM.run_bind, EStateM.run_get, subject?]
  cases table.find? target with
  | none => rfl
  | some entry =>
      dsimp only [Option.map_some]
      cases entry.isRecord with
      | false => rfl
      | true => cases table.readClass {} [] target <;> rfl

/-- A class that was declared is in the table and could be read, and the table changed in its
    declaration alone. -/
theorem of_run_declare_ok {table after : ClassTable} {target : ClassRef} {kind : Kind}
    {name description : Option String} {declaration : Declaration}
    (done : (declare (.class target) kind name description).run table = .ok declaration after) :
    (∃ entry, table.find? target = some entry) ∧
      (table.readClass {} [] target).isOk = true ∧
      declaration = Declaration.of target kind name description ∧
      after = table.withDeclaration target declaration := by
  rw [run_declare] at done
  cases known : table.find? target with
  | none => rw [known] at done; cases done
  | some entry =>
      rw [known] at done
      dsimp only at done
      split at done
      · cases read : table.readClass {} [] target with
        | error fault => rw [read] at done; cases done
        | ok properties =>
            rw [read] at done
            cases done
            exact ⟨⟨entry, rfl⟩, rfl, rfl, rfl⟩
      · cases done

/-- A refused declaration leaves the table as it was. -/
theorem of_run_declare_error {table after : ClassTable} {target : ClassRef} {kind : Kind}
    {name description : Option String} {fault : Fault}
    (refused : (declare (.class target) kind name description).run table = .error fault after) :
    after = table := by
  rw [run_declare] at refused
  split at refused
  · cases refused
    rfl
  · split at refused
    · split at refused
      · cases refused
        rfl
      · cases refused
    · cases refused
      rfl

/-- What declaring a class does, in every table. Refused, it leaves the whole table as it was.
    Accepted, the class itself can be built at once under all defaults, under the given kind,
    description and name (its own name in place of an empty or absent one), with the properties that
    reading it gave before. Every other class whose build succeeded is refused from then on, by the
    new name of the declared class, when visible references lead from it to the declared class, and
    otherwise keeps its container; and a build that was refused is refused still, for the same
    reason unless such references lead to the declared class. -/
theorem declare_effect (table : ClassTable) (target : ClassRef) (kind : Kind)
    (name description : Option String) :
    (∀ fault after,
      (declare (.class target) kind name description).run table = .error fault after →
        after = table) ∧
    ∀ declaration after,
      (declare (.class target) kind name description).run table = .ok declaration after →
        (declaration.name = if name.getD "" = "" then target.name else name.getD "") ∧
        (∀ defaults, ∃ properties, table.readClass defaults [] target = .ok properties ∧
          after.build defaults (.class target) =
            .ok ⟨declaration.name, kind, properties, description⟩) ∧
        ∀ (other : ClassRef) (defaults : Defaults), other.id ≠ target.id →
          (∀ container, table.build defaults (.class other) = .ok container →
            (TransGen table.Refers other.id target.id →
              after.build defaults (.class other) =
                .error (.declaredReference declaration.name)) ∧
            (¬TransGen table.Refers other.id target.id →
              after.build defaults (.class other) = .ok container)) ∧
          ∀ fault, table.build defaults (.class other) = .error fault →
            after.build defaults (.class other) = .error fault ∨
            (TransGen table.Refers other.id target.id ∧
              after.build defaults (.class other) =
                .error (.declaredReference declaration.name)) := by
  constructor
  · intro fault after refused
    exact of_run_declare_error refused
  · intro declaration after done
    obtain ⟨⟨entry, known⟩, read, stored, changed⟩ := of_run_declare_ok done
    subst stored
    subst changed
    refine ⟨?_, ?_, ?_⟩
    · exact Declaration.name_of target kind name description
    · intro defaults
      exact build_withDeclaration_self known read defaults
    · intro other defaults apart
      exact build_withDeclaration known apart defaults

end ClassTable

end SchemaProjection
