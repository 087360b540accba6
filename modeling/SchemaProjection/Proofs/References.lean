/-
Module: SchemaProjection.Proofs.References
Purpose: The graph in which one class refers to another by the type expression of a visible field,
  and reading a class as a walk through that graph. A reference is admitted or refused before the
  class behind it is read, and the walk has an induction principle of its own: the classes being
  read only ever grow by one that is not among them.
Imports: SchemaProjection.Proofs.Endings, SchemaProjection.Proofs.Outcomes, Mathlib.Logic.Relation
Main exports: isVisibleField, Property.read_eq_ok_iff, ClassTable.visibleFields, ClassTable.Refers,
  ClassTable.Inlinable, ClassTable.checkReference, ClassTable.readClass_eq,
  ClassTable.readReference_eq, ClassTable.reading_induction
-/
import SchemaProjection.Proofs.Endings
import SchemaProjection.Proofs.Outcomes
import Mathlib.Logic.Relation

namespace SchemaProjection

/-!
### Visible fields
-/

/-- Whether a field is visible. One that cannot be analysed is. -/
def isVisibleField (field : String × TypeExpr) : Bool :=
  match isHiddenField field.1 field.2 with
  | .ok hidden => !hidden
  | .error _ => true

/-- A field is visible exactly when its name does not begin with an underscore and its type
    expression is not read as class-level. -/
theorem isVisibleField_iff (name : String) (expr : TypeExpr) :
    isVisibleField (name, expr) = true ↔
      name.toList.head? ≠ some '_' ∧
        ∀ analysis, expr.analyze = .ok analysis → analysis.isClassLevel = false := by
  unfold isVisibleField isHiddenField
  by_cases underscore : name.toList.head? = some '_'
  · simp [underscore]
  · cases taken : expr.analyze with
    | error fault => simp [underscore, bind, Except.bind]
    | ok analysis => simp [underscore, bind, Except.bind, pure, Except.pure]

/-- A visible field whose visibility could not be decided cannot be read either. -/
theorem Property.read_of_isHiddenField_error {name : String} {expr : TypeExpr} {fault : Fault}
    (refused : isHiddenField name expr = .error fault) (expansion : Expansion)
    (defaults : Defaults) : Property.read expansion defaults name expr = .error fault := by
  unfold isHiddenField at refused
  split at refused
  · cases refused
  · cases taken : expr.analyze with
    | error other =>
        rw [taken] at refused
        cases refused
        exact Property.read_of_analyze_error taken expansion defaults name
    | ok analysis => rw [taken] at refused; cases refused

/-- A property is read where its type expression can be analysed and peeled down to a core that
    expands to a base type. -/
theorem Property.read_eq_ok_iff {expansion : Expansion} {defaults : Defaults} {name : String}
    {expr : TypeExpr} {property : Property} :
    Property.read expansion defaults name expr = .ok property ↔
      ∃ analysis core type, expr.analyze = .ok analysis ∧ analysis.core = .ok core ∧
        core.expand expansion defaults = .ok type ∧
        property = analysis.property defaults name type := by
  constructor
  · intro read
    rw [Property.read] at read
    obtain ⟨analysis, taken, read⟩ := of_bind_ok read
    obtain ⟨core, peeled, read⟩ := of_bind_ok read
    obtain ⟨type, expanded, made⟩ := of_bind_ok read
    cases made
    exact ⟨analysis, core, type, taken, peeled, expanded, rfl⟩
  · intro parts
    obtain ⟨analysis, core, type, taken, peeled, expanded, rfl⟩ := parts
    rw [Property.read_of_core taken peeled, expanded]
    rfl

/-- Reading some fields reads the visible ones in order. -/
theorem Property.readFields_eq (expansion : Expansion) (defaults : Defaults)
    (fields : List (String × TypeExpr)) :
    Property.readFields expansion defaults fields =
      (fields.filter isVisibleField).mapM fun field =>
        Property.read expansion defaults field.1 field.2 := by
  induction fields with
  | nil => rfl
  | cons field fields ih =>
      obtain ⟨name, expr⟩ := field
      rw [Property.readFields]
      cases hidden : isHiddenField name expr with
      | error fault =>
          have visible : isVisibleField (name, expr) = true := by simp [isVisibleField, hidden]
          rw [List.filter_cons_of_pos visible, List.mapM_cons,
            Property.read_of_isHiddenField_error hidden]
          rfl
      | ok flag =>
          change (if flag = true then Property.readFields expansion defaults fields else _) = _
          cases flag with
          | true =>
              have invisible : ¬isVisibleField (name, expr) = true := by
                simp [isVisibleField, hidden]
              rw [if_pos rfl, List.filter_cons_of_neg invisible, ih]
          | false =>
              have visible : isVisibleField (name, expr) = true := by simp [isVisibleField, hidden]
              rw [if_neg (by simp), List.filter_cons_of_pos visible, List.mapM_cons, ih]

/-!
### The graph of references
-/

namespace ClassTable

/-- The visible fields of a class with the type expressions by which they are read now. -/
def visibleFields (table : ClassTable) (id : Nat) : List (String × TypeExpr) :=
  ((table.classes[id]?.map ClassEntry.currentFields).getD []).filter isVisibleField

/-- A class refers to another one when the type expression of a visible field ends in it. Classes
    are told apart by their numbers, not by their names. -/
def Refers (table : ClassTable) (source target : Nat) : Prop :=
  ∃ field ∈ table.visibleFields source, ∃ reference : ClassRef,
    field.2.EndsIn (.reference reference) ∧ reference.id = target

/-- A class whose visible fields are all primitives refers to no class. -/
theorem not_refers_of_scalars {table : ClassTable} {source : Nat}
    (scalars : ∀ field ∈ table.visibleFields source,
      ∃ primitive, field.2.EndsIn (.scalar primitive)) (target : Nat) :
    ¬table.Refers source target := by
  rintro ⟨field, mem, reference, ends, _⟩
  obtain ⟨primitive, scalar⟩ := scalars field mem
  cases scalar.unique ends

/-- A class of the table is a record class. -/
def IsRecord (table : ClassTable) (id : Nat) : Prop :=
  ∃ entry, table.classes[id]? = some entry ∧ entry.isRecord = true

/-- A class of the table carries a declaration of its own. -/
def IsDeclared (table : ClassTable) (id : Nat) : Prop :=
  ∃ entry, table.classes[id]? = some entry ∧ entry.declaration.isSome = true

/-- A class can be expanded in place: it is a record class without a declaration. -/
def Inlinable (table : ClassTable) (id : Nat) : Prop := table.IsRecord id ∧ ¬table.IsDeclared id

/-- A class that can be expanded is in the table. -/
theorem Inlinable.lt_length {table : ClassTable} {id : Nat} (inlinable : table.Inlinable id) :
    id < table.classes.length := by
  obtain ⟨⟨entry, found, _⟩, _⟩ := inlinable
  exact (List.getElem?_eq_some_iff.1 found).1

/-!
### The decision on a reference
-/

/-- The decision on a reference before the class behind it is read. -/
def checkReference (table : ClassTable) (reading : List Nat) (target : ClassRef) (expr : TypeExpr) :
    Except Fault Unit :=
  match table.find? target with
  | none => .error (.unsupported expr)
  | some entry =>
    match entry.declaration with
    | some declaration => .error (.declaredReference declaration.name)
    | none =>
      if entry.isRecord then
        if reading.contains target.id then .error (.recursiveStructure target.name) else .ok ()
      else .error (.unsupported expr)

/-- What the decision on a reference is. A class that can be expanded is admitted unless it is being
    read, in which case it is refused as recursive; any other class is refused otherwise. -/
theorem checkReference_cases (table : ClassTable) (reading : List Nat) (target : ClassRef)
    (expr : TypeExpr) :
    (table.Inlinable target.id ∧ target.id ∉ reading ∧
      table.checkReference reading target expr = .ok ()) ∨
    (table.Inlinable target.id ∧ target.id ∈ reading ∧
      table.checkReference reading target expr = .error (.recursiveStructure target.name)) ∨
    (¬table.Inlinable target.id ∧ ∃ fault, (∀ name, fault ≠ .recursiveStructure name) ∧
      table.checkReference reading target expr = .error fault) := by
  unfold checkReference
  cases found : table.find? target with
  | none =>
      refine .inr (.inr ⟨?_, .unsupported expr, by simp, rfl⟩)
      intro inlinable
      obtain ⟨⟨entry, known, _⟩, _⟩ := inlinable
      rw [find?] at found
      rw [found] at known
      cases known
  | some entry =>
      have known : table.classes[target.id]? = some entry := found
      cases declared : entry.declaration with
      | some declaration =>
          refine .inr (.inr ⟨?_, .declaredReference declaration.name, by simp, by simp [declared]⟩)
          intro inlinable
          obtain ⟨_, undeclared⟩ := inlinable
          exact undeclared ⟨entry, known, by rw [declared]; rfl⟩
      | none =>
          cases record : entry.isRecord with
          | false =>
              refine .inr (.inr ⟨?_, .unsupported expr, by simp, by simp [declared, record]⟩)
              intro inlinable
              obtain ⟨⟨other, again, recordOther⟩, _⟩ := inlinable
              rw [known] at again
              cases again
              rw [record] at recordOther
              cases recordOther
          | true =>
              have inlinable : table.Inlinable target.id := by
                refine ⟨⟨entry, known, record⟩, ?_⟩
                intro isDeclared
                obtain ⟨other, again, declaredOther⟩ := isDeclared
                rw [known] at again
                cases again
                rw [declared] at declaredOther
                cases declaredOther
              by_cases mem : target.id ∈ reading
              · exact .inr (.inl ⟨inlinable, mem, by simp [declared, record, mem]⟩)
              · exact .inl ⟨inlinable, mem, by simp [declared, record, mem]⟩

/-!
### Reading as a walk
-/

/-- Reading a class reads its visible fields, with the class among those being read. -/
theorem readClass_eq (table : ClassTable) (defaults : Defaults) (reading : List Nat)
    (target : ClassRef) :
    table.readClass defaults reading target =
      (table.visibleFields target.id).mapM fun field =>
        Property.read (table.readReference defaults (target.id :: reading)) defaults
          field.1 field.2 := by
  rw [readClass, Property.readFields_eq]
  rfl

/-- Expanding a reference reads the class behind it, once the reference is admitted. -/
theorem readReference_eq (table : ClassTable) (defaults : Defaults) (reading : List Nat)
    (target : ClassRef) (expr : TypeExpr) :
    table.readReference defaults reading target expr =
      (table.checkReference reading target expr).bind fun _ =>
        table.readClass defaults reading target := by
  rw [readReference, checkReference]
  split
  · next absent => rw [absent]; rfl
  · next entry found =>
      rw [found]
      dsimp only
      cases entry.declaration with
      | some declaration => rfl
      | none =>
          dsimp only
          by_cases record : entry.isRecord = true
          · rw [if_pos record, if_pos record]
            by_cases again : reading.contains target.id = true
            · rw [dif_pos again, if_pos again]
              rfl
            · rw [dif_neg again, if_neg again]
              rfl
          · rw [if_neg record, if_neg record]
            rfl

/-- Induction along the walk. A statement about reading a class may be assumed of every class that
    can be expanded and is not being read yet, with the class itself among those being read. -/
theorem reading_induction (table : ClassTable) {motive : List Nat → ClassRef → Prop}
    (step : ∀ reading target,
      (∀ inner : ClassRef, table.Inlinable inner.id → inner.id ∉ target.id :: reading →
        motive (target.id :: reading) inner) → motive reading target)
    (reading : List Nat) (target : ClassRef) : motive reading target := by
  generalize size : (table.unread (target.id :: reading)).length = left
  induction left using Nat.strongRecOn generalizing reading target with
  | ind left ih =>
      apply step
      intro inner inlinable fresh
      have fewer := length_unread_lt inlinable.lt_length
        (List.contains_eq_mem inner.id (target.id :: reading) ▸ decide_eq_false fresh)
      exact ih _ (size ▸ fewer) (target.id :: reading) inner rfl

end ClassTable

end SchemaProjection
