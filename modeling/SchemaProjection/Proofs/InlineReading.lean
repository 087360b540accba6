/-
Module: SchemaProjection.Proofs.InlineReading
Purpose: Exactness of reading a class. Reading ends, with no more classes entered one inside of
  another than the table has; it succeeds exactly when everything that is reached by references is
  supported, undeclared and free of cycles; and a refusal as recursive names a class on a cycle. The
  classes being read are the path from the first class to the present one, not the classes seen so
  far, which is why meeting a class twice is no cycle.
Imports: SchemaProjection.Proofs.References
Main exports: ClassTable.readClassWithin, ClassTable.FieldsSupported, ClassTable.Expands,
  ClassTable.isOk_readClass_iff, ClassTable.readClass_error_cases, ClassTable.readClass_exact
-/
import SchemaProjection.Proofs.References

namespace SchemaProjection

open Relation (TransGen ReflTransGen)

namespace ClassTable

/-!
### Reading ends

The reading that is bounded in depth needs no argument why it ends. When the bound is the number of
classes in the table, it never runs into its bound.
-/

/-- Reading with at most `depth` further classes entered one inside of another. A reference that
    leads deeper is answered by `cut`. -/
def readClassWithin (table : ClassTable) (defaults : Defaults) (cut : Expansion) :
    Nat → List Nat → ClassRef → Except Fault (List Property)
  | 0, reading, target =>
      Property.readFields
        (fun inner expr =>
          (table.checkReference (target.id :: reading) inner expr).bind fun _ => cut inner expr)
        defaults (((table.find? target).map ClassEntry.currentFields).getD [])
  | depth + 1, reading, target =>
      Property.readFields
        (fun inner expr =>
          (table.checkReference (target.id :: reading) inner expr).bind fun _ =>
            table.readClassWithin defaults cut depth (target.id :: reading) inner)
        defaults (((table.find? target).map ClassEntry.currentFields).getD [])

/-- Two expansions of references agree when they agree on each reference that is admitted. -/
theorem checkReference_bind_congr {table : ClassTable} {reading : List Nat} {target : ClassRef}
    {expr : TypeExpr} {first second : Except Fault (List Property)}
    (agree : table.Inlinable target.id → target.id ∉ reading → first = second) :
    ((table.checkReference reading target expr).bind fun _ => first) =
      (table.checkReference reading target expr).bind fun _ => second := by
  rcases table.checkReference_cases reading target expr with
    ⟨inlinable, fresh, _⟩ | ⟨_, _, refused⟩ | ⟨_, fault, _, refused⟩
  · rw [agree inlinable fresh]
  · rw [refused]
    rfl
  · rw [refused]
    rfl

/-- A bounded reading is the reading itself when the bound is not below the number of classes that
    are left to read. -/
theorem readClassWithin_eq (table : ClassTable) (defaults : Defaults) (cut : Expansion)
    (depth : Nat) (reading : List Nat) (target : ClassRef)
    (enough : (table.unread (target.id :: reading)).length ≤ depth) :
    table.readClassWithin defaults cut depth reading target =
      table.readClass defaults reading target := by
  induction depth generalizing reading target with
  | zero =>
      rw [readClassWithin, readClass]
      congr 1
      funext inner expr
      rw [readReference_eq]
      apply checkReference_bind_congr
      intro inlinable fresh
      have fewer := length_unread_lt inlinable.lt_length
        (List.contains_eq_mem inner.id (target.id :: reading) ▸ decide_eq_false fresh)
      omega
  | succ depth ih =>
      rw [readClassWithin, readClass]
      congr 1
      funext inner expr
      rw [readReference_eq]
      apply checkReference_bind_congr
      intro inlinable fresh
      have fewer := length_unread_lt inlinable.lt_length
        (List.contains_eq_mem inner.id (target.id :: reading) ▸ decide_eq_false fresh)
      exact ih (target.id :: reading) inner (by omega)

/-- No more classes are left to read than the table has. -/
theorem length_unread_le (table : ClassTable) (reading : List Nat) :
    (table.unread reading).length ≤ table.classes.length := by
  have bound := List.length_filter_le (fun id => !reading.contains id)
    (List.range table.classes.length)
  rwa [List.length_range] at bound

/-!
### What can be expanded
-/

/-- Every visible field of a class ends in a primitive or in a record class. -/
def FieldsSupported (table : ClassTable) (id : Nat) : Prop :=
  ∀ field ∈ table.visibleFields id,
    (∃ primitive, field.2.EndsIn (.scalar primitive)) ∨
      ∃ reference : ClassRef, field.2.EndsIn (.reference reference) ∧
        table.IsRecord reference.id

/-- A class can be expanded while some classes are being read: what is reached from it is supported,
    undeclared, free of cycles and apart from the classes being read. -/
structure Expands (table : ClassTable) (reading : List Nat) (id : Nat) : Prop where
  supported : ∀ reached, ReflTransGen table.Refers id reached → table.FieldsSupported reached
  undeclared : ∀ reached, TransGen table.Refers id reached → ¬table.IsDeclared reached
  acyclic : ∀ reached, ReflTransGen table.Refers id reached →
    ¬TransGen table.Refers reached reached
  apart : ∀ reached, TransGen table.Refers id reached → reached ∉ reading

/-- A class can be expanded exactly when its own fields are supported and each class that it refers
    to is undeclared, is not being read, the class itself included, and can be expanded in turn. -/
theorem expands_iff {table : ClassTable} {reading : List Nat} {id : Nat} :
    table.Expands reading id ↔
      table.FieldsSupported id ∧ ∀ next, table.Refers id next →
        ¬table.IsDeclared next ∧ next ∉ id :: reading ∧ table.Expands (id :: reading) next := by
  constructor
  · intro expands
    refine ⟨expands.supported id .refl, ?_⟩
    intro next refers
    have reached : TransGen table.Refers id next := .single refers
    refine ⟨expands.undeclared next reached, ?_, ?_⟩
    · intro mem
      rcases List.mem_cons.1 mem with same | mem
      · exact expands.acyclic id .refl (same ▸ reached)
      · exact expands.apart next reached mem
    · constructor
      · exact fun other onward => expands.supported other (.head refers onward)
      · exact fun other onward => expands.undeclared other (.head refers onward)
      · exact fun other onward => expands.acyclic other (.head refers onward)
      · intro other onward mem
        have reached : TransGen table.Refers id other := .head refers onward
        rcases List.mem_cons.1 mem with same | mem
        · exact expands.acyclic id .refl (same ▸ reached)
        · exact expands.apart other reached mem
  · intro parts
    obtain ⟨supported, onward⟩ := parts
    have apart : ∀ reached, TransGen table.Refers id reached → reached ∉ id :: reading := by
      intro reached path
      obtain ⟨next, refers, rest⟩ := TransGen.head'_iff.1 path
      obtain ⟨_, fresh, expands⟩ := onward next refers
      rcases ReflTransGen.cases_head rest with rfl | ⟨_, step, rest⟩
      · exact fresh
      · exact expands.apart reached (.head' step rest)
    constructor
    · intro reached path
      rcases ReflTransGen.cases_head path with rfl | ⟨next, refers, rest⟩
      · exact supported
      · exact (onward next refers).2.2.supported reached rest
    · intro reached path
      obtain ⟨next, refers, rest⟩ := TransGen.head'_iff.1 path
      obtain ⟨undeclared, _, expands⟩ := onward next refers
      rcases ReflTransGen.cases_head rest with rfl | ⟨_, step, rest⟩
      · exact undeclared
      · exact expands.undeclared reached (.head' step rest)
    · intro reached path cycle
      rcases ReflTransGen.cases_head path with rfl | ⟨next, refers, rest⟩
      · exact apart id cycle List.mem_cons_self
      · exact (onward next refers).2.2.acyclic reached rest cycle
    · exact fun reached path mem => apart reached path (List.mem_cons_of_mem id mem)

/-- A class whose visible fields are all primitives can be expanded. -/
theorem expands_of_scalars {table : ClassTable} {id : Nat}
    (scalars : ∀ field ∈ table.visibleFields id,
      ∃ primitive, field.2.EndsIn (.scalar primitive)) (reading : List Nat) :
    table.Expands reading id := by
  apply expands_iff.2
  refine ⟨fun field mem => .inl (scalars field mem), ?_⟩
  intro next refers
  exact absurd refers (not_refers_of_scalars scalars next)

/-!
### When reading succeeds
-/

/-- A reference has an expansion exactly when it is admitted and the class can be read. -/
theorem isOk_readReference_iff (table : ClassTable) (defaults : Defaults) (reading : List Nat)
    (target : ClassRef) (expr : TypeExpr) :
    (table.readReference defaults reading target expr).isOk = true ↔
      table.Inlinable target.id ∧ target.id ∉ reading ∧
        (table.readClass defaults reading target).isOk = true := by
  rw [readReference_eq]
  rcases table.checkReference_cases reading target expr with
    ⟨inlinable, fresh, admitted⟩ | ⟨_, again, refused⟩ | ⟨foreign, fault, _, refused⟩
  · rw [admitted]
    exact ⟨fun read => ⟨inlinable, fresh, read⟩, fun parts => parts.2.2⟩
  · rw [refused]
    exact ⟨fun read => (by cases read), fun parts => absurd again parts.2.1⟩
  · rw [refused]
    exact ⟨fun read => (by cases read), fun parts => absurd parts.1 foreign⟩

/-- A class can be read exactly when it can be expanded. The defaults have no part in it. -/
theorem isOk_readClass_iff (table : ClassTable) (defaults : Defaults) (reading : List Nat)
    (target : ClassRef) :
    (table.readClass defaults reading target).isOk = true ↔ table.Expands reading target.id := by
  induction reading, target using reading_induction table with
  | step reading target ih =>
      have answers : ∀ (inner : ClassRef) expr,
          (table.readReference defaults (target.id :: reading) inner expr).isOk = true ↔
            table.Inlinable inner.id ∧ inner.id ∉ target.id :: reading ∧
              table.Expands (target.id :: reading) inner.id := by
        intro inner expr
        rw [isOk_readReference_iff]
        constructor
        · intro parts
          obtain ⟨inlinable, fresh, read⟩ := parts
          exact ⟨inlinable, fresh, (ih inner inlinable fresh).1 read⟩
        · intro parts
          obtain ⟨inlinable, fresh, expands⟩ := parts
          exact ⟨inlinable, fresh, (ih inner inlinable fresh).2 expands⟩
      rw [readClass_eq, isOk_mapM, expands_iff]
      constructor
      · intro read
        constructor
        · intro field mem
          rcases (Property.isOk_read_iff answers defaults field.1 field.2).1 (read field mem) with
            ends | ⟨reference, ends, inlinable, _⟩
          · exact .inl ends
          · exact .inr ⟨reference, ends, inlinable.1⟩
        · intro next refers
          obtain ⟨field, mem, reference, ends, rfl⟩ := refers
          rcases (Property.isOk_read_iff answers defaults field.1 field.2).1 (read field mem) with
            ⟨primitive, other⟩ | ⟨other, otherEnds, inlinable, fresh, expands⟩
          · cases ends.unique other
          · cases ends.unique otherEnds
            exact ⟨inlinable.2, fresh, expands⟩
      · intro parts field mem
        obtain ⟨supported, onward⟩ := parts
        rw [Property.isOk_read_iff answers]
        rcases supported field mem with ends | ⟨reference, ends, record⟩
        · exact .inl ends
        · obtain ⟨undeclared, fresh, expands⟩ :=
            onward reference.id ⟨field, mem, reference, ends, rfl⟩
          exact .inr ⟨reference, ends, ⟨record, undeclared⟩, fresh, expands⟩

/-!
### Why reading is refused
-/

/-- A class refers to another one that can be expanded. -/
def Inlines (table : ClassTable) (source target : Nat) : Prop :=
  table.Refers source target ∧ table.Inlinable target

/-- A reference stands in a class, as what the type expression of a visible field ends in. -/
def Mentions (table : ClassTable) (source : Nat) (reference : ClassRef) : Prop :=
  ∃ field ∈ table.visibleFields source, field.2.EndsIn (.reference reference)

/-- A reference is wrong by itself: a class refers to a declared class, or has a visible field that
    is not supported. -/
def Faulty (table : ClassTable) (id : Nat) : Prop :=
  ¬table.FieldsSupported id ∨ ∃ next, table.Refers id next ∧ table.IsDeclared next

/-- A class that refers to a class which cannot be expanded is faulty. -/
theorem faulty_of_not_inlinable {table : ClassTable} {id : Nat} {field : String × TypeExpr}
    {reference : ClassRef} (mem : field ∈ table.visibleFields id)
    (ends : field.2.EndsIn (.reference reference)) (foreign : ¬table.Inlinable reference.id) :
    table.Faulty id := by
  by_cases record : table.IsRecord reference.id
  · have declared : table.IsDeclared reference.id :=
      Classical.not_not.1 fun undeclared => foreign ⟨record, undeclared⟩
    exact .inr ⟨reference.id, ⟨field, mem, reference, ends, rfl⟩, declared⟩
  · refine .inl fun supported => ?_
    rcases supported field mem with ⟨primitive, other⟩ | ⟨other, otherEnds, isRecord⟩
    · cases ends.unique other
    · cases ends.unique otherEnds
      exact record isRecord

/-- A class with a visible field that ends in nothing is faulty. -/
theorem faulty_of_endless {table : ClassTable} {id : Nat} {field : String × TypeExpr}
    (mem : field ∈ table.visibleFields id) (endless : ∀ ending, ¬field.2.EndsIn ending) :
    table.Faulty id := by
  refine .inl fun supported => ?_
  rcases supported field mem with ⟨primitive, ends⟩ | ⟨reference, ends, _⟩
  · exact endless _ ends
  · exact endless _ ends

/-- What a refusal says when the classes being read are a path to the present one. It is recursive
    and carries the name of a reference that was reached, to a class on a cycle, or it is not and a
    faulty class was reached. -/
theorem readClass_error_cases (table : ClassTable) (defaults : Defaults) (reading : List Nat)
    (target : ClassRef) (path : ∀ id ∈ reading, TransGen table.Inlines id target.id)
    {fault : Fault} (refused : table.readClass defaults reading target = .error fault) :
    (∃ culprit : ClassRef, fault = .recursiveStructure culprit.name ∧
      (∃ source, ReflTransGen table.Refers target.id source ∧ table.Mentions source culprit) ∧
      TransGen table.Inlines culprit.id culprit.id) ∨
    ((∀ name, fault ≠ .recursiveStructure name) ∧
      ∃ reached, ReflTransGen table.Refers target.id reached ∧ table.Faulty reached) := by
  induction reading, target using reading_induction table generalizing fault with
  | step reading target ih =>
      rw [readClass_eq] at refused
      obtain ⟨field, mem, refused⟩ := exists_of_mapM_error refused
      rcases Property.read_cases defaults field.1 field.2 with
        ⟨other, ofExpr, endless, read⟩ | ⟨primitive, property, _, read⟩ |
        ⟨reference, inner, fill, ends, read⟩
      · rw [read] at refused
        cases refused
        refine .inr ⟨?_, target.id, .refl, faulty_of_endless mem endless⟩
        intro name same
        subst same
        cases ofExpr
      · rw [read] at refused
        cases refused
      · have refers : table.Refers target.id reference.id := ⟨field, mem, reference, ends, rfl⟩
        rw [read, readReference_eq] at refused
        rcases table.checkReference_cases (target.id :: reading) reference inner with
          ⟨inlinable, fresh, admitted⟩ | ⟨inlinable, again, recursive⟩ |
          ⟨foreign, other, plain, denied⟩
        · have step : table.Inlines target.id reference.id := ⟨refers, inlinable⟩
          have longer : ∀ id ∈ target.id :: reading, TransGen table.Inlines id reference.id := by
            intro id among
            rcases List.mem_cons.1 among with rfl | among
            · exact .single step
            · exact (path id among).tail step
          rw [admitted] at refused
          cases inside : table.readClass defaults (target.id :: reading) reference with
          | ok properties => rw [Except.bind, inside] at refused; cases refused
          | error other =>
              rw [Except.bind, inside] at refused
              cases refused
              rcases ih reference inlinable fresh longer inside with
                ⟨culprit, same, ⟨source, onward, mentions⟩, cycle⟩ |
                ⟨plain, reached, onward, faulty⟩
              · exact .inl ⟨culprit, same, ⟨source, .head refers onward, mentions⟩, cycle⟩
              · exact .inr ⟨plain, reached, .head refers onward, faulty⟩
        · rw [recursive] at refused
          cases refused
          have step : TransGen table.Inlines target.id reference.id := .single ⟨refers, inlinable⟩
          refine .inl ⟨reference, rfl, ⟨target.id, .refl, field, mem, ends⟩, ?_⟩
          rcases List.mem_cons.1 again with same | again
          · rw [same] at step ⊢
            exact step
          · exact (path reference.id again).trans step
        · rw [denied] at refused
          cases refused
          exact .inr ⟨plain, target.id, .refl, faulty_of_not_inlinable mem ends foreign⟩

/-!
### Exactness
-/

/-- Reading a class ends and is exact about cycles. It enters no more classes one inside of another
    than the table has, whatever would be answered for deeper references. It succeeds exactly when
    each class that is reached through visible fields has only fields that end in a primitive or a
    record class, no declared class is referred to, and no class that is reached refers back to
    itself; so a class that is met several times without a cycle is never refused. A refusal as
    recursive carries the name of a reference which stands in a class that is reached, and whose own
    class lies on a cycle of references that are expanded in place; and when there is a cycle and
    nothing else is wrong, that is the refusal. -/
theorem readClass_exact (table : ClassTable) (defaults : Defaults) (target : ClassRef) :
    (∀ cut, table.readClassWithin defaults cut table.classes.length [] target =
      table.readClass defaults [] target) ∧
    ((table.readClass defaults [] target).isOk = true ↔
      (∀ id, ReflTransGen table.Refers target.id id → table.FieldsSupported id) ∧
      (∀ id, TransGen table.Refers target.id id → ¬table.IsDeclared id) ∧
      ∀ id, ReflTransGen table.Refers target.id id → ¬TransGen table.Refers id id) ∧
    (∀ name, table.readClass defaults [] target = .error (.recursiveStructure name) →
      ∃ culprit : ClassRef, culprit.name = name ∧
        (∃ source, ReflTransGen table.Refers target.id source ∧ table.Mentions source culprit) ∧
        TransGen table.Inlines culprit.id culprit.id) ∧
    ((∀ id, ReflTransGen table.Refers target.id id → table.FieldsSupported id) →
      (∀ id, TransGen table.Refers target.id id → ¬table.IsDeclared id) →
      (∃ id, ReflTransGen table.Refers target.id id ∧ TransGen table.Refers id id) →
      ∃ culprit : ClassRef,
        table.readClass defaults [] target = .error (.recursiveStructure culprit.name) ∧
        (∃ source, ReflTransGen table.Refers target.id source ∧ table.Mentions source culprit) ∧
        TransGen table.Inlines culprit.id culprit.id) := by
  refine ⟨?_, ?_, ?_, ?_⟩
  · intro cut
    exact table.readClassWithin_eq defaults cut _ [] target (table.length_unread_le [target.id])
  · rw [isOk_readClass_iff]
    constructor
    · intro expands
      exact ⟨expands.supported, expands.undeclared, expands.acyclic⟩
    · intro parts
      obtain ⟨supported, undeclared, acyclic⟩ := parts
      exact ⟨supported, undeclared, acyclic, fun _ _ => List.not_mem_nil⟩
  · intro name refused
    rcases table.readClass_error_cases defaults [] target (by simp) refused with
      ⟨culprit, same, onward, cycle⟩ | ⟨plain, _⟩
    · cases same
      exact ⟨culprit, rfl, onward, cycle⟩
    · exact absurd rfl (plain name)
  · intro supported undeclared cyclic
    obtain ⟨id, reached, cycle⟩ := cyclic
    cases read : table.readClass defaults [] target with
    | ok properties =>
        have expands : table.Expands [] target.id := by
          rw [← isOk_readClass_iff table defaults [] target, read]
          rfl
        exact absurd cycle (expands.acyclic id reached)
    | error fault =>
        rcases table.readClass_error_cases defaults [] target (by simp) read with
          ⟨culprit, same, onward, cycle⟩ | ⟨_, other, path, faulty⟩
        · exact ⟨culprit, by rw [same], onward, cycle⟩
        · rcases faulty with unsupported | ⟨next, step, declared⟩
          · exact absurd (supported other path) unsupported
          · exact absurd declared (undeclared next (.tail' path step))

end ClassTable

end SchemaProjection
