/-
Module: SchemaProjection.Proofs.TableChanges
Purpose: A table over time. Classes are made, own annotations are replaced and classes are declared,
  in any order. A single change is about one class at most and leaves the others as they are; and
  what a class remembers of its making stays with it, whatever happens to it or to its base later.
Imports: SchemaProjection.Proofs.DeclaringClasses
Main exports: Change, Change.apply, Change.about, ClassTable.after, ClassTable.Spares,
  ClassTable.getElem?_after_of_spares, ClassEntry.MadeLike, ClassTable.exists_after
-/
import SchemaProjection.Proofs.DeclaringClasses

namespace SchemaProjection

/-- A change of a table: a class is made, the own annotations of a class are replaced, or a subject
    is declared. -/
inductive Change where
  | define (scope : Scope) (name : String) (bases : List ClassRef) (record : Bool)
      (entries : List (String × TypeExpr))
  | reannotate (target : ClassRef) (entries : List (String × TypeExpr))
  | declare (subject : Subject) (kind : Kind) (name description : Option String)

namespace Change

/-- The table after a change. A refused declaration changes nothing. -/
def apply (table : ClassTable) : Change → ClassTable
  | .define scope name bases record entries => (table.define scope name bases record entries).2
  | .reannotate target entries => table.reannotate target entries
  | .declare subject kind name description =>
      match (ClassTable.declare subject kind name description).run table with
      | .ok _ after => after
      | .error _ after => after

/-- The number of the class that a change is about. A class that is made gets the next number, and
    plain data is no class. -/
def about (table : ClassTable) : Change → Option Nat
  | .define _ _ _ _ _ => some table.classes.length
  | .reannotate target _ => some target.id
  | .declare (.class target) _ _ _ => some target.id
  | .declare (.datum _) _ _ _ => none

/-- A change replaces the own annotations of a class. -/
def Reannotates (id : Nat) : Change → Prop
  | .reannotate target _ => target.id = id
  | .define _ _ _ _ _ | .declare _ _ _ _ => False

/-- A class that was declared is a record class. -/
theorem isRecord_of_run_declare_ok {table after : ClassTable} {target : ClassRef} {kind : Kind}
    {name description : Option String} {declaration : Declaration}
    (done : (ClassTable.declare (.class target) kind name description).run table =
      .ok declaration after) : table.IsRecord target.id := by
  rw [ClassTable.run_declare] at done
  split at done
  · cases done
  · next entry known =>
      split at done
      · next record => exact ⟨entry, known, record⟩
      · cases done

/-- Declaring a class changes nothing, or the declaration of a record class. -/
theorem apply_declare_class (table : ClassTable) (target : ClassRef) (kind : Kind)
    (name description : Option String) :
    apply table (.declare (.class target) kind name description) = table ∨
      (table.IsRecord target.id ∧
        apply table (.declare (.class target) kind name description) =
          table.withDeclaration target (Declaration.of target kind name description)) := by
  rw [apply]
  cases run : (ClassTable.declare (.class target) kind name description).run table with
  | ok declaration after =>
      obtain ⟨_, _, stored, changed⟩ := ClassTable.of_run_declare_ok run
      subst stored
      exact .inr ⟨isRecord_of_run_declare_ok run, changed⟩
  | error fault after => exact .inl (ClassTable.of_run_declare_error run)

/-- A declaration that succeeds leads to the table that it leaves. -/
theorem apply_declare_of_ok {table after : ClassTable} {subject : Subject} {kind : Kind}
    {name description : Option String} {declaration : Declaration}
    (done : (ClassTable.declare subject kind name description).run table =
      .ok declaration after) : apply table (.declare subject kind name description) = after := by
  rw [apply, done]

/-- Declaring a record class that can be read stores the declaration. -/
theorem apply_declare_of_isOk {table : ClassTable} {target : ClassRef}
    (record : table.IsRecord target.id) (read : (table.readClass {} [] target).isOk = true)
    (kind : Kind) (name description : Option String) :
    apply table (.declare (.class target) kind name description) =
      table.withDeclaration target (Declaration.of target kind name description) := by
  obtain ⟨entry, known, isRecord⟩ := record
  have found : table.find? target = some entry := known
  rw [apply, ClassTable.run_declare, found]
  dsimp only
  rw [if_pos isRecord]
  cases result : table.readClass {} [] target with
  | error fault =>
      rw [result] at read
      cases read
  | ok properties => rfl

/-- A change leaves every class as it is that it is not about. -/
theorem getElem?_apply_of_about_ne {table : ClassTable} {change : Change} {id : Nat}
    (elsewhere : change.about table ≠ some id) :
    (change.apply table).classes[id]? = table.classes[id]? := by
  cases change with
  | define scope name bases record entries =>
      have other : id ≠ table.classes.length := fun same => elsewhere (congrArg some same.symm)
      rcases Nat.lt_or_gt_of_ne other with early | late
      · exact List.getElem?_append_left early
      · have beyond : (apply table (.define scope name bases record entries)).classes.length ≤
            id := by
          rw [apply, ClassTable.define, List.length_append, List.length_singleton]
          exact late
        rw [List.getElem?_eq_none (Nat.le_of_lt late)]
        exact List.getElem?_eq_none beyond
  | reannotate target entries =>
      have other : target.id ≠ id := fun same => elsewhere (congrArg some same)
      have found := table.find?_modify target ⟨id, "", ""⟩
        fun entry => { entry with own := FieldTable.ofEntries entries }
      rw [if_neg other] at found
      exact found
  | declare subject kind name description =>
      cases subject with
      | datum value => rfl
      | «class» target =>
          have other : target.id ≠ id := fun same => elsewhere (congrArg some same)
          rcases apply_declare_class table target kind name description with same | ⟨_, stored⟩
          · rw [same]
          · rw [stored, ClassTable.getElem?_withDeclaration, if_neg other]

end Change

/-- A class was made like another: it is a record class if the other one is, and it remembers the
    same annotations. -/
structure ClassEntry.MadeLike (entry other : ClassEntry) : Prop where
  isRecord : entry.isRecord = other.isRecord
  slots : entry.slots = other.slots

/-- A change keeps what a class remembers of its making, and its own annotations too unless it
    replaces them. -/
theorem Change.exists_apply {table : ClassTable} {id : Nat} {entry : ClassEntry}
    (known : table.classes[id]? = some entry) (change : Change) :
    ∃ now, (change.apply table).classes[id]? = some now ∧ now.MadeLike entry ∧
      (¬change.Reannotates id → now.own = entry.own) := by
  by_cases elsewhere : change.about table = some id
  · cases change with
    | define scope name bases record entries =>
        -- the number of a class that is made is that of no class before
        have bound := (List.getElem?_eq_some_iff.1 known).1
        cases elsewhere
        exact absurd bound (Nat.lt_irrefl _)
    | reannotate target entries =>
        cases elsewhere
        have found := table.find?_modify target target
          fun entry => { entry with own := FieldTable.ofEntries entries }
        rw [if_pos rfl, ClassTable.find?, ClassTable.find?, known] at found
        exact ⟨_, found, ⟨rfl, rfl⟩, fun kept => absurd rfl kept⟩
    | declare subject kind name description =>
        cases subject with
        | datum value => cases elsewhere
        | «class» target =>
            cases elsewhere
            rcases apply_declare_class table target kind name description with same | ⟨_, stored⟩
            · rw [same]
              exact ⟨entry, known, ⟨rfl, rfl⟩, fun _ => rfl⟩
            · rw [stored, ClassTable.getElem?_withDeclaration, if_pos rfl, known]
              exact ⟨_, rfl, ⟨rfl, rfl⟩, fun _ => rfl⟩
  · rw [getElem?_apply_of_about_ne elsewhere]
    exact ⟨entry, known, ⟨rfl, rfl⟩, fun _ => rfl⟩

namespace ClassTable

/-- The table after some changes, one after another. -/
def after (table : ClassTable) (changes : List Change) : ClassTable :=
  changes.foldl Change.apply table

/-- The last of some changes is made after the others. -/
theorem after_concat (table : ClassTable) (changes : List Change) (change : Change) :
    table.after (changes ++ [change]) = change.apply (table.after changes) := by
  rw [after, List.foldl_append, List.foldl_cons, List.foldl_nil, after]

/-- None of some changes, made one after another, is about a class among those that are kept. -/
def Spares (kept : Nat → Prop) (table : ClassTable) : List Change → Prop
  | [] => True
  | change :: changes =>
      (∀ id, kept id → change.about table ≠ some id) ∧ Spares kept (change.apply table) changes

/-- Changes that spare some classes leave them as they are. -/
theorem getElem?_after_of_spares {kept : Nat → Prop} {table : ClassTable} {changes : List Change}
    (spares : table.Spares kept changes) {id : Nat} (mem : kept id) :
    (table.after changes).classes[id]? = table.classes[id]? := by
  induction changes generalizing table with
  | nil => rfl
  | cons change changes ih =>
      obtain ⟨elsewhere, rest⟩ := spares
      have now := Change.getElem?_apply_of_about_ne (elsewhere id mem)
      exact (ih rest).trans now

/-- A class keeps what it remembers of its making through all changes, and its own annotations until
    they are replaced. -/
theorem exists_after {table : ClassTable} {id : Nat} {entry : ClassEntry}
    (known : table.classes[id]? = some entry) (changes : List Change) :
    ∃ now, (table.after changes).classes[id]? = some now ∧ now.MadeLike entry ∧
      ((∀ change ∈ changes, ¬change.Reannotates id) → now.own = entry.own) := by
  induction changes generalizing table entry with
  | nil => exact ⟨entry, known, ⟨rfl, rfl⟩, fun _ => rfl⟩
  | cons change changes ih =>
      obtain ⟨next, found, made, own⟩ := change.exists_apply known
      obtain ⟨now, later, madeLater, ownLater⟩ := ih found
      refine ⟨now, later, ?_, ?_⟩
      · exact ⟨madeLater.isRecord.trans made.isRecord, madeLater.slots.trans made.slots⟩
      · intro kept
        have first := own (kept change List.mem_cons_self)
        have rest := ownLater fun other mem => kept other (List.mem_cons_of_mem change mem)
        exact rest.trans first

end ClassTable

end SchemaProjection
