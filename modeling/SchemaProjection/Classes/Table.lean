/-
Module: SchemaProjection.Classes.Table
Purpose: The classes that declarations are made of. A record class has slots, which remember the
  annotations that held when it was made; every class has annotations of its own, which can be
  replaced later; and a class may carry a declaration, which belongs to it alone.
Imports: SchemaProjection.Classes.FieldRole, SchemaProjection.Classes.FieldTable,
  SchemaProjection.Classes.Hierarchy, SchemaProjection.Kind
Main exports: Declaration, ClassEntry, ClassEntry.make, ClassEntry.fields, ClassEntry.currentExpr,
  ClassTable, ClassTable.lineage, ClassTable.define, ClassTable.reannotate
-/
import SchemaProjection.Classes.FieldRole
import SchemaProjection.Classes.FieldTable
import SchemaProjection.Classes.Hierarchy
import SchemaProjection.Kind

namespace SchemaProjection

/-- What a declaration mark stores on a class. -/
structure Declaration where
  kind : Kind
  name : String
  description : Option String
deriving DecidableEq, Repr, Inhabited

/-- The slots of a record class, by name. A field remembers the type expression that it was made
    with. A name that the class takes note of though it is no field has nothing to remember; it
    keeps its place for a subclass that makes a field of it. -/
abbrev Slots := FieldTable (Option TypeExpr)

/-- The fields among some slots, with what they remember. -/
def Slots.fields (slots : Slots) : List (String × TypeExpr) := FieldTable.select id slots.entries

/-- A name is that of a field when its slot remembers something. -/
theorem Slots.mem_fieldNames_iff {slots : Slots} {name : String} :
    name ∈ slots.fields.map Prod.fst ↔ ∃ expr, slots.find? name = some (some expr) := by
  simp only [FieldTable.find?_eq_some_iff]
  constructor
  · intro mem
    obtain ⟨⟨other, expr⟩, found, rfl⟩ := List.mem_map.1 mem
    obtain ⟨source, slot, same⟩ := FieldTable.mem_select_iff.1 found
    exact ⟨expr, same ▸ slot⟩
  · rintro ⟨expr, slot⟩
    have found : (name, expr) ∈ slots.fields := FieldTable.mem_select_iff.2 ⟨_, slot, rfl⟩
    exact List.mem_map_of_mem found

/-- What is known of a class. It is a record class if it was made as one or comes after a class that
    was. `ancestors` numbers the classes that it comes after, the nearest first. -/
structure ClassEntry where
  isRecord : Bool
  madeAsRecord : Bool
  ancestors : List Nat
  slots : Slots
  own : FieldTable TypeExpr
  declaration : Option Declaration
deriving Inhabited

/-- What a slot holds for a type expression in each role, if there is a slot for it. -/
def FieldRole.slot? (expr : TypeExpr) : FieldRole → Option (Option TypeExpr)
  | .field => some (some expr)
  | .aside => some none
  | .separator => none

/-- The slots that annotations bring to a record class of a module. -/
def Scope.slots (scope : Scope) (own : FieldTable TypeExpr) : List (String × Option TypeExpr) :=
  FieldTable.select (fun expr => (scope.role expr).slot? expr) own.entries

namespace ClassEntry

/-- The fields of a class with what they remember. -/
def fields (entry : ClassEntry) : List (String × TypeExpr) := entry.slots.fields

/-- The type expression by which a field is read: that of the class's own annotations if they have
    the name, else the remembered one. -/
def currentExpr (entry : ClassEntry) (field : String × TypeExpr) : TypeExpr :=
  (entry.own.find? field.1).getD field.2

/-- The fields of a class with the type expressions by which they are read. -/
def currentFields (entry : ClassEntry) : List (String × TypeExpr) :=
  entry.fields.map fun field => (field.1, entry.currentExpr field)

/-- The slots that a class has from the classes that it comes after. A class that is made as a
    record takes those of all of them, a nearer class in place of a farther one; any other has those
    of the nearest class that was made as a record. -/
def inherited (lineage : List ClassEntry) : Bool → Slots
  | true => lineage.foldr (fun entry slots => slots.insertAll entry.slots.entries) .empty
  | false => ((lineage.find? madeAsRecord).map slots).getD .empty

/-- A class made now in a module, with the classes that it comes after and their numbers. One that
    is made as a record adds its own annotations to the slots that it has from them, in place where
    the name is there already. -/
def make (scope : Scope) (ancestors : List Nat) (lineage : List ClassEntry) (record : Bool)
    (entries : List (String × TypeExpr)) : ClassEntry :=
  let own := FieldTable.ofEntries entries
  { isRecord := record || lineage.any madeAsRecord
    madeAsRecord := record
    ancestors := ancestors
    slots :=
      if record then (inherited lineage true).insertAll (scope.slots own)
      else inherited lineage false
    own := own
    declaration := none }

end ClassEntry

/-- All classes, each under the number that its references carry. -/
structure ClassTable where
  classes : List ClassEntry
deriving Inhabited

namespace ClassTable

/-- The table without a class. -/
def empty : ClassTable := ⟨[]⟩

/-- What is known of a referenced class. -/
def find? (table : ClassTable) (target : ClassRef) : Option ClassEntry := table.classes[target.id]?

/-- The numbers of the classes that a class with some bases comes after, the nearest first. A base
    that is not in the table is no base. -/
def ancestors (table : ClassTable) (bases : List ClassRef) : List Nat :=
  let orders := bases.filterMap fun base =>
    (table.find? base).map fun entry => base.id :: entry.ancestors
  Hierarchy.merge (orders ++ [orders.filterMap List.head?])

/-- What is known of the classes that a class with some bases comes after. -/
def lineage (table : ClassTable) (bases : List ClassRef) : List ClassEntry :=
  (table.ancestors bases).filterMap fun id => table.classes[id]?

/-- Make a class in a module. -/
def define (table : ClassTable) (scope : Scope) (name : String) (bases : List ClassRef)
    (record : Bool) (entries : List (String × TypeExpr)) : ClassRef × ClassTable :=
  let entry :=
    ClassEntry.make scope (table.ancestors bases) (table.lineage bases) record entries
  (⟨table.classes.length, name, scope.name⟩, ⟨table.classes ++ [entry]⟩)

/-- A class that was made is known as it was made. -/
theorem find?_define (table : ClassTable) (scope : Scope) (name : String) (bases : List ClassRef)
    (record : Bool) (entries : List (String × TypeExpr)) :
    (table.define scope name bases record entries).2.find?
        (table.define scope name bases record entries).1 =
      some (ClassEntry.make scope (table.ancestors bases) (table.lineage bases) record
        entries) := by
  simp [define, find?]

/-- Change what is known of a class. -/
def modify (table : ClassTable) (target : ClassRef) (change : ClassEntry → ClassEntry) :
    ClassTable :=
  ⟨table.classes.modify target.id change⟩

/-- Replace a class's own annotations. Its slots, and those of its subclasses, stay as they are. -/
def reannotate (table : ClassTable) (target : ClassRef) (entries : List (String × TypeExpr)) :
    ClassTable :=
  table.modify target fun entry => { entry with own := FieldTable.ofEntries entries }

/-- The names of the fields of a record class. -/
def fieldNames? (table : ClassTable) (target : ClassRef) : Option (List String) :=
  match table.find? target with
  | some entry => if entry.isRecord then some (entry.fields.map Prod.fst) else none
  | none => none

/-- A class's own annotations in order. -/
def ownFields (table : ClassTable) (target : ClassRef) : List (String × TypeExpr) :=
  ((table.find? target).map fun entry => entry.own.entries).getD []

/-- What is known of a class after it was changed. -/
theorem find?_modify (table : ClassTable) (target other : ClassRef)
    (change : ClassEntry → ClassEntry) :
    (table.modify target change).find? other =
      if target.id = other.id then (table.find? other).map change else table.find? other := by
  simp only [find?, modify, List.getElem?_modify]
  split <;> simp_all

end ClassTable

end SchemaProjection
