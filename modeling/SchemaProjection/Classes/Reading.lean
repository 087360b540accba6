/-
Module: SchemaProjection.Classes.Reading
Purpose: Reading properties from type expressions and record classes. A reference to a record class
  without a declaration of its own is expanded in place into an inline structure; the classes whose
  fields are being read are kept in view, and meeting one of them again is refused, so that reading
  ends.
Imports: SchemaProjection.TypeExpr.Core, SchemaProjection.Classes.Table,
  SchemaProjection.Schema.Basic, SchemaProjection.Settings
Main exports: Core.expand, Property.read, Property.readFields, ClassTable.readClass,
  ClassTable.readReference, ClassTable.readProperty
-/
import SchemaProjection.TypeExpr.Core
import SchemaProjection.Classes.Table
import SchemaProjection.Schema.Basic
import SchemaProjection.Settings

namespace SchemaProjection

/-- The nullability that the defaults assume for a base type. -/
def Defaults.nullableFor (defaults : Defaults) : BaseType → Bool
  | .scalar _ => defaults.scalarNullable
  | .array _ _ => defaults.arrayNullable
  | .struct _ => defaults.structNullable

/-- How the fields of a referenced class are found, given the type expression with the reference. -/
abbrev Expansion := ClassRef → TypeExpr → Except Fault (List Property)

/-- The base type of a core. An element for which nothing is stated has the nullability of the
    defaults. -/
def Core.expand (expansion : Expansion) (defaults : Defaults) : Core → Except Fault BaseType
  | .scalar primitive => .ok (.scalar primitive)
  | .reference target expr => do
      let properties ← expansion target expr
      return .struct properties
  | .list element nullable => do
      let type ← element.expand expansion defaults
      return .array type (nullable.getD defaults.elementNullable)

/-- The property of a name with a type expression. -/
def Property.read (expansion : Expansion) (defaults : Defaults) (name : String)
    (expr : TypeExpr) : Except Fault Property := do
  let analysis ← expr.analyze
  let core ← analysis.core
  let baseType ← core.expand expansion defaults
  return {
    name, baseType
    nullable := analysis.nullable
    defaultNullable := defaults.nullableFor baseType
    mandatory := analysis.mandatory }

/-- The properties of some fields in order, the hidden ones left out. -/
def Property.readFields (expansion : Expansion) (defaults : Defaults) :
    List (String × TypeExpr) → Except Fault (List Property)
  | [] => .ok []
  | (name, expr) :: fields => do
      let hidden ← isHiddenField name expr
      if hidden then Property.readFields expansion defaults fields
      else do
        let property ← Property.read expansion defaults name expr
        let properties ← Property.readFields expansion defaults fields
        return property :: properties

namespace ClassTable

/-- The numbers of the classes of a table that are not among those being read. -/
def unread (table : ClassTable) (reading : List Nat) : List Nat :=
  (List.range table.classes.length).filter fun id => !reading.contains id

/-- One class fewer is left to read when a class of the table joins those being read. -/
theorem length_unread_lt {table : ClassTable} {reading : List Nat} {id : Nat}
    (known : id < table.classes.length) (fresh : reading.contains id = false) :
    (table.unread (id :: reading)).length < (table.unread reading).length := by
  have among : id ∈ table.unread reading := by
    simp only [unread, List.mem_filter, List.mem_range, fresh]
    exact ⟨known, rfl⟩
  have fewer : table.unread (id :: reading) = (table.unread reading).filter (· != id) := by
    simp only [unread, List.filter_filter, List.contains_cons, Bool.not_or, bne]
  rw [fewer]
  exact List.length_filter_lt_length_iff_exists.2 ⟨id, among, by simp⟩

mutual

/-- The properties of a class, read field by field. `reading` numbers the classes whose fields are
    being read; the class itself joins them. -/
def readClass (table : ClassTable) (defaults : Defaults) (reading : List Nat) (target : ClassRef) :
    Except Fault (List Property) :=
  Property.readFields
    (fun inner expr => table.readReference defaults (target.id :: reading) inner expr)
    defaults (((table.find? target).map ClassEntry.currentFields).getD [])
termination_by ((table.unread (target.id :: reading)).length, 1)

/-- The properties that a reference expands to. A declared class cannot be inlined, a class that is
    not a record has no properties, and a class that is being read is not read again. -/
def readReference (table : ClassTable) (defaults : Defaults) (reading : List Nat)
    (target : ClassRef) (expr : TypeExpr) : Except Fault (List Property) :=
  match _found : table.find? target with
  | none => .error (.unsupported expr)
  | some entry =>
    match entry.declaration with
    | some declaration => .error (.declaredReference declaration.name)
    | none =>
      if entry.isRecord then
        if _again : reading.contains target.id then .error (.recursiveStructure target.name)
        else table.readClass defaults reading target
      else .error (.unsupported expr)
termination_by ((table.unread reading).length, 0)
decreasing_by
  exact Prod.Lex.left _ _
    (length_unread_lt (List.getElem?_eq_some_iff.1 _found).1 (by simpa using _again))

end

/-- The property of a name with a type expression, read while no class is being read. -/
def readProperty (table : ClassTable) (defaults : Defaults) (name : String)
    (expr : TypeExpr) : Except Fault Property :=
  Property.read (table.readReference defaults []) defaults name expr

end ClassTable

end SchemaProjection
