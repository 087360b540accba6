/-
Module: SchemaProjection.Classes.Declaration
Purpose: Declaring a record class as a type or an entity, and building the container of a declared
  class. A class is read once, under the standard defaults, before the declaration is stored on it;
  a refusal stores nothing. Only a class that carries a declaration itself can be built.
Imports: SchemaProjection.Classes.Reading
Main exports: Subject, ClassTable.withDeclaration, ClassTable.declare, ClassTable.build
-/
import SchemaProjection.Classes.Reading

namespace SchemaProjection

/-- What a caller offers as a declaration: a class, or plain data, which is never one. -/
inductive Subject where
  | class (target : ClassRef)
  | datum (value : Datum)
deriving Inhabited

/-- How a message names what was offered: a class by its name, data as it is written. -/
def Subject.display : Subject → String
  | .class target => target.name
  | .datum value => value.shown

/-- The mark that declares a kind, as messages name it. -/
def Kind.mark (kind : Kind) : String := "@shapecast." ++ kind.text

/-- The declaration that a mark stores: an empty or absent name stands for the name of the class. -/
def Declaration.of (target : ClassRef) (kind : Kind) (name description : Option String) :
    Declaration where
  kind := kind
  name := match name with
    | none | some "" => target.name
    | some given => given
  description := description

namespace ClassTable

/-- What is known of an offered subject. -/
def subject? (table : ClassTable) : Subject → Option (ClassRef × ClassEntry)
  | .class target => (table.find? target).map (target, ·)
  | .datum _ => none

/-- The table with a declaration on a class, in place of an earlier one. -/
def withDeclaration (table : ClassTable) (target : ClassRef) (declaration : Declaration) :
    ClassTable :=
  table.modify target fun entry => { entry with declaration := some declaration }

/-- Declare a record class, which has to be readable under the standard defaults. The answer is the
    declaration, which the table holds from then on. -/
def declare (subject : Subject) (kind : Kind) (name description : Option String) :
    EStateM Fault ClassTable Declaration := do
  let table ← get
  match table.subject? subject with
  | some (target, entry) =>
      unless entry.isRecord do throw (.recordRequired kind.mark)
      let _ ← MonadExcept.ofExcept (table.readClass {} [] target)
      let declaration := Declaration.of target kind name description
      set (table.withDeclaration target declaration)
      return declaration
  | none => throw (.recordRequired kind.mark)

/-- Build the container of a declared class under some defaults. -/
def build (table : ClassTable) (defaults : Defaults) (subject : Subject) :
    Except Fault Container :=
  match table.subject? subject with
  | some (target, entry) =>
      match entry.declaration with
      | some declaration => do
          let properties ← table.readClass defaults [] target
          return ⟨declaration.name, declaration.kind, properties, declaration.description⟩
      | none => .error (.undeclared subject.display)
  | none => .error (.undeclared subject.display)

end ClassTable

end SchemaProjection
