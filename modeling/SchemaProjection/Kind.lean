/-
Module: SchemaProjection.Kind
Purpose: The two kinds of declaration. A type describes a value that travels by itself, so a member
  of it may be left out; an entity describes a stored record, so each of its members is always
  present.
Imports: none
Main exports: Kind, Kind.text, Kind.ofText?
-/

namespace SchemaProjection

/-- How a declared container is used: as a standalone type, or as an entity backed by records. -/
inductive Kind where
  | type
  | entity
deriving DecidableEq, Repr, Inhabited

namespace Kind

/-- The word that names a kind in requests, notices and markers. -/
def text : Kind → String
  | .type => "type"
  | .entity => "entity"

/-- The kind that a word names, if it names one. -/
def ofText? : String → Option Kind
  | "type" => some .type
  | "entity" => some .entity
  | _ => none

/-- Each kind is read back from its own word. -/
@[simp] theorem ofText?_text (kind : Kind) : ofText? kind.text = some kind := by
  cases kind <;> rfl

end Kind

end SchemaProjection
