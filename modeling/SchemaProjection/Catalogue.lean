/-
Module: SchemaProjection.Catalogue
Purpose: A small catalogue of products as an example of the whole way from classes to text: a draft
  with an inline structure and a stored product, first under the standard settings and then with
  fewer values that may be null.
Imports: SchemaProjection.Model, SchemaProjection.TypeExpr.Formation
Main exports: Catalogue.text
-/
import SchemaProjection.Model
import SchemaProjection.TypeExpr.Formation

namespace SchemaProjection.Catalogue

/-- Whole numbers. -/
def integer : TypeExpr := .builtin .integer

/-- Numbers with a fractional part. -/
def real : TypeExpr := .builtin .real

/-- Texts. -/
def string : TypeExpr := .builtin .string

/-- Lists of texts. -/
def strings : TypeExpr := .collection .plain .list [string]

/-- The module of the catalogue, which binds no name that an annotation could mean. -/
def scope : Scope := ⟨"catalogue", []⟩

/-- Make the classes of the catalogue and declare two of them. -/
def declarations : EStateM Fault ClassTable (List Source) := do
  let dimensions ← modifyGet fun table => table.define scope "Dimensions" [] true
    [("width", real.notNull), ("height", real)]
  let draft ← modifyGet fun table => table.define scope "ProductDraft" [] true
    [("title", string.notNull), ("price", real), ("tags", strings),
     ("size", .reference dimensions)]
  let _ ← ClassTable.declare (.class draft) .type none none
  let product ← modifyGet fun table => table.define scope "Product" [] true
    [("id", integer.notNull), ("title", string.mandatory), ("tags", strings)]
  let _ ← ClassTable.declare (.class product) .entity none none
  return [.subject (.class draft), .subject (.class product)]

/-- The text of the catalogue under some settings. -/
def textUnder (options : Options) (defaults : Defaults) : Traced String := do
  match declarations.run .empty with
  | .ok sources table =>
      let model ← Model.build table options defaults sources
      .ofExcept model.render
  | .error fault _ => .ofExcept (.error fault)

/-- The text of the catalogue under the standard settings, then with null unions on the arrays of
    entities and scalars that are not null by default. -/
def text : Traced String := do
  let standard ← textUnder {} {}
  let strict ← textUnder { entityArrayNullUnion := true } { scalarNullable := false }
  return standard ++ strict

end SchemaProjection.Catalogue
