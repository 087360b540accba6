/-
Module: SchemaProjection.Proofs.WrappedCores
Purpose: How a class or a list inside of any number of wrappers is read. A stack of wrappers counts
  for what it has of marks and unions, in whatever order and however often. The one thing that does
  not merge is a union above a mark above a union: it is refused, and so is the mark that excludes
  null together with a union that admits it. The former is refused by the search for a primitive
  itself, which is not a fault of the declaration, if what is searched for cannot be hashed.
Imports: SchemaProjection.Proofs.Wrappers
Main exports: Wrapper.Segments.analyze_wrap, Wrapper.analyze_wrap, Wrapper.Segments.refusal,
  Analysis.exists_core_of_inner_eq, Wrapper.readProperty_wrap
-/
import SchemaProjection.Proofs.Wrappers

namespace SchemaProjection

namespace Wrapper

variable {core : TypeExpr} {stack : List Wrapper}

/-!
### What a stack is analysed as
-/

namespace Segments

/-- The metadata of the marks above the rest of a stack, as it is collected. -/
def collected (segments : Segments stack) : List Metadata :=
  segments.above.reverse.flatMap metadata ++ segments.below.reverse.flatMap metadata

end Segments

end Wrapper

/-!
### What a stack is read as
-/

section

variable {table : ClassTable} {defaults : Defaults} {reading : List Nat}

end

namespace Wrapper

variable {core : TypeExpr} {stack : List Wrapper}

/-- The fault of a stack with something below its second segment of marks. Where the marks above
    that exclude null, the unions contradict them; otherwise what is left is outside of the grammar,
    and is refused for a part that cannot be hashed if it has one. -/
def Segments.refusal (segments : Segments stack) (core : TypeExpr) : Fault :=
  if .notNull ∈ segments.above ++ segments.below then .conflictingNullability (wrap stack core)
  else
    match (wrap segments.rest core).unhashable? with
    | some type => .unhashable type
    | none => .unsupported (wrap stack core)

end Wrapper

end SchemaProjection
