/-
Module: SchemaProjection.TypeExpr.Core
Purpose: The supported grammar. Below its marks a type expression is peeled down through its lists
  to a core: a primitive, a reference to a class, or a list of a core with what is stated about null
  for its elements. Whether a referenced class may stand there is for the table of classes to say.
Imports: SchemaProjection.TypeExpr.Analysis
Main exports: Core, Builtin.primitive?, Analysis.leaf, Analysis.refusal, Analysis.leaf_cases,
  Analysis.core
-/
import SchemaProjection.TypeExpr.Analysis

namespace SchemaProjection

/-- What is left of a supported type expression. A reference keeps the type expression that it was
    found in, for the message if the class cannot stand there. -/
inductive Core where
  | scalar (primitive : String)
  | reference (target : ClassRef) (expr : TypeExpr)
  | list (element : Core) (nullable : Option Bool)
deriving Inhabited

/-- The primitive that a class stands for, if it stands for one. -/
def Builtin.primitive? : Builtin → Option String
  | .integer | .real => some "number"
  | .string => some "string"
  | .boolean => some "boolean"
  | _ => none

/-!
### The element type of a list is smaller

A type expression is peeled from the outside to the inside, so peeling ends.
-/

namespace TypeExpr

/-- An argument is smaller than the type expression that it is taken from. -/
theorem sizeOf_lt_of_mem_arguments {expr value : TypeExpr}
    (mem : Argument.expr value ∈ expr.arguments) :
    sizeOf value < sizeOf expr := by
  cases expr <;> simp only [arguments, List.mem_map, List.mem_cons, List.not_mem_nil,
    Argument.expr.injEq, reduceCtorEq, or_false, and_false, exists_false, false_or] at mem
  case generic style shape values =>
    obtain ⟨other, found, rfl⟩ := mem
    have := List.sizeOf_lt_of_mem found
    simp only [generic.sizeOf_spec]; omega
  case union style members =>
    obtain ⟨other, found, rfl⟩ := mem
    have := List.sizeOf_lt_of_mem found
    simp only [union.sizeOf_spec]; omega
  case marked inner metadata =>
    subst mem
    simp only [marked.sizeOf_spec]; omega
  case classLevel inner =>
    subst mem
    simp only [classLevel.sizeOf_spec]; omega
  case callable style parameters result =>
    subst mem
    simp only [callable.sizeOf_spec]; omega

/-- Taking off a marked layer makes a type expression no larger. -/
theorem sizeOf_unwrap_le (expr : TypeExpr) :
    sizeOf expr.unwrap.1 ≤ sizeOf expr := by
  cases expr <;> simp only [unwrap, marked.sizeOf_spec] <;> omega

/-- What is left of an optional is no larger than it. -/
theorem sizeOf_splitOptional_le {expr value : TypeExpr}
    (split : expr.splitOptional.1 = .expr value) :
    sizeOf value ≤ sizeOf expr := by
  unfold splitOptional at split
  split at split
  · next only filtered =>
    split at split
    · have mem : only ∈ expr.arguments :=
        (List.mem_filter.1 (filtered ▸ List.mem_singleton_self only)).1
      exact Nat.le_of_lt (sizeOf_lt_of_mem_arguments (split ▸ mem))
    · simp only [Argument.expr.injEq] at split
      exact Nat.le_of_eq (by rw [split])
  · simp only [Argument.expr.injEq] at split
    exact Nat.le_of_eq (by rw [split])

end TypeExpr

/-- The element type of a list is one of its arguments. -/
theorem Argument.mem_arguments_of_listItem {argument : Argument} {item : TypeExpr}
    (found : argument.listItem = some item) :
    ∃ value, argument = .expr value ∧ .expr item ∈ value.arguments := by
  unfold listItem at found
  split at found
  · simp at found
  · next style first rest _ =>
    cases found
    exact ⟨_, rfl, by simp [TypeExpr.arguments]⟩
  · simp at found

/-- The element type of a list is smaller than the type expression of the list. -/
theorem TypeExpr.sizeOf_listItem_lt {expr item : TypeExpr} {analysis : Analysis}
    (taken : expr.analyze = .ok analysis) (found : analysis.listItem = some item) :
    sizeOf item < sizeOf expr := by
  obtain ⟨value, inner, mem⟩ := Argument.mem_arguments_of_listItem found
  have small := sizeOf_lt_of_mem_arguments mem
  simp only [analyze] at taken
  split at taken
  · simp at taken
  · cases taken
    simp only at inner
    have outside := expr.sizeOf_unwrap_le
    cases below : expr.unwrap.1.splitOptional.1 with
    | expr rest =>
      simp only [below, Argument.unwrap, Argument.expr.injEq] at inner
      have middle := sizeOf_splitOptional_le below
      have inside := rest.sizeOf_unwrap_le
      rw [inner] at inside
      omega
    | parameters values => simp [below, Argument.unwrap] at inner
    | metadata value => simp [below, Argument.unwrap] at inner

/-!
### Peeling
-/

/-- The core of what is neither a list nor marked. The search for a primitive hashes what is left,
    so what cannot be hashed is refused by the search itself, and everything else outside of the
    grammar with the type expression that it was found in. -/
def Analysis.leaf (analysis : Analysis) : Except Fault Core :=
  match analysis.inner.unhashable? with
  | some type => .error (.unhashable type)
  | none =>
    match analysis.inner with
    | .expr (.builtin type) =>
        match type.primitive? with
        | some primitive => .ok (.scalar primitive)
        | none => .error (.unsupported analysis.expr)
    | .expr (.reference target) => .ok (.reference target analysis.expr)
    | _ => .error (.unsupported analysis.expr)

namespace Analysis

variable {analysis : Analysis}

/-- The core of a class that stands for a primitive. -/
theorem leaf_of_builtin {type : Builtin} {primitive : String}
    (inner : analysis.inner = .expr (.builtin type)) (known : type.primitive? = some primitive) :
    analysis.leaf = .ok (.scalar primitive) := by
  rw [leaf, inner]
  simp only [Argument.unhashable?, TypeExpr.unhashable?, known]

/-- The core of a reference to a class of the table. -/
theorem leaf_of_reference {target : ClassRef} (inner : analysis.inner = .expr (.reference target)) :
    analysis.leaf = .ok (.reference target analysis.expr) := by
  rw [leaf, inner]
  simp only [Argument.unhashable?, TypeExpr.unhashable?]

/-- The fault of what is outside of the grammar: a part that cannot be hashed, or if there is none
    the type expression as a whole. -/
def refusal (analysis : Analysis) : Fault :=
  match analysis.inner.unhashable? with
  | some type => .unhashable type
  | none => .unsupported analysis.expr

/-- What the core of a leaf can be: a primitive, a reference, or a refusal. -/
theorem leaf_cases (analysis : Analysis) :
    (∃ type primitive, analysis.inner = .expr (.builtin type) ∧
      type.primitive? = some primitive ∧ analysis.leaf = .ok (.scalar primitive)) ∨
    (∃ target, analysis.inner = .expr (.reference target) ∧
      analysis.leaf = .ok (.reference target analysis.expr)) ∨
    analysis.leaf = .error analysis.refusal := by
  unfold leaf refusal
  cases hashed : analysis.inner.unhashable? with
  | some type => exact .inr (.inr rfl)
  | none =>
      dsimp only
      split
      · next type inner =>
        cases known : type.primitive? with
        | some primitive => exact .inl ⟨type, primitive, inner, known, rfl⟩
        | none => exact .inr (.inr rfl)
      · next target inner => exact .inr (.inl ⟨target, inner, rfl⟩)
      · exact .inr (.inr rfl)

end Analysis

/-- The core of an analysed type expression. A list has to name its element type, and an element is
    not marked mandatory. -/
def Analysis.core (analysis : Analysis) : Except Fault Core :=
  if analysis.isList then
    match _found : analysis.listItem with
    | none => .error .bareList
    | some item =>
      match _taken : item.analyze with
      | .error fault => .error fault
      | .ok element =>
        if element.mandatory then .error (.mandatoryElement item)
        else do
          let core ← element.core
          return .list core element.nullable
  else analysis.leaf
termination_by analysis.listItem.elim 0 fun item => sizeOf item + 1
decreasing_by
  rw [_found]
  cases inside : element.listItem with
  | none => exact Nat.succ_pos _
  | some deeper => exact Nat.succ_lt_succ (TypeExpr.sizeOf_listItem_lt _taken inside)

end SchemaProjection
