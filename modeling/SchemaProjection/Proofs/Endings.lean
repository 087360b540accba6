/-
Module: SchemaProjection.Proofs.Endings
Purpose: What the supported type expressions are, as a relation. Below its marks, its optional and
  its lists a supported type expression ends in a primitive or in a reference to a class, and
  peeling succeeds exactly on these. The expansion of references is asked for the one reference that
  a type expression ends in, and for no other.
Imports: SchemaProjection.Classes.Reading
Main exports: Ending, TypeExpr.EndsIn, TypeExpr.EndsIn.core, Analysis.of_core_ok,
  Analysis.endsIn_of_core, Core.expand_eq, Property.read_cases
-/
import SchemaProjection.Classes.Reading

namespace SchemaProjection

/-- What a supported type expression ends in. -/
inductive Ending where
  | scalar (primitive : String)
  | reference (target : ClassRef)
deriving DecidableEq

/-- A type expression can be analysed, and what is left below its marks and its optional is a
    primitive, a reference, or a list whose element type is not marked mandatory and ends in turn in
    a primitive or a reference. -/
inductive TypeExpr.EndsIn : TypeExpr → Ending → Prop where
  | scalar {expr : TypeExpr} {analysis : Analysis} {type : Builtin} {primitive : String}
      (taken : expr.analyze = .ok analysis) (inner : analysis.inner = .expr (.builtin type))
      (known : type.primitive? = some primitive) : EndsIn expr (.scalar primitive)
  | reference {expr : TypeExpr} {analysis : Analysis} {target : ClassRef}
      (taken : expr.analyze = .ok analysis) (inner : analysis.inner = .expr (.reference target)) :
      EndsIn expr (.reference target)
  | element {expr item : TypeExpr} {analysis element : Analysis} {ending : Ending}
      (taken : expr.analyze = .ok analysis) (listed : analysis.listItem = some item)
      (itemTaken : item.analyze = .ok element) (optional : element.mandatory = false)
      (below : EndsIn item ending) : EndsIn expr ending

/-!
### Peeling succeeds exactly on what ends
-/

/-- What a core ends in. -/
def Core.ending : Core → Ending
  | .scalar primitive => .scalar primitive
  | .reference target _ => .reference target
  | .list element _ => element.ending

/-- An argument with an element type is a list. -/
theorem Argument.isList_of_listItem {argument : Argument} {item : TypeExpr}
    (found : argument.listItem = some item) : argument.isList = true := by
  unfold listItem at found
  split at found
  · cases found
  · rfl
  · cases found

namespace Analysis

/-- Peeling in one equation, without the proofs that it ends. -/
theorem core_eq (analysis : Analysis) :
    analysis.core =
      if analysis.isList then
        match analysis.listItem with
        | none => .error .bareList
        | some item =>
          match item.analyze with
          | .error fault => .error fault
          | .ok element =>
            if element.mandatory then .error (.mandatoryElement item)
            else element.core.map fun core => .list core element.nullable
      else analysis.leaf := by
  rw [core]
  by_cases list : analysis.isList = true
  · rw [if_pos list, if_pos list]
    split
    · next bare => rw [bare]
    · next item listed =>
        rw [listed]
        dsimp only
        split
        · next refused => rw [refused]
        · next element taken =>
            rw [taken]
            dsimp only
            cases element.core <;> rfl
  · rw [if_neg list, if_neg list]

/-- The core of a list with an element type is that of the element. -/
theorem core_of_listItem {analysis element : Analysis} {item : TypeExpr}
    (listed : analysis.listItem = some item) (itemTaken : item.analyze = .ok element)
    (optional : element.mandatory = false) :
    analysis.core = element.core.map fun core => .list core element.nullable := by
  have list : analysis.isList = true := Argument.isList_of_listItem listed
  rw [core_eq]
  simp [list, listed, itemTaken, optional]

/-- A core other than that of a list is a leaf. -/
theorem core_of_not_isList {analysis : Analysis} (plain : analysis.isList = false) :
    analysis.core = analysis.leaf := by
  rw [core_eq, plain]
  rfl

end Analysis

/-- A supported type expression can be analysed and peeled down to a core with its ending. -/
theorem TypeExpr.EndsIn.core {expr : TypeExpr} {ending : Ending} (ends : expr.EndsIn ending) :
    ∃ analysis core, expr.analyze = .ok analysis ∧ analysis.core = .ok core ∧
      core.ending = ending := by
  induction ends with
  | @scalar expr analysis type primitive taken inner known =>
      have plain : analysis.isList = false := by
        rw [Analysis.isList, inner]
        cases type <;> first | rfl | cases known
      refine ⟨analysis, .scalar primitive, taken, ?_, rfl⟩
      rw [Analysis.core_of_not_isList plain]
      exact Analysis.leaf_of_builtin inner known
  | @reference expr analysis target taken inner =>
      have plain : analysis.isList = false := by rw [Analysis.isList, inner]; rfl
      refine ⟨analysis, .reference target analysis.expr, taken, ?_, rfl⟩
      rw [Analysis.core_of_not_isList plain]
      exact Analysis.leaf_of_reference inner
  | @element expr item analysis element ending taken listed itemTaken optional below ih =>
      obtain ⟨again, core, itemAgain, peeled, same⟩ := ih
      rw [itemTaken] at itemAgain
      cases itemAgain
      refine ⟨analysis, .list core element.nullable, taken, ?_, same⟩
      rw [Analysis.core_of_listItem listed itemTaken optional, peeled]
      rfl

/-- What a core tells of the analysis that it was peeled from. -/
theorem Analysis.of_core_ok {analysis : Analysis} {core : Core}
    (peeled : analysis.core = .ok core) :
    match core with
    | .scalar primitive => ∃ type, analysis.inner = .expr (.builtin type) ∧
        Builtin.primitive? type = some primitive
    | .reference target _ => analysis.inner = .expr (.reference target)
    | .list below nullable => ∃ item element, analysis.listItem = some item ∧
        item.analyze = .ok element ∧ element.mandatory = false ∧ element.core = .ok below ∧
        nullable = element.nullable := by
  rw [Analysis.core_eq] at peeled
  by_cases list : analysis.isList = true
  · rw [if_pos list] at peeled
    cases listed : analysis.listItem with
    | none => rw [listed] at peeled; cases peeled
    | some item =>
        rw [listed] at peeled
        dsimp only at peeled
        cases itemTaken : item.analyze with
        | error fault => rw [itemTaken] at peeled; cases peeled
        | ok element =>
            rw [itemTaken] at peeled
            dsimp only at peeled
            cases optional : element.mandatory with
            | true => rw [if_pos optional] at peeled; cases peeled
            | false =>
                rw [if_neg (by simp [optional])] at peeled
                cases below : element.core with
                | error fault => rw [below] at peeled; cases peeled
                | ok inner =>
                    rw [below] at peeled
                    cases peeled
                    exact ⟨item, element, rfl, itemTaken, optional, below, rfl⟩
  · rw [if_neg list] at peeled
    rcases analysis.leaf_cases with
      ⟨type, primitive, inner, known, leaf⟩ | ⟨target, inner, leaf⟩ | leaf
    · cases leaf.symm.trans peeled
      exact ⟨type, inner, known⟩
    · cases leaf.symm.trans peeled
      exact inner
    · cases leaf.symm.trans peeled

/-- A type expression that is peeled down to a core ends in the core's ending. -/
theorem Analysis.endsIn_of_core {expr : TypeExpr} {analysis : Analysis} {core : Core}
    (taken : expr.analyze = .ok analysis) (peeled : analysis.core = .ok core) :
    expr.EndsIn core.ending := by
  induction core generalizing expr analysis with
  | scalar primitive =>
      obtain ⟨type, inner, known⟩ := Analysis.of_core_ok peeled
      exact .scalar taken inner known
  | reference target found => exact .reference taken (Analysis.of_core_ok peeled)
  | list below nullable ih =>
      obtain ⟨item, element, listed, itemTaken, optional, inner, _⟩ := Analysis.of_core_ok peeled
      exact .element taken listed itemTaken optional (ih itemTaken inner)

/-- A type expression ends in one thing only. -/
theorem TypeExpr.EndsIn.unique {expr : TypeExpr} {first second : Ending}
    (one : expr.EndsIn first) (two : expr.EndsIn second) : first = second := by
  obtain ⟨analysis, core, taken, peeled, ending⟩ := one.core
  obtain ⟨other, again, otherTaken, otherPeeled, otherEnding⟩ := two.core
  rw [taken] at otherTaken
  cases otherTaken
  rw [peeled] at otherPeeled
  cases otherPeeled
  exact ending.symm.trans otherEnding

/-!
### Faults of a type expression

What is wrong with a type expression by itself is found before any class is looked up.
-/

/-- The faults that lie in a type expression, whatever the classes are. -/
def Fault.isOfExpr : Fault → Bool
  | .bareList | .unsupported _ | .conflictingNullability _ | .mandatoryElement _
  | .unhashable _ => true
  | _ => false

/-- An analysis is refused for a fault of the type expression. -/
theorem TypeExpr.isOfExpr_of_analyze {expr : TypeExpr} {fault : Fault}
    (refused : expr.analyze = .error fault) : fault.isOfExpr = true := by
  simp only [analyze] at refused
  split at refused
  · cases refused
    rfl
  · cases refused

/-- A leaf is refused for a fault of the type expression. -/
theorem Analysis.isOfExpr_of_leaf {analysis : Analysis} {fault : Fault}
    (refused : analysis.leaf = .error fault) : fault.isOfExpr = true := by
  rcases analysis.leaf_cases with
    ⟨_, _, _, _, leaf⟩ | ⟨_, _, leaf⟩ | leaf
  · cases leaf.symm.trans refused
  · cases leaf.symm.trans refused
  · cases leaf.symm.trans refused
    unfold refusal
    split
    · rfl
    · rfl

/-- Peeling is refused for a fault of the type expression. -/
theorem Analysis.isOfExpr_of_core {analysis : Analysis} {fault : Fault}
    (refused : analysis.core = .error fault) : fault.isOfExpr = true := by
  induction analysis using Analysis.core.induct with
  | case1 analysis list bare =>
      rw [Analysis.core_eq] at refused
      simp only [list, bare, if_true] at refused
      cases refused
      rfl
  | case2 analysis list item listed other itemRefused =>
      rw [Analysis.core_eq] at refused
      simp only [list, listed, itemRefused, if_true] at refused
      cases refused
      exact TypeExpr.isOfExpr_of_analyze itemRefused
  | case3 analysis list item listed element itemTaken mandatory =>
      rw [Analysis.core_eq] at refused
      simp only [list, listed, itemTaken, mandatory, if_true] at refused
      cases refused
      rfl
  | case4 analysis list item listed element itemTaken optional ih =>
      have optional : element.mandatory = false := by simpa using optional
      rw [Analysis.core_of_listItem listed itemTaken optional] at refused
      cases inner : element.core with
      | error other =>
          rw [inner] at refused
          cases refused
          exact ih inner
      | ok below => rw [inner] at refused; cases refused
  | case5 analysis plain =>
      rw [Analysis.core_of_not_isList (by simpa using plain)] at refused
      exact Analysis.isOfExpr_of_leaf refused

/-!
### One reference at most

Reading a property asks the expansion once, for what the type expression ends in, if that is a
reference; the answer decides the property, and a refusal is passed on as it is.
-/

/-- The reference in a core with the type expression that it was found in, if there is one. -/
def Core.reference? : Core → Option (ClassRef × TypeExpr)
  | .scalar _ => none
  | .reference target expr => some (target, expr)
  | .list element _ => element.reference?

/-- The base type of a core whose reference expands to the properties given. -/
def Core.fill (defaults : Defaults) (properties : List Property) : Core → BaseType
  | .scalar primitive => .scalar primitive
  | .reference _ _ => .struct properties
  | .list element nullable =>
      .array (element.fill defaults properties) (nullable.getD defaults.elementNullable)

/-- Expanding a core asks the expansion for its reference and fills in the answer. -/
theorem Core.expand_eq (expansion : Expansion) (defaults : Defaults) (core : Core) :
    core.expand expansion defaults =
      match core.reference? with
      | none => .ok (core.fill defaults [])
      | some (target, expr) =>
          (expansion target expr).map fun properties => core.fill defaults properties := by
  induction core with
  | scalar primitive => rfl
  | reference target expr =>
      rw [Core.expand, Core.reference?]
      dsimp only
      cases expansion target expr <;> rfl
  | list element nullable ih =>
      rw [Core.expand, ih, Core.reference?]
      cases element.reference? with
      | none => rfl
      | some found =>
          obtain ⟨target, expr⟩ := found
          dsimp only
          cases expansion target expr <;> rfl

/-- A core with a reference ends in it, any other core ends in a primitive. -/
theorem Core.ending_eq (core : Core) :
    (∃ primitive, core.reference? = none ∧ core.ending = .scalar primitive) ∨
      ∃ target expr, core.reference? = some (target, expr) ∧ core.ending = .reference target := by
  induction core with
  | scalar primitive => exact .inl ⟨primitive, rfl, rfl⟩
  | reference target expr => exact .inr ⟨target, expr, rfl, rfl⟩
  | list element nullable ih => exact ih

/-- The property of a name that an analysed type expression with a base type has. -/
def Analysis.property (analysis : Analysis) (defaults : Defaults) (name : String)
    (baseType : BaseType) : Property where
  name := name
  baseType := baseType
  nullable := analysis.nullable
  defaultNullable := defaults.nullableFor baseType
  mandatory := analysis.mandatory

/-- Reading a supported type expression expands its core. -/
theorem Property.read_of_core {expr : TypeExpr} {analysis : Analysis} {core : Core}
    (taken : expr.analyze = .ok analysis) (peeled : analysis.core = .ok core)
    (expansion : Expansion) (defaults : Defaults) (name : String) :
    Property.read expansion defaults name expr =
      (core.expand expansion defaults).map (analysis.property defaults name) := by
  rw [Property.read, taken]
  change (do
    let core ← analysis.core
    let baseType ← core.expand expansion defaults
    return analysis.property defaults name baseType) = _
  rw [peeled]
  change (do
    let baseType ← core.expand expansion defaults
    return analysis.property defaults name baseType) = _
  cases core.expand expansion defaults <;> rfl

/-- Reading a type expression that cannot be analysed is refused for what the analysis is. -/
theorem Property.read_of_analyze_error {expr : TypeExpr} {fault : Fault}
    (refused : expr.analyze = .error fault) (expansion : Expansion) (defaults : Defaults)
    (name : String) : Property.read expansion defaults name expr = .error fault := by
  rw [Property.read, refused]
  rfl

/-- Reading a type expression that cannot be peeled is refused for what the peeling is. -/
theorem Property.read_of_core_error {expr : TypeExpr} {analysis : Analysis} {fault : Fault}
    (taken : expr.analyze = .ok analysis) (refused : analysis.core = .error fault)
    (expansion : Expansion) (defaults : Defaults) (name : String) :
    Property.read expansion defaults name expr = .error fault := by
  rw [Property.read, taken]
  change (analysis.core >>= _) = _
  rw [refused]
  rfl

/-- What reading a type expression can do. It is refused for a fault of its own, or it ends in a
    primitive and gives one property, or it ends in a reference and gives what the expansion of that
    reference decides. -/
theorem Property.read_cases (defaults : Defaults) (name : String) (expr : TypeExpr) :
    (∃ fault, fault.isOfExpr = true ∧ (∀ ending, ¬expr.EndsIn ending) ∧
      ∀ expansion, Property.read expansion defaults name expr = .error fault) ∨
    (∃ primitive property, expr.EndsIn (.scalar primitive) ∧
      ∀ expansion, Property.read expansion defaults name expr = .ok property) ∨
    ∃ target inner fill, expr.EndsIn (.reference target) ∧
      ∀ expansion, Property.read expansion defaults name expr =
        (expansion target inner).map fill := by
  cases taken : expr.analyze with
  | error fault =>
      refine .inl ⟨fault, TypeExpr.isOfExpr_of_analyze taken, ?_, ?_⟩
      · intro ending ends
        obtain ⟨analysis, core, again, _⟩ := ends.core
        rw [taken] at again
        cases again
      · intro expansion
        exact Property.read_of_analyze_error taken expansion defaults name
  | ok analysis =>
      cases peeled : analysis.core with
      | error fault =>
          refine .inl ⟨fault, Analysis.isOfExpr_of_core peeled, ?_, ?_⟩
          · intro ending ends
            obtain ⟨other, core, again, same, _⟩ := ends.core
            rw [taken] at again
            cases again
            rw [peeled] at same
            cases same
          · intro expansion
            exact Property.read_of_core_error taken peeled expansion defaults name
      | ok core =>
          have ends := Analysis.endsIn_of_core taken peeled
          rcases core.ending_eq with ⟨primitive, plain, ending⟩ | ⟨target, inner, found, ending⟩
          · rw [ending] at ends
            refine .inr (.inl ⟨primitive, analysis.property defaults name (core.fill defaults []),
              ends, ?_⟩)
            intro expansion
            rw [Property.read_of_core taken peeled, Core.expand_eq, plain]
            rfl
          · rw [ending] at ends
            refine .inr (.inr ⟨target, inner,
              fun properties => analysis.property defaults name (core.fill defaults properties),
              ends, ?_⟩)
            intro expansion
            rw [Property.read_of_core taken peeled, Core.expand_eq, found]
            dsimp only
            cases expansion target inner <;> rfl

/-- A property can be read exactly when its type expression ends in a primitive, or in a reference
    for which the expansion has an answer. -/
theorem Property.isOk_read_iff {expansion : Expansion} {answered : ClassRef → Prop}
    (answers : ∀ target inner, (expansion target inner).isOk = true ↔ answered target)
    (defaults : Defaults) (name : String) (expr : TypeExpr) :
    (Property.read expansion defaults name expr).isOk = true ↔
      (∃ primitive, expr.EndsIn (.scalar primitive)) ∨
        ∃ target, expr.EndsIn (.reference target) ∧ answered target := by
  rcases Property.read_cases defaults name expr with
    ⟨fault, _, endless, read⟩ | ⟨primitive, property, ends, read⟩ |
    ⟨target, inner, fill, ends, read⟩
  · rw [read]
    constructor
    · intro ok
      cases ok
    · intro supported
      rcases supported with ⟨primitive, ends⟩ | ⟨target, ends, _⟩
      · exact absurd ends (endless _)
      · exact absurd ends (endless _)
  · rw [read]
    exact ⟨fun _ => .inl ⟨primitive, ends⟩, fun _ => rfl⟩
  · have same : ((expansion target inner).map fill).isOk = (expansion target inner).isOk := by
      cases expansion target inner <;> rfl
    rw [read, same, answers]
    constructor
    · exact fun answered => .inr ⟨target, ends, answered⟩
    · intro supported
      rcases supported with ⟨primitive, other⟩ | ⟨other, otherEnds, answered⟩
      · cases ends.unique other
      · cases ends.unique otherEnds
        exact answered

end SchemaProjection
