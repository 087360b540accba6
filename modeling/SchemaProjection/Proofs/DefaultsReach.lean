/-
Module: SchemaProjection.Proofs.DefaultsReach
Purpose: Two readings under two records of defaults, side by side. They are refused alike, since no
  refusal asks for the defaults; and when they succeed, each of the results has everywhere what the
  type expressions and its own defaults ask for, so that they differ in default nullability, and in
  the elements for which nothing is stated about null. What states something is projected with the
  same marks from both.
Imports: SchemaProjection.Proofs.DeclaringClasses, SchemaProjection.Proofs.Origins
Main exports: KeptByReading, ClassTable.endAlike_readClass_of_kept, Origin.Alike,
  Origin.Fits.alike, Spot.SameMarks, AlikeFrom, ClassTable.defaults_reach_only_unstated
-/
import SchemaProjection.Proofs.DeclaringClasses
import SchemaProjection.Proofs.Origins

namespace SchemaProjection

/-!
### Two readings side by side

Nothing that is refused is refused for its defaults. So two readings are refused together, and when
they succeed, what holds of every two properties that were filled in alike holds of their results.
-/

/-- Relations of properties, and of lists of them, that reading keeps under two records of defaults:
    the lists are related one by one, and a core that is filled in with related lists gives related
    properties. -/
structure KeptByReading (one two : Defaults) (related : Property → Property → Prop)
    (each : List Property → List Property → Prop) : Prop where
  nil : each [] []
  cons {property other : Property} {properties others : List Property}
    (first : related property other) (later : each properties others) :
    each (property :: properties) (other :: others)
  fill {properties others : List Property} (inside : each properties others)
    (analysis : Analysis) (core : Core) (name : String) :
    related (analysis.property one name (core.fill one properties))
      (analysis.property two name (core.fill two others))

/-- Reading keeps the relations that hold of all. -/
theorem KeptByReading.always (one two : Defaults) :
    KeptByReading one two (fun _ _ => True) (fun _ _ => True) where
  nil := trivial
  cons _ _ := trivial
  fill _ _ _ _ := trivial

section

variable {one two : Defaults} {related : Property → Property → Prop}
  {each : List Property → List Property → Prop}

/-- Reading a type expression under two defaults ends alike when references do. -/
theorem Property.endAlike_read (kept : KeptByReading one two related each)
    {expansion other : Expansion}
    (alike : ∀ target inner, EndAlike each (expansion target inner) (other target inner))
    (name : String) (expr : TypeExpr) :
    EndAlike related (Property.read expansion one name expr)
      (Property.read other two name expr) := by
  cases taken : expr.analyze with
  | error fault =>
      rw [Property.read_of_analyze_error taken, Property.read_of_analyze_error taken]
      exact .refused fault
  | ok analysis =>
      cases peeled : analysis.core with
      | error fault =>
          rw [Property.read_of_core_error taken peeled, Property.read_of_core_error taken peeled]
          exact .refused fault
      | ok core =>
          rw [Property.read_of_core taken peeled, Property.read_of_core taken peeled,
            Core.expand_eq, Core.expand_eq]
          cases core.reference? with
          | none => exact .done (kept.fill kept.nil analysis core name)
          | some found =>
              obtain ⟨target, inner⟩ := found
              dsimp only
              have answers := alike target inner
              generalize expansion target inner = first at answers ⊢
              generalize other target inner = second at answers ⊢
              cases answers with
              | refused fault => exact .refused fault
              | done inside => exact .done (kept.fill inside analysis core name)

namespace ClassTable

variable (table : ClassTable)

/-- A reference ends alike under two defaults, if the class behind it does whenever the reference is
    admitted. -/
theorem endAlike_readReference {reading : List Nat} {target : ClassRef}
    (alike : table.Inlinable target.id → target.id ∉ reading →
      EndAlike each (table.readClass one reading target) (table.readClass two reading target))
    (expr : TypeExpr) :
    EndAlike each (table.readReference one reading target expr)
      (table.readReference two reading target expr) := by
  rw [readReference_eq, readReference_eq]
  rcases table.checkReference_cases reading target expr with
    ⟨inlinable, fresh, admitted⟩ | ⟨_, _, again⟩ | ⟨_, fault, _, refused⟩
  · rw [admitted]
    exact alike inlinable fresh
  · rw [again]
    exact .refused _
  · rw [refused]
    exact .refused fault

/-- A class that is read under two defaults ends alike, with properties in every relation that
    reading keeps. -/
theorem endAlike_readClass_of_kept (kept : KeptByReading one two related each)
    (reading : List Nat) (target : ClassRef) :
    EndAlike each (table.readClass one reading target) (table.readClass two reading target) := by
  induction reading, target using reading_induction table with
  | step reading target ih =>
      rw [readClass_eq, readClass_eq]
      apply endAlike_mapM kept.nil kept.cons
      intro field _
      apply Property.endAlike_read kept
      intro inner expr
      exact table.endAlike_readReference (ih inner) expr

end ClassTable

end

namespace ClassTable

variable (table : ClassTable) (one two : Defaults)

/-- A class is refused alike under two defaults. -/
theorem refusedAlike_readClass (reading : List Nat) (target : ClassRef) :
    RefusedAlike (table.readClass one reading target) (table.readClass two reading target) := by
  have alike := table.endAlike_readClass_of_kept (KeptByReading.always one two) reading target
  exact alike.refusedAlike

/-- A property is refused alike under two defaults. -/
theorem refusedAlike_readProperty (name : String) (expr : TypeExpr) :
    RefusedAlike (table.readProperty one name expr) (table.readProperty two name expr) := by
  have kept := KeptByReading.always one two
  have inside : ∀ target inner, EndAlike (fun _ _ => True)
      (table.readReference one [] target inner) (table.readReference two [] target inner) := by
    intro target inner
    apply table.endAlike_readReference
    intro _ _
    exact table.endAlike_readClass_of_kept kept [] target
  exact (Property.endAlike_read kept inside name expr).refusedAlike

end ClassTable

/-!
### What two results share
-/

/-- Two base types have the same outermost form: the same primitive, two arrays, or two structures
    with the same names in order. -/
def BaseType.Resembles : BaseType → BaseType → Prop
  | .scalar primitive, .scalar other => primitive = other
  | .array _ _, .array _ _ => True
  | .struct properties, .struct others =>
      properties.map Property.name = others.map Property.name
  | _, _ => False

/-- Two sites that come from one origin agree except in what is left to the defaults: in the default
    nullability of a property, and in that of an element for which nothing is stated. What lies
    below them is compared one step further on. -/
def Origin.Alike (origin : Origin) : Site → Site → Prop
  | .root properties, .root others => properties.map Property.name = others.map Property.name
  | .ofProperty property, .ofProperty other =>
      property.name = other.name ∧ property.nullable = other.nullable ∧
        property.mandatory = other.mandatory ∧ property.baseType.Resembles other.baseType
  | .ofElement type nullable, .ofElement other otherNullable =>
      type.Resembles other ∧ (origin.StatesNull → nullable = otherNullable)
  | _, _ => False

section

variable {table : ClassTable} {one two : Defaults}

/-- Base types of the form that one type expression asks for have the same form. -/
theorem Analysis.Shapes.resembles {analysis : Analysis} {type other : BaseType}
    (shapes : analysis.Shapes table type) (again : analysis.Shapes table other) :
    type.Resembles other := by
  -- different forms need different things to be left in the analysis
  match type, other, shapes, again with
  | .scalar primitive, .scalar _, ⟨_, inner, known⟩, ⟨_, otherInner, otherKnown⟩ =>
      cases inner.symm.trans otherInner
      exact Option.some.inj (known.symm.trans otherKnown)
  | .array _ _, .array _ _, _, _ => exact trivial
  | .struct _, .struct _, ⟨_, inner, names⟩, ⟨_, otherInner, otherNames⟩ =>
      cases inner.symm.trans otherInner
      exact names.trans otherNames.symm
  | .scalar _, .array _ _, ⟨_, inner, _⟩, ⟨_, _, _, otherInner⟩
  | .scalar _, .struct _, ⟨_, inner, _⟩, ⟨_, otherInner, _⟩
  | .array _ _, .scalar _, ⟨_, _, _, inner⟩, ⟨_, otherInner, _⟩
  | .array _ _, .struct _, ⟨_, _, _, inner⟩, ⟨_, otherInner, _⟩
  | .struct _, .scalar _, ⟨_, inner, _⟩, ⟨_, otherInner, _⟩
  | .struct _, .array _ _, ⟨_, inner, _⟩, ⟨_, _, _, otherInner⟩ =>
      cases inner.symm.trans otherInner

/-- Sites that fit one origin under two defaults agree in what is not left to the defaults. -/
theorem Origin.Fits.alike {origin : Origin} {site other : Site}
    (fits : origin.Fits table one site) (again : origin.Fits table two other) :
    origin.Alike site other := by
  match origin, site, fits with
  | .root fields, .root properties, names =>
      match other, again with
      | .root others, otherNames => exact names.trans otherNames.symm
  | .ofField name expr, .ofProperty property, ⟨analysis, fits⟩ =>
      match other, again with
      | .ofProperty other, ⟨otherAnalysis, again⟩ =>
          cases fits.taken.symm.trans again.taken
          exact ⟨fits.name.trans again.name.symm, fits.nullable.trans again.nullable.symm,
            fits.mandatory.trans again.mandatory.symm, fits.shapes.resembles again.shapes⟩
  | .ofElement expr, .ofElement type nullable, ⟨analysis, taken, shapes, stated, _⟩ =>
      match other, again with
      | .ofElement other otherNullable, ⟨_, otherTaken, otherShapes, otherStated, _⟩ =>
          cases taken.symm.trans otherTaken
          refine ⟨shapes.resembles otherShapes, ?_⟩
          intro states
          exact Option.some.inj ((stated states).symm.trans (otherStated states))

end

/-!
### What two projections share
-/

/-- What a site projects to under a kind, if its projection is not refused. -/
def Site.project (kind : Kind) (options : Options) : Site → Except Fault Spot
  | .root properties => (Property.projectList kind options properties).outcome.map .root
  | .ofProperty property => (property.project kind options).outcome.map .ofMember
  | .ofElement type nullable => do
      let node ← (type.project kind options).outcome
      (if nullable then node.orNull else .ok node).map .ofElement

/-- Every site projects to its image. -/
theorem Site.project_eq (kind : Kind) (options : Options) (site : Site) :
    site.project kind options = .ok (site.image kind options) := by
  cases site with
  | root properties =>
      rw [Site.project, Property.outcome_projectList]
      rfl
  | ofProperty property =>
      rw [Site.project, Property.outcome_project]
      rfl
  | ofElement type nullable =>
      rw [Site.project, BaseType.outcome_project]
      cases nullable with
      | false => rfl
      | true =>
          change (type.node kind options).orNull.map _ = _
          rw [BaseType.orNull_node]
          rfl

/-- Two members are optional alike, and two members or elements have a null union of their own
    alike. -/
def Spot.SameMarks : Spot → Spot → Prop
  | .ofMember member, .ofMember other =>
      member.optional = other.optional ∧ member.type.isNullable [] = other.type.isNullable []
  | .ofElement node, .ofElement other => node.isNullable [] = other.isNullable []
  | _, _ => False

/-- Base types of one form are arrays alike. -/
theorem BaseType.Resembles.isArray {type other : BaseType} (resembles : type.Resembles other) :
    type.isArray = other.isArray := by
  match type, other, resembles with
  | .scalar _, .scalar _, _ => rfl
  | .array _ _, .array _ _, _ => rfl
  | .struct _, .struct _, _ => rfl

section

variable {table : ClassTable} {one two : Defaults}

/-- Sites that fit one origin under two defaults project with the same marks when the origin states
    something about null. -/
theorem Origin.Fits.sameMarks {origin : Origin} {site other : Site}
    (fits : origin.Fits table one site) (again : origin.Fits table two other)
    (states : origin.StatesNull) (kind : Kind) (options : Options) :
    (site.image kind options).SameMarks (other.image kind options) := by
  have alike := fits.alike again
  match origin, site, fits with
  | .root _, _, _ => exact states.elim
  | .ofField name expr, .ofProperty property, ⟨analysis, fits⟩ =>
      cases other with
      | root others => exact alike.elim
      | ofElement other otherNullable => exact alike.elim
      | ofProperty other =>
          obtain ⟨_, nullable, mandatory, resembles⟩ := alike
          obtain ⟨flag, known⟩ := Option.isSome_iff_exists.1 (fits.stated.2 states)
          have facts : property.facts = other.facts := by
            simp only [Property.facts, Property.resolvedNullable, ← nullable, known, mandatory,
              resembles.isArray, Option.getD_some]
          constructor
          · rw [Property.optional_member, Property.optional_member, facts]
          · rw [Property.type_member, Property.type_member, BaseType.isNullable_withNull_node,
              BaseType.isNullable_withNull_node, facts]
  | .ofElement expr, .ofElement type nullable, _ =>
      cases other with
      | root others => exact alike.elim
      | ofProperty other => exact alike.elim
      | ofElement other otherNullable =>
          change ((type.node kind options).withNull nullable).isNullable [] =
            ((other.node kind options).withNull otherNullable).isNullable []
          rw [BaseType.isNullable_withNull_node, BaseType.isNullable_withNull_node]
          exact alike.2 states

/-!
### Along every path
-/

/-- Two sites come from one origin under two defaults. Along every path each of them has what the
    type expressions and its own defaults ask for; they agree in all that is not left to the
    defaults; and whatever states something about null is projected with the same marks, under every
    kind and all options. -/
structure AlikeFrom (table : ClassTable) (one two : Defaults) (origin : Origin)
    (site other : Site) : Prop where
  fits : ∀ path, Option.Rel (Origin.Fits table one) (origin.at? table path) (site.at? path)
  otherFits : ∀ path, Option.Rel (Origin.Fits table two) (origin.at? table path) (other.at? path)
  alike : ∀ path source, origin.at? table path = some source →
    Option.Rel source.Alike (site.at? path) (other.at? path)
  sameMarks : ∀ kind options, ∃ spot otherSpot, site.project kind options = .ok spot ∧
    other.project kind options = .ok otherSpot ∧
    ∀ path source, origin.at? table path = some source → source.StatesNull →
      Option.Rel Spot.SameMarks (spot.at? path) (otherSpot.at? path)

/-- What was read from one origin under two defaults is alike. -/
theorem Origin.Reads.alikeFrom {origin : Origin} {site other : Site}
    (reads : origin.Reads table one site) (again : origin.Reads table two other) :
    AlikeFrom table one two origin site other where
  fits path := optionRel_mono (reads.at? path) fun _ _ => Origin.Reads.fits
  otherFits path := optionRel_mono (again.at? path) fun _ _ => Origin.Reads.fits
  alike path source reached := by
    obtain ⟨place, found, readsPlace⟩ := reads.exists_at? reached
    obtain ⟨otherPlace, otherFound, againPlace⟩ := again.exists_at? reached
    rw [found, otherFound]
    exact .some (readsPlace.fits.alike againPlace.fits)
  sameMarks kind options := by
    refine ⟨site.image kind options, other.image kind options, site.project_eq kind options,
      other.project_eq kind options, ?_⟩
    intro path source reached states
    obtain ⟨place, found, readsPlace⟩ := reads.exists_at? reached
    obtain ⟨otherPlace, otherFound, againPlace⟩ := again.exists_at? reached
    rw [Site.at?_image, Site.at?_image, found, otherFound]
    exact .some (readsPlace.fits.sameMarks againPlace.fits states kind options)

end

namespace ClassTable

variable (table : ClassTable) (one two : Defaults)

/-- Two readings of a class end alike. -/
theorem endAlike_readClass (reading : List Nat) (target : ClassRef) :
    EndAlike
      (fun properties others => AlikeFrom table one two (.root (table.visibleFields target.id))
        (.root properties) (.root others))
      (table.readClass one reading target) (table.readClass two reading target) := by
  apply (table.refusedAlike_readClass one two reading target).endAlike
  intro properties others read again
  exact Origin.Reads.alikeFrom (readsField_of_readClass read) (readsField_of_readClass again)

/-- Two readings of a type expression as a property end alike. -/
theorem endAlike_readProperty (name : String) (expr : TypeExpr) :
    EndAlike
      (fun property other => AlikeFrom table one two (.ofField name expr)
        (.ofProperty property) (.ofProperty other))
      (table.readProperty one name expr) (table.readProperty two name expr) := by
  apply (table.refusedAlike_readProperty one two name expr).endAlike
  intro property other read again
  exact Origin.Reads.alikeFrom (readsField_of_read read) (readsField_of_read again)

/-- Two containers of a subject are headed alike and have properties from one class. -/
def ContainersAlike (subject : Subject) (container other : Container) : Prop :=
  container.name = other.name ∧ container.kind = other.kind ∧
    container.description = other.description ∧
    ∃ target, subject = .class target ∧
      AlikeFrom table one two (.root (table.visibleFields target.id))
        (.root container.properties) (.root other.properties)

/-- Two builds of a subject end alike. -/
theorem endAlike_build (subject : Subject) :
    EndAlike (table.ContainersAlike one two subject)
      (table.build one subject) (table.build two subject) := by
  cases subject with
  | datum value => exact .refused _
  | «class» target =>
      rw [build_class_eq, build_class_eq]
      cases (table.find? target).bind ClassEntry.declaration with
      | none => exact .refused _
      | some own =>
          apply (table.endAlike_readClass one two [] target).map
          intro properties others alike
          exact ⟨rfl, rfl, rfl, target, rfl, alike⟩

/-- Defaults reach only what states nothing about null. Reading a class, building a container and
    reading a property end alike under two records of defaults, with the same fault or with results
    that agree along every path except in what is left to the defaults; there each result has the
    flag of its own defaults. What states something about null is projected with the same marks. -/
theorem defaults_reach_only_unstated :
    (∀ reading target, EndAlike
      (fun properties others => AlikeFrom table one two (.root (table.visibleFields target.id))
        (.root properties) (.root others))
      (table.readClass one reading target) (table.readClass two reading target)) ∧
    (∀ subject, EndAlike (table.ContainersAlike one two subject)
      (table.build one subject) (table.build two subject)) ∧
    ∀ name expr, EndAlike
      (fun property other => AlikeFrom table one two (.ofField name expr)
        (.ofProperty property) (.ofProperty other))
      (table.readProperty one name expr) (table.readProperty two name expr) :=
  ⟨table.endAlike_readClass one two, table.endAlike_build one two,
    table.endAlike_readProperty one two⟩

end ClassTable

end SchemaProjection
