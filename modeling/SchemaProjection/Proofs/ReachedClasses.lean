/-
Module: SchemaProjection.Proofs.ReachedClasses
Purpose: What a build depends on. Of a whole table, building a class looks at that class and at the
  classes that visible references lead to from it, and of each of these at its fields with what they
  remember, at its own annotations and at its own declaration. Tables that agree on these build the
  same container or refuse for the same fault, and changes that are about other classes, be it a
  base, a subclass or a class behind a hidden field, are without effect.
Imports: SchemaProjection.Proofs.TableChanges, SchemaProjection.Proofs.ModelConstruction
Main exports: ClassEntry.ReadsLike, ClassTable.AgreesAt, ClassTable.readClass_eq_of_agreesAt,
  ClassTable.build_relies_on_reached
-/
import SchemaProjection.Proofs.TableChanges
import SchemaProjection.Proofs.ModelConstruction

namespace SchemaProjection

open Relation (ReflTransGen)

/-- A class reads like another: both are record classes or neither is, and they have the same fields
    with what these remember, the same own annotations and the same declaration. -/
structure ClassEntry.ReadsLike (entry other : ClassEntry) : Prop where
  isRecord : entry.isRecord = other.isRecord
  fields : entry.fields = other.fields
  own : entry.own = other.own
  declaration : entry.declaration = other.declaration

/-- A class reads like itself. -/
theorem ClassEntry.ReadsLike.refl (entry : ClassEntry) : entry.ReadsLike entry :=
  ⟨rfl, rfl, rfl, rfl⟩

/-- Classes that read alike have the same fields by the same type expressions. -/
theorem ClassEntry.ReadsLike.currentFields {entry other : ClassEntry}
    (alike : entry.ReadsLike other) : entry.currentFields = other.currentFields := by
  have current : entry.currentExpr = other.currentExpr := by
    funext field
    rw [currentExpr, currentExpr, alike.own]
  rw [ClassEntry.currentFields, ClassEntry.currentFields, alike.fields, current]

namespace ClassTable

/-- Two tables agree on a class when neither has it, or both have it and it reads alike. -/
def AgreesAt (table other : ClassTable) (id : Nat) : Prop :=
  Option.Rel ClassEntry.ReadsLike table.classes[id]? other.classes[id]?

/-- Tables with the same entry of a class agree on it. -/
theorem agreesAt_of_eq {table other : ClassTable} {id : Nat}
    (same : other.classes[id]? = table.classes[id]?) : table.AgreesAt other id := by
  rw [AgreesAt, same]
  cases table.classes[id]? with
  | none => exact .none
  | some entry => exact .some (.refl entry)

section

variable {table other : ClassTable}

/-- A class on which two tables agree has the same visible fields in both. -/
theorem visibleFields_eq_of_agreesAt {id : Nat} (agree : table.AgreesAt other id) :
    table.visibleFields id = other.visibleFields id := by
  rw [AgreesAt] at agree
  rw [visibleFields, visibleFields]
  generalize table.classes[id]? = entry, other.classes[id]? = another at agree ⊢
  cases agree with
  | none => rfl
  | some alike =>
      rw [Option.map_some, Option.map_some, alike.currentFields]

/-- A reference to a class on which two tables agree is decided alike. -/
theorem checkReference_eq_of_agreesAt {target : ClassRef} (agree : table.AgreesAt other target.id)
    (reading : List Nat) (expr : TypeExpr) :
    table.checkReference reading target expr = other.checkReference reading target expr := by
  rw [AgreesAt] at agree
  rw [checkReference, checkReference, find?, find?]
  generalize table.classes[target.id]? = entry, other.classes[target.id]? = another at agree ⊢
  cases agree with
  | none => rfl
  | some alike =>
      dsimp only
      rw [alike.declaration, alike.isRecord]

/-- A class on which two tables agree carries the same declaration in both. -/
theorem declaration_eq_of_agreesAt {target : ClassRef} (agree : table.AgreesAt other target.id) :
    (table.find? target).bind ClassEntry.declaration =
      (other.find? target).bind ClassEntry.declaration := by
  rw [AgreesAt] at agree
  rw [find?, find?]
  generalize table.classes[target.id]? = entry, other.classes[target.id]? = another at agree ⊢
  cases agree with
  | none => rfl
  | some alike => exact alike.declaration

/-!
### Reading in two tables
-/

/-- A reference is expanded alike in two tables that agree on its class, if reading that class gives
    the same in both whenever the reference is admitted. -/
theorem readReference_eq_of_agreesAt {defaults : Defaults} {reading : List Nat}
    {target : ClassRef} (agree : table.AgreesAt other target.id)
    (behind : table.Inlinable target.id → target.id ∉ reading →
      table.readClass defaults reading target = other.readClass defaults reading target)
    (expr : TypeExpr) :
    table.readReference defaults reading target expr =
      other.readReference defaults reading target expr := by
  rw [readReference_eq, readReference_eq, ← checkReference_eq_of_agreesAt agree]
  exact checkReference_bind_congr behind

/-- A class is read alike in two tables that agree on it and on every class that it reaches. -/
theorem readClass_eq_of_agreesAt (defaults : Defaults) (reading : List Nat) (target : ClassRef)
    (agree : ∀ id, ReflTransGen table.Refers target.id id → table.AgreesAt other id) :
    table.readClass defaults reading target = other.readClass defaults reading target := by
  induction reading, target using reading_induction table with
  | step reading target ih =>
      rw [readClass_eq, readClass_eq, ← visibleFields_eq_of_agreesAt (agree target.id .refl)]
      apply mapM_congr
      intro field mem
      rcases Property.read_cases defaults field.1 field.2 with
        ⟨fault, _, _, read⟩ | ⟨_, property, _, read⟩ | ⟨reference, inner, fill, ends, read⟩
      · exact (read _).trans (read _).symm
      · exact (read _).trans (read _).symm
      · have refers : table.Refers target.id reference.id := ⟨field, mem, reference, ends, rfl⟩
        have onward : ∀ id, ReflTransGen table.Refers reference.id id → table.AgreesAt other id :=
          fun id path => agree id (.head refers path)
        have behind : table.Inlinable reference.id → reference.id ∉ target.id :: reading →
            table.readClass defaults (target.id :: reading) reference =
              other.readClass defaults (target.id :: reading) reference :=
          fun inlinable fresh => ih reference inlinable fresh onward
        have expanded := readReference_eq_of_agreesAt (onward reference.id .refl) behind inner
        rw [read, read, expanded]

/-- A class is built alike in two tables that agree on it and on every class that it reaches. -/
theorem build_eq_of_agreesAt (defaults : Defaults) {target : ClassRef}
    (agree : ∀ id, ReflTransGen table.Refers target.id id → table.AgreesAt other id) :
    table.build defaults (.class target) = other.build defaults (.class target) := by
  have itself := agree target.id .refl
  rw [build_class_eq, build_class_eq, declaration_eq_of_agreesAt itself,
    readClass_eq_of_agreesAt defaults [] target agree]

end

/-!
### What a build relies on
-/

/-- A build relies on the classes that are reached from the class that is built, and on nothing
    else. Another table that agrees on them builds the same container or refuses for the same fault.
    So after changes that are about none of them the class has the container, the model and the text
    that it had before, under all defaults and options. -/
theorem build_relies_on_reached (table : ClassTable) (target : ClassRef) :
    (∀ other, (∀ id, ReflTransGen table.Refers target.id id → table.AgreesAt other id) →
      ∀ defaults,
        other.build defaults (.class target) = table.build defaults (.class target)) ∧
    ∀ changes, table.Spares (ReflTransGen table.Refers target.id) changes →
      ∀ defaults options,
        (table.after changes).build defaults (.class target) =
          table.build defaults (.class target) ∧
        Model.build (table.after changes) options defaults [.subject (.class target)] =
          Model.build table options defaults [.subject (.class target)] ∧
        (Model.build (table.after changes) options defaults
            [.subject (.class target)]).outcome.bind Model.render =
          (Model.build table options defaults [.subject (.class target)]).outcome.bind
            Model.render := by
  have agreed : ∀ other,
      (∀ id, ReflTransGen table.Refers target.id id → table.AgreesAt other id) →
        ∀ defaults, other.build defaults (.class target) = table.build defaults (.class target) :=
    fun other agree defaults => (build_eq_of_agreesAt defaults agree).symm
  refine ⟨agreed, ?_⟩
  intro changes spares defaults options
  have built : (table.after changes).build defaults (.class target) =
      table.build defaults (.class target) := by
    apply agreed
    intro id reached
    exact agreesAt_of_eq (getElem?_after_of_spares spares reached)
  have modelled : Model.build (table.after changes) options defaults [.subject (.class target)] =
      Model.build table options defaults [.subject (.class target)] :=
    Model.build_congr table (table.after changes) options defaults (.cons built .nil)
  exact ⟨built, modelled, by rw [modelled]⟩

/-- A declared point is built as before after its base was annotated anew with something that cannot
    be read, a subclass of it was made, and the class behind its hidden field was declared. -/
theorem point_built_as_before :
    let scope : Scope := ⟨"shapes", []⟩
    let base : ClassRef := ⟨0, "Base", "shapes"⟩
    let secret : ClassRef := ⟨1, "Secret", "shapes"⟩
    let point : ClassRef := ⟨2, "Point", "shapes"⟩
    let bases := (ClassTable.empty.define scope "Base" [] true [("id", .builtin .integer)]).2
    let secrets := (bases.define scope "Secret" [] true [("key", .builtin .string)]).2
    let points := (secrets.define scope "Point" [base] true
      [("x", .builtin .real), ("_secret", .reference secret)]).2
    let table := points.withDeclaration point ⟨.type, "Point", none⟩
    let changes : List Change :=
      [.reannotate base [("id", .builtin .bytes)],
        .define scope "Pixel" [point] true [("x", .builtin .integer)],
        .declare (.class secret) .entity none none]
    (table.build {} (.class point)).isOk = true ∧
      table.Spares (ReflTransGen table.Refers point.id) changes ∧
      (table.after changes).build {} (.class point) = table.build {} (.class point) := by
  intro scope base secret point bases secrets points table changes
  have fields : (table.classes[point.id]?).map ClassEntry.currentFields =
      some [("id", .builtin .integer), ("x", .builtin .real), ("_secret", .reference secret)] := by
    simp only [table, points, secrets, bases, point, secret, base, scope]
    rfl
  have scalars : ∀ field ∈ table.visibleFields point.id,
      ∃ primitive, field.2.EndsIn (.scalar primitive) := by
    intro field mem
    rw [visibleFields, fields, Option.getD_some] at mem
    obtain ⟨among, visible⟩ := List.mem_filter.1 mem
    simp only [List.mem_cons, List.not_mem_nil, or_false] at among
    rcases among with rfl | rfl | rfl
    · exact ⟨"number", .scalar rfl rfl rfl⟩
    · exact ⟨"number", .scalar rfl rfl rfl⟩
    · simp [isVisibleField, isHiddenField] at visible
  have built : (table.build {} (.class point)).isOk = true := by
    have read := (isOk_readClass_iff table {} [] point).2 (expands_of_scalars scalars [])
    have declared : (table.find? point).bind ClassEntry.declaration =
        some ⟨.type, "Point", none⟩ := rfl
    rw [build_class_eq, declared]
    cases result : table.readClass {} [] point with
    | error fault =>
        rw [result] at read
        cases read
    | ok properties => rfl
  have alone : ∀ id, ReflTransGen table.Refers point.id id → id = 2 := by
    intro id reached
    rcases ReflTransGen.cases_head reached with same | ⟨next, refers, _⟩
    · exact same.symm
    · exact absurd refers (not_refers_of_scalars scalars next)
  have spares : table.Spares (ReflTransGen table.Refers point.id) changes := by
    refine ⟨?_, ?_, ?_, trivial⟩
    · intro id reached same
      rw [alone id reached] at same
      cases same
    · intro id reached same
      rw [alone id reached] at same
      cases same
    · intro id reached same
      rw [alone id reached] at same
      cases same
  exact ⟨built, spares, ((build_relies_on_reached table point).2 changes spares {} {}).1⟩

end ClassTable

end SchemaProjection
