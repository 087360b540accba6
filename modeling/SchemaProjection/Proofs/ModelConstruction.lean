/-
Module: SchemaProjection.Proofs.ModelConstruction
Purpose: Making a model of some sources. The construction is refused at the first source that cannot
  be built or brings a name that was taken before, and then nothing is on record; otherwise the
  model has the containers of the sources in order, under names that differ, and answers each name
  with the projection of its one container. What a model answers does not depend on the order of its
  sources, and a source counts for the container that it builds and for nothing else.
Imports: SchemaProjection.Model, SchemaProjection.Proofs.ProjectedForm,
  SchemaProjection.Proofs.Refusals, Mathlib.Data.List.Nodup, Mathlib.Data.List.Perm.Basic,
  Mathlib.Data.Nat.Find
Main exports: Source.RefusedAt, Source.FirstRefused, Source.collect_eq_error_iff,
  Source.collect_eq_ok_iff, Model.build_eq, Model.interface_of_mem, Model.Serves,
  model_construction
-/
import SchemaProjection.Model
import SchemaProjection.Proofs.ProjectedForm
import SchemaProjection.Proofs.Refusals
import Mathlib.Data.List.Nodup
import Mathlib.Data.List.Perm.Basic
import Mathlib.Data.Nat.Find

namespace SchemaProjection

namespace Source

/-!
### Where sources are refused
-/

/-- A name is taken: it is among the names given, or one of some earlier sources brings it. -/
def IsTaken (table : ClassTable) (defaults : Defaults) (taken : List String)
    (earlier : List Source) (name : String) : Prop :=
  name ∈ taken ∨ ∃ source ∈ earlier, ∃ container,
    source.build table defaults = .ok container ∧ container.name = name

/-- One of some sources is refused at its index for a fault: it cannot be built, and the fault is
    the one of its build, or it brings a name that is taken, and the fault says so. -/
def RefusedAt (table : ClassTable) (defaults : Defaults) (taken : List String)
    (sources : List Source) (index : Nat) (fault : Fault) : Prop :=
  ∃ source, sources[index]? = some source ∧
    (source.build table defaults = .error fault ∨
      ∃ container, source.build table defaults = .ok container ∧
        IsTaken table defaults taken (sources.take index) container.name ∧
        fault = .duplicateContainer container.name)

/-- The first source that is refused at all is refused for a fault. -/
def FirstRefused (table : ClassTable) (defaults : Defaults) (taken : List String)
    (sources : List Source) (fault : Fault) : Prop :=
  ∃ index, RefusedAt table defaults taken sources index fault ∧
    ∀ earlier < index, ∀ other, ¬RefusedAt table defaults taken sources earlier other

variable {table : ClassTable} {defaults : Defaults} {taken : List String} {source : Source}
  {sources : List Source} {container : Container} {fault : Fault}

/-- The first source is refused when it cannot be built or brings one of the names given. -/
theorem refusedAt_zero :
    RefusedAt table defaults taken (source :: sources) 0 fault ↔
      source.build table defaults = .error fault ∨
        ∃ container, source.build table defaults = .ok container ∧ container.name ∈ taken ∧
          fault = .duplicateContainer container.name := by
  simp [RefusedAt, IsTaken]

/-- Behind a source that was built, the name of its container is one of those taken. -/
theorem isTaken_cons (built : source.build table defaults = .ok container) (name : String) :
    IsTaken table defaults taken (source :: sources) name ↔
      IsTaken table defaults (container.name :: taken) sources name := by
  simp only [IsTaken, List.mem_cons, exists_eq_or_imp, built, Except.ok.injEq, exists_eq_left']
  constructor
  · rintro (given | own | later)
    · exact .inl (.inr given)
    · exact .inl (.inl own.symm)
    · exact .inr later
  · rintro ((own | given) | later)
    · exact .inr (.inl own.symm)
    · exact .inl given
    · exact .inr (.inr later)

/-- Behind a source that was built, the others are refused as by themselves, with its name taken. -/
theorem refusedAt_succ (built : source.build table defaults = .ok container) (index : Nat) :
    RefusedAt table defaults taken (source :: sources) (index + 1) fault ↔
      RefusedAt table defaults (container.name :: taken) sources index fault := by
  simp only [RefusedAt, List.getElem?_cons_succ, List.take_succ_cons, isTaken_cons built]

/-- When the first source is refused, it is the first that is. -/
theorem firstRefused_of_refused {other : Fault}
    (here : RefusedAt table defaults taken (source :: sources) 0 other) :
    FirstRefused table defaults taken (source :: sources) fault ↔
      RefusedAt table defaults taken (source :: sources) 0 fault := by
  constructor
  · rintro ⟨index, refused, least⟩
    cases index with
    | zero => exact refused
    | succ index => exact absurd here (least 0 (Nat.succ_pos index) other)
  · intro refused
    exact ⟨0, refused, fun earlier before => absurd before (Nat.not_lt_zero earlier)⟩

/-- When the first source passes, the first that is refused is among the others. -/
theorem firstRefused_of_passed (built : source.build table defaults = .ok container)
    (fresh : container.name ∉ taken) :
    FirstRefused table defaults taken (source :: sources) fault ↔
      FirstRefused table defaults (container.name :: taken) sources fault := by
  have passed : ∀ other, ¬RefusedAt table defaults taken (source :: sources) 0 other := by
    intro other refused
    rcases refusedAt_zero.1 refused with failed | ⟨again, builtAgain, mem, _⟩
    · cases built.symm.trans failed
    · cases built.symm.trans builtAgain
      exact fresh mem
  constructor
  · rintro ⟨index, refused, least⟩
    cases index with
    | zero => exact absurd refused (passed fault)
    | succ index =>
        refine ⟨index, (refusedAt_succ built index).1 refused, ?_⟩
        intro earlier before other refusedEarlier
        exact least (earlier + 1) (Nat.succ_lt_succ before) other
          ((refusedAt_succ built earlier).2 refusedEarlier)
  · rintro ⟨index, refused, least⟩
    refine ⟨index + 1, (refusedAt_succ built index).2 refused, ?_⟩
    intro earlier before other refusedEarlier
    cases earlier with
    | zero => exact passed other refusedEarlier
    | succ earlier =>
        exact least earlier (Nat.lt_of_succ_lt_succ before) other
          ((refusedAt_succ built earlier).1 refusedEarlier)

/-!
### Collecting containers
-/

/-- Collecting goes on from a source that can be built under a name that is free. -/
theorem collect_of_passed (built : source.build table defaults = .ok container)
    (fresh : container.name ∉ taken) :
    collect table defaults taken (source :: sources) =
      (collect table defaults (container.name :: taken) sources).map (container :: ·) := by
  rw [collect, built]
  change (if taken.contains container.name = true then _ else _) = _
  rw [if_neg (by simpa using fresh)]
  cases collect table defaults (container.name :: taken) sources <;> rfl

/-- Collecting ends at a source whose name is taken. -/
theorem collect_of_taken (built : source.build table defaults = .ok container)
    (mem : container.name ∈ taken) :
    collect table defaults taken (source :: sources) =
      .error (.duplicateContainer container.name) := by
  rw [collect, built]
  change (if taken.contains container.name = true then _ else _) = _
  rw [if_pos (by simpa using mem)]

/-- Collecting ends at a source that cannot be built. -/
theorem collect_of_error (failed : source.build table defaults = .error fault) :
    collect table defaults taken (source :: sources) = .error fault := by
  rw [collect, failed]
  rfl

/-- Collecting is refused for what the first refused source is refused for. -/
theorem collect_eq_error_iff (taken : List String) (sources : List Source) :
    collect table defaults taken sources = .error fault ↔
      FirstRefused table defaults taken sources fault := by
  induction sources generalizing taken with
  | nil =>
      refine ⟨nofun, ?_⟩
      rintro ⟨index, ⟨source, found, _⟩, _⟩
      cases found
  | cons source sources ih =>
      cases built : source.build table defaults with
      | error other =>
          have here : RefusedAt table defaults taken (source :: sources) 0 other :=
            refusedAt_zero.2 (.inl built)
          rw [collect_of_error built, firstRefused_of_refused here, refusedAt_zero, built]
          simp
      | ok container =>
          by_cases mem : container.name ∈ taken
          · have here : RefusedAt table defaults taken (source :: sources) 0
                (.duplicateContainer container.name) :=
              refusedAt_zero.2 (.inr ⟨container, built, mem, rfl⟩)
            rw [collect_of_taken built mem, firstRefused_of_refused here, refusedAt_zero, built]
            simp [mem, eq_comm]
          · rw [collect_of_passed built mem, firstRefused_of_passed built mem, map_eq_error_iff,
              ih]

/-- Sources build some containers, one each and in order. -/
def Builds (table : ClassTable) (defaults : Defaults) : List Source → List Container → Prop :=
  List.Forall₂ fun source container => source.build table defaults = .ok container

end Source

/-- The names of some containers differ from one another and from those that are taken. -/
def Container.AreFree (taken : List String) (containers : List Container) : Prop :=
  (containers.map name).Nodup ∧ ∀ container ∈ containers, container.name ∉ taken

/-- Containers have free names when the first has one and the others have, with the name of the
    first taken. -/
theorem Container.areFree_cons {taken : List String} {container : Container}
    {containers : List Container} :
    AreFree taken (container :: containers) ↔
      container.name ∉ taken ∧ AreFree (container.name :: taken) containers := by
  simp only [AreFree, List.map_cons, List.nodup_cons, List.mem_map, List.forall_mem_cons]
  simp only [List.mem_cons, not_or]
  constructor
  · rintro ⟨⟨apart, distinct⟩, fresh, free⟩
    refine ⟨fresh, distinct, ?_⟩
    intro other among
    exact ⟨fun same => apart ⟨other, among, same⟩, free other among⟩
  · rintro ⟨fresh, distinct, free⟩
    refine ⟨⟨?_, distinct⟩, fresh, fun other among => (free other among).2⟩
    rintro ⟨other, among, same⟩
    exact (free other among).1 same

namespace Source

variable {table : ClassTable} {defaults : Defaults}

/-- Collecting succeeds with the containers that the sources build, when their names are free. -/
theorem collect_eq_ok_iff (taken : List String) (sources : List Source)
    (containers : List Container) :
    collect table defaults taken sources = .ok containers ↔
      Builds table defaults sources containers ∧ Container.AreFree taken containers := by
  induction sources generalizing taken containers with
  | nil =>
      constructor
      · intro collected
        cases collected
        exact ⟨.nil, List.nodup_nil, nofun⟩
      · rintro ⟨built, _⟩
        cases built
        rfl
  | cons source sources ih =>
      cases built : source.build table defaults with
      | error fault =>
          rw [collect_of_error built]
          refine ⟨nofun, ?_⟩
          rintro ⟨builds, _⟩
          cases builds with
          | cons first _ => cases built.symm.trans first
      | ok container =>
          by_cases mem : container.name ∈ taken
          · rw [collect_of_taken built mem]
            refine ⟨nofun, ?_⟩
            rintro ⟨builds, free⟩
            cases builds with
            | cons first _ =>
                cases built.symm.trans first
                exact absurd mem (Container.areFree_cons.1 free).1
          · rw [collect_of_passed built mem]
            constructor
            · intro collected
              cases later : collect table defaults (container.name :: taken) sources with
              | error fault =>
                  rw [later] at collected
                  cases collected
              | ok rest =>
                  rw [later] at collected
                  cases collected
                  obtain ⟨builds, free⟩ := (ih (container.name :: taken) rest).1 later
                  exact ⟨.cons built builds, Container.areFree_cons.2 ⟨mem, free⟩⟩
            · rintro ⟨builds, free⟩
              cases builds with
              | cons first builds =>
                  cases built.symm.trans first
                  have later := (ih _ _).2 ⟨builds, (Container.areFree_cons.1 free).2⟩
                  rw [later]
                  rfl

/-- Sources that build the same containers are collected alike, also in two different tables. -/
theorem collect_congr {later : ClassTable} {sources others : List Source} (taken : List String)
    (same : List.Forall₂ (fun source other => other.build later defaults =
      source.build table defaults) sources others) :
    collect later defaults taken others = collect table defaults taken sources := by
  induction same generalizing taken with
  | nil => rfl
  | @cons source other sources others first _ ih =>
      simp only [collect, first, ih]

/-- A build is never refused for a name that is taken. -/
theorem ne_duplicateContainer_of_build {source : Source} {fault : Fault}
    (failed : source.build table defaults = .error fault) (name : String) :
    fault ≠ .duplicateContainer name := by
  rintro rfl
  cases source with
  | container ready => cases failed
  | subject offered =>
      cases offered with
      | datum value => cases failed
      | «class» target =>
          change table.build defaults (.class target) = _ at failed
          rw [ClassTable.build_class_eq] at failed
          cases declared : (table.find? target).bind ClassEntry.declaration with
          | none =>
              rw [declared] at failed
              cases failed
          | some own =>
              rw [declared] at failed
              have refused := map_eq_error_iff.1 failed
              rcases ClassTable.isOfReading_of_readClass refused with category | ⟨_, same⟩
              · cases category
              · cases same

/-- Some source is refused first when some source is refused. -/
theorem exists_firstRefused_iff {table : ClassTable} {defaults : Defaults} {taken : List String}
    {sources : List Source} :
    (∃ fault, FirstRefused table defaults taken sources fault) ↔
      ∃ index fault, RefusedAt table defaults taken sources index fault := by
  constructor
  · rintro ⟨fault, index, refused, _⟩
    exact ⟨index, fault, refused⟩
  · intro some
    classical
    obtain ⟨fault, refused⟩ := Nat.find_spec some
    refine ⟨fault, Nat.find some, refused, ?_⟩
    intro earlier before other refusedEarlier
    exact Nat.find_min some before ⟨other, refusedEarlier⟩

end Source

/-!
### Models
-/

namespace Model

variable (table : ClassTable) (options : Options) (defaults : Defaults)

/-- Making a model as one run. Until all containers are collected nothing is projected. -/
theorem build_eq (sources : List Source) :
    build table options defaults sources =
      if sources = [] then ⟨[], .error .emptyModel⟩
      else match Source.collect table defaults [] sources with
        | .error fault => ⟨[], .error fault⟩
        | .ok containers =>
            ⟨(Container.projectAll options containers).notices ++ [.built containers.length],
              .ok ⟨options, containers, containers.map (Container.interface options)⟩⟩ := by
  unfold build
  cases sources with
  | nil => rfl
  | cons source sources =>
      rw [if_neg (by simp), if_neg (by simp)]
      cases collected : Source.collect table defaults [] (source :: sources) with
      | error fault => rfl
      | ok containers =>
          have projected := Container.outcome_projectAll options containers
          cases run : Container.projectAll options containers with
          | mk notices outcome =>
              rw [run] at projected
              cases projected
              simp only [Traced.ofExcept, Traced.ok_bind, run, Traced.notify, Traced.pure_eq,
                List.nil_append, List.append_nil]

/-- A construction without a model is refused for there being no source, or for what the first
    refused source is refused for. -/
theorem outcome_build_eq_error_iff (sources : List Source) (fault : Fault) :
    (build table options defaults sources).outcome = .error fault ↔
      (sources = [] ∧ fault = .emptyModel) ∨
        Source.FirstRefused table defaults [] sources fault := by
  rw [build_eq]
  by_cases empty : sources = []
  · subst empty
    rw [if_pos rfl]
    constructor
    · intro refused
      cases refused
      exact .inl ⟨rfl, rfl⟩
    · rintro (⟨_, rfl⟩ | ⟨index, ⟨source, found, _⟩, _⟩)
      · rfl
      · cases found
  · rw [if_neg empty, ← Source.collect_eq_error_iff]
    cases Source.collect table defaults [] sources with
    | error other => simp [empty]
    | ok containers => simp [empty]

/-- A construction without a model has nothing on record. -/
theorem notices_build_of_error {sources : List Source} {fault : Fault}
    (refused : (build table options defaults sources).outcome = .error fault) :
    (build table options defaults sources).notices = [] := by
  rw [build_eq] at refused ⊢
  by_cases empty : sources = []
  · rw [if_pos empty]
  · rw [if_neg empty] at refused ⊢
    cases collected : Source.collect table defaults [] sources with
    | error other => rfl
    | ok containers =>
        rw [collected] at refused
        cases refused

/-- A construction gives a model exactly when there are sources and they build containers under free
    names. The model holds these and their interfaces. -/
theorem outcome_build_eq_ok_iff (sources : List Source) (model : Model) :
    (build table options defaults sources).outcome = .ok model ↔
      sources ≠ [] ∧ Source.Builds table defaults sources model.containers ∧
        Container.AreFree [] model.containers ∧ model.options = options ∧
        model.interfaces = model.containers.map (Container.interface options) := by
  rw [build_eq]
  by_cases empty : sources = []
  · simp [empty]
  · rw [if_neg empty]
    constructor
    · intro done
      cases collected : Source.collect table defaults [] sources with
      | error fault =>
          rw [collected] at done
          cases done
      | ok containers =>
          rw [collected] at done
          cases done
          obtain ⟨builds, free⟩ := (Source.collect_eq_ok_iff [] sources containers).1 collected
          exact ⟨empty, builds, free, rfl, rfl⟩
    · rintro ⟨_, builds, free, given, projected⟩
      rw [(Source.collect_eq_ok_iff [] sources model.containers).2 ⟨builds, free⟩]
      obtain ⟨own, containers, interfaces⟩ := model
      dsimp only at given projected
      subst given projected
      rfl

/-!
### Answers by name
-/

/-- What a model of some options is: its names differ, its interfaces are the projections of its
    containers in order, and a name is answered with the projection of the one container of that
    name, or refused by a failed lookup when there is none. -/
structure Serves (options : Options) (model : Model) : Prop where
  options_eq : model.options = options
  distinct : (model.containers.map Container.name).Nodup
  projected : List.Forall₂
    (fun (container : Container) interface => (container.project options).outcome = .ok interface)
    model.containers model.interfaces
  answers : ∀ container ∈ model.containers, ∃ interface,
    (container.project options).outcome = .ok interface ∧
      model.interface container.name = .ok interface ∧
      model.members container.name = .ok interface.members
  unknown : ∀ name, (∀ container ∈ model.containers, container.name ≠ name) →
    model.interface name = .error (.unknownContainer name) ∧
      model.members name = .error (.unknownContainer name) ∧
      (Fault.unknownContainer name).category = .lookup

variable {options} {model : Model}

/-- The name of a container is answered with its projection. -/
theorem interface_of_mem (distinct : (model.containers.map Container.name).Nodup)
    (projected : model.interfaces = model.containers.map (Container.interface options))
    {container : Container} (mem : container ∈ model.containers) :
    model.interface container.name = .ok (container.interface options) := by
  have some : ((model.containers.map (Container.interface options)).find?
      fun interface => interface.name == container.name).isSome = true := by
    rw [List.find?_isSome]
    exact ⟨container.interface options, List.mem_map_of_mem mem, BEq.rfl⟩
  obtain ⟨interface, found⟩ := Option.isSome_iff_exists.1 some
  obtain ⟨other, among, rfl⟩ := List.mem_map.1 (List.mem_of_find?_eq_some found)
  have matched := List.find?_some found
  have named : other.name = container.name := by simpa [Container.interface] using matched
  cases List.inj_on_of_nodup_map distinct among mem named
  rw [Model.interface, projected, found]

/-- A name that no container has is unknown. -/
theorem interface_of_absent
    (projected : model.interfaces = model.containers.map (Container.interface options))
    {name : String} (absent : ∀ container ∈ model.containers, container.name ≠ name) :
    model.interface name = .error (.unknownContainer name) := by
  have none : (model.containers.map (Container.interface options)).find?
      (fun interface => interface.name == name) = none := by
    rw [List.find?_eq_none]
    intro interface mem
    obtain ⟨container, among, rfl⟩ := List.mem_map.1 mem
    simpa [Container.interface] using absent container among
  rw [Model.interface, projected, none]

/-- The members of a name are those of its interface, and unknown when it is. -/
theorem members_eq (model : Model) (name : String) :
    model.members name = (model.interface name).map Interface.members := by
  rw [members]
  cases model.interface name <;> rfl

/-- A model that was made serves its names. -/
theorem serves_of_build {table : ClassTable} {defaults : Defaults} {sources : List Source}
    (done : (build table options defaults sources).outcome = .ok model) :
    model.Serves options := by
  obtain ⟨_, _, free, given, projected⟩ := (outcome_build_eq_ok_iff _ _ _ _ _).1 done
  refine ⟨given, free.1, ?_, ?_, ?_⟩
  · rw [projected, List.forall₂_map_right_iff, List.forall₂_same]
    exact fun container _ => container.outcome_project options
  · intro container mem
    have answer := interface_of_mem free.1 projected mem
    exact ⟨_, container.outcome_project options, answer, by rw [members_eq, answer]; rfl⟩
  · intro name absent
    have answer := interface_of_absent projected absent
    exact ⟨answer, by rw [members_eq, answer]; rfl, rfl⟩

/-!
### Reordered sources
-/

end Model

namespace Source

variable {table : ClassTable} {defaults : Defaults} {sources others : List Source}
  {containers : List Container}

/-- A source builds one container at most. -/
theorem build_rightUnique (table : ClassTable) (defaults : Defaults) :
    Relator.RightUnique fun (source : Source) (container : Container) =>
      source.build table defaults = .ok container := by
  intro source first second built again
  exact Except.ok.inj (built.symm.trans again)

/-- A source is beside the interface of the container that it builds. -/
def Beside (table : ClassTable) (options : Options) (defaults : Defaults) (source : Source)
    (pair : Source × Interface) : Prop :=
  pair.1 = source ∧ ∃ container, source.build table defaults = .ok container ∧
    pair.2 = container.interface options

/-- A source is beside one interface at most. -/
theorem beside_rightUnique (table : ClassTable) (options : Options) (defaults : Defaults) :
    Relator.RightUnique (Beside table options defaults) := by
  intro source first second beside besideOther
  obtain ⟨own, container, built, shown⟩ := beside
  obtain ⟨otherOwn, other, again, otherShown⟩ := besideOther
  cases built.symm.trans again
  exact Prod.ext (own.trans otherOwn.symm) (shown.trans otherShown.symm)

/-- Sources that build some containers are beside the interfaces of these. -/
theorem Builds.beside (builds : Builds table defaults sources containers) (options : Options) :
    List.Forall₂ (Beside table options defaults) sources
      (sources.zip (containers.map (Container.interface options))) := by
  induction builds with
  | nil => exact .nil
  | @cons source container sources containers built _ ih =>
      exact .cons ⟨rfl, container, built, rfl⟩ ih

end Source

namespace Model

variable {table : ClassTable} {options : Options} {defaults : Defaults}
  {sources others : List Source} {model other : Model}

/-- Sources in another order make a model when they did in the first order. -/
theorem exists_build_of_perm (perm : sources.Perm others)
    (done : (build table options defaults sources).outcome = .ok model) :
    ∃ reordered, (build table options defaults others).outcome = .ok reordered := by
  obtain ⟨nonempty, builds, free, _⟩ := (outcome_build_eq_ok_iff _ _ _ _ _).1 done
  obtain ⟨containers, buildsOthers, same⟩ := List.perm_comp_forall₂ perm.symm builds
  refine ⟨⟨options, containers, containers.map (Container.interface options)⟩, ?_⟩
  refine (outcome_build_eq_ok_iff _ _ _ _ _).2 ⟨?_, buildsOthers, ⟨?_, nofun⟩, rfl, rfl⟩
  · rintro rfl
    exact nonempty perm.eq_nil
  · exact ((same.map Container.name).nodup_iff).2 free.1

/-- Sources in another order keep their interfaces. -/
theorem zip_perm_of_perm (perm : sources.Perm others)
    (done : (build table options defaults sources).outcome = .ok model)
    (otherDone : (build table options defaults others).outcome = .ok other) :
    (sources.zip model.interfaces).Perm (others.zip other.interfaces) := by
  obtain ⟨_, builds, _, _, projected⟩ := (outcome_build_eq_ok_iff _ _ _ _ _).1 done
  obtain ⟨_, otherBuilds, _, _, otherProjected⟩ := (outcome_build_eq_ok_iff _ _ _ _ _).1 otherDone
  rw [projected, otherProjected]
  exact List.rel_perm_imp (Source.beside_rightUnique table options defaults)
    (builds.beside options) (otherBuilds.beside options) perm

/-- Sources in another order make a model that answers every name alike. -/
theorem interface_eq_of_perm (perm : sources.Perm others)
    (done : (build table options defaults sources).outcome = .ok model)
    (otherDone : (build table options defaults others).outcome = .ok other) (name : String) :
    model.interface name = other.interface name := by
  obtain ⟨_, builds, free, _, projected⟩ := (outcome_build_eq_ok_iff _ _ _ _ _).1 done
  obtain ⟨_, otherBuilds, otherFree, _, otherProjected⟩ :=
    (outcome_build_eq_ok_iff _ _ _ _ _).1 otherDone
  have same : model.containers.Perm other.containers :=
    List.rel_perm_imp (Source.build_rightUnique table defaults) builds otherBuilds perm
  by_cases known : ∃ container ∈ model.containers, container.name = name
  · obtain ⟨container, mem, rfl⟩ := known
    rw [interface_of_mem free.1 projected mem,
      interface_of_mem otherFree.1 otherProjected (same.mem_iff.1 mem)]
  · have absent : ∀ container ∈ model.containers, container.name ≠ name :=
      fun container mem named => known ⟨container, mem, named⟩
    rw [interface_of_absent projected absent, interface_of_absent otherProjected
      fun container mem => absent container (same.mem_iff.2 mem)]

/-- Sources that build the same containers make the same model, and leave the same record, also in
    two different tables. -/
theorem build_congr (table later : ClassTable) (options : Options) (defaults : Defaults)
    (same : List.Forall₂ (fun source other => other.build later defaults =
      source.build table defaults) sources others) :
    build later options defaults others = build table options defaults sources := by
  have empty : others = [] ↔ sources = [] := by cases same <;> simp
  simp only [build_eq, Source.collect_congr [] same, empty]

end Model

/-- Making a model of some sources, in every table and under all options and defaults. The
    construction is refused when there is no source, or when some source cannot be built or brings
    the name of an earlier one; the fault is that of the first such source, which is the fault of
    its build when it cannot be built, and nothing is on record. Otherwise the model holds the
    containers that the sources build, in order, and serves their names. Sources in another order
    make a model as well or not at all, keep their interfaces, and are answered for alike. Putting
    the containers that they build in place of sources changes nothing. -/
theorem model_construction (table : ClassTable) (options : Options) (defaults : Defaults)
    (sources : List Source) :
    ((∃ fault, (Model.build table options defaults sources).outcome = .error fault) ↔
      sources = [] ∨ ∃ index fault, Source.RefusedAt table defaults [] sources index fault) ∧
    (∀ fault, (Model.build table options defaults sources).outcome = .error fault →
      ((sources = [] ∧ fault = .emptyModel) ∨
        Source.FirstRefused table defaults [] sources fault) ∧
      (Model.build table options defaults sources).notices = []) ∧
    (∀ source ∈ sources, ∀ fault, source.build table defaults = .error fault →
      ∀ name, fault ≠ .duplicateContainer name) ∧
    (∀ model, (Model.build table options defaults sources).outcome = .ok model →
      Source.Builds table defaults sources model.containers ∧ model.Serves options) ∧
    (∀ others, sources.Perm others →
      ((∃ model, (Model.build table options defaults sources).outcome = .ok model) ↔
        ∃ other, (Model.build table options defaults others).outcome = .ok other) ∧
      ∀ model other, (Model.build table options defaults sources).outcome = .ok model →
        (Model.build table options defaults others).outcome = .ok other →
          (sources.zip model.interfaces).Perm (others.zip other.interfaces) ∧
          ∀ name, model.interface name = other.interface name ∧
            model.members name = other.members name) ∧
    ∀ others, List.Forall₂ (fun source other => other = source ∨
        ∃ container, source.build table defaults = .ok container ∧ other = .container container)
        sources others →
      Model.build table options defaults others = Model.build table options defaults sources := by
  refine ⟨?_, ?_, ?_, ?_, ?_, ?_⟩
  · simp only [Model.outcome_build_eq_error_iff, exists_or, Source.exists_firstRefused_iff,
      exists_and_left, exists_eq, and_true]
  · intro fault refused
    exact ⟨(Model.outcome_build_eq_error_iff _ _ _ _ _).1 refused,
      Model.notices_build_of_error _ _ _ refused⟩
  · exact fun source _ fault failed => Source.ne_duplicateContainer_of_build failed
  · intro model done
    exact ⟨((Model.outcome_build_eq_ok_iff _ _ _ _ _).1 done).2.1, Model.serves_of_build done⟩
  · intro others perm
    refine ⟨⟨?_, ?_⟩, ?_⟩
    · rintro ⟨model, done⟩
      exact Model.exists_build_of_perm perm done
    · rintro ⟨other, done⟩
      exact Model.exists_build_of_perm perm.symm done
    · intro model other done otherDone
      refine ⟨Model.zip_perm_of_perm perm done otherDone, ?_⟩
      intro name
      have same := Model.interface_eq_of_perm perm done otherDone name
      exact ⟨same, by rw [Model.members_eq, Model.members_eq, same]⟩
  · intro others replaced
    apply Model.build_congr
    refine replaced.imp ?_
    rintro source other (rfl | ⟨container, built, rfl⟩)
    · rfl
    · exact built.symm

end SchemaProjection
