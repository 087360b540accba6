/-
Module: SchemaProjection.Proofs.Outcomes
Purpose: Computations that may be refused, one after another over a list. The list succeeds when
  each of them does, with their results in order, and otherwise is refused for what the first of
  them that fails is refused for.
Imports: none
Main exports: of_bind_ok, isOk_mapM, mapM_congr, mapM_eq_error_iff, mapM_eq_or_error,
  getElem?_of_mapM, exists_of_mapM_ok, mapM_eq_ok_of_implies, RefusedAlike,
  EndAlike, endAlike_mapM
-/

namespace SchemaProjection

section

variable {α β ε : Type} {compute : α → Except ε β}

/-- What is made of a result has no part in a refusal. -/
theorem map_eq_error_iff {outcome : Except ε α} {make : α → β} {fault : ε} :
    outcome.map make = .error fault ↔ outcome = .error fault := by
  cases outcome with
  | error other => simp only [Except.map, Except.error.injEq]
  | ok result => exact ⟨nofun, nofun⟩

/-- Two computations in a row that succeed both do, the second one from the result of the first. -/
theorem of_bind_ok {first : Except ε α} {next : α → Except ε β} {result : β}
    (done : first >>= next = .ok result) :
    ∃ value, first = .ok value ∧ next value = .ok result := by
  cases first with
  | error fault => cases done
  | ok value => exact ⟨value, rfl, done⟩

/-- A list of computations succeeds exactly when each of them does. -/
theorem isOk_mapM {values : List α} :
    (values.mapM compute).isOk = true ↔ ∀ value ∈ values, (compute value).isOk = true := by
  induction values with
  | nil => simp; rfl
  | cons value values ih =>
      rw [List.mapM_cons, List.forall_mem_cons, ← ih]
      cases compute value with
      | error fault => simp [Except.isOk, Except.toBool]; rfl
      | ok result => cases values.mapM compute <;> simp [Except.isOk, Except.toBool] <;> rfl

/-- Lists of computations that agree on every value agree. -/
theorem mapM_congr {other : α → Except ε β} {values : List α}
    (agree : ∀ value ∈ values, compute value = other value) :
    values.mapM compute = values.mapM other := by
  induction values with
  | nil => rfl
  | cons value values ih =>
      rw [List.mapM_cons, List.mapM_cons, agree value List.mem_cons_self,
        ih fun later mem => agree later (List.mem_cons_of_mem value mem)]

/-- A list of computations is refused for what the first of them that fails is refused for. -/
theorem mapM_eq_error_iff {values : List α} {fault : ε} :
    values.mapM compute = .error fault ↔
      ∃ before value after, values = before ++ value :: after ∧
        (∀ earlier ∈ before, (compute earlier).isOk = true) ∧ compute value = .error fault := by
  induction values with
  | nil =>
      constructor
      · intro refused
        cases refused
      · rintro ⟨before, value, after, parts, _⟩
        exact absurd parts.symm (by simp)
  | cons first values ih =>
      rw [List.mapM_cons]
      cases outcome : compute first with
      | error other =>
          constructor
          · intro refused
            cases refused
            exact ⟨[], first, values, rfl, nofun, outcome⟩
          · rintro ⟨before, value, after, parts, passed, refused⟩
            cases before with
            | nil =>
                cases parts
                cases outcome.symm.trans refused
                rfl
            | cons earlier before =>
                cases parts
                have ok := passed first List.mem_cons_self
                rw [outcome] at ok
                cases ok
      | ok result =>
          have rest : (values.mapM compute).map (result :: ·) = .error fault ↔
              values.mapM compute = .error fault := map_eq_error_iff
          -- the first one passes, so it only moves the place of the refusal by one
          refine rest.trans (ih.trans ?_)
          constructor
          · rintro ⟨before, value, after, parts, passed, refused⟩
            refine ⟨first :: before, value, after, by rw [parts]; rfl, ?_, refused⟩
            intro earlier mem
            rcases List.mem_cons.1 mem with rfl | mem
            · rw [outcome]
              rfl
            · exact passed earlier mem
          · rintro ⟨before, value, after, parts, passed, refused⟩
            cases before with
            | nil =>
                cases parts
                cases outcome.symm.trans refused
            | cons earlier before =>
                cases parts
                refine ⟨before, value, after, rfl, ?_, refused⟩
                exact fun earlier mem => passed earlier (List.mem_cons_of_mem first mem)

/-- A list of computations is refused for what one of them is refused for. -/
theorem exists_of_mapM_error {values : List α} {fault : ε}
    (refused : values.mapM compute = .error fault) :
    ∃ value ∈ values, compute value = .error fault := by
  obtain ⟨before, value, after, rfl, _, failed⟩ := mapM_eq_error_iff.1 refused
  exact ⟨value, List.mem_append_right before List.mem_cons_self, failed⟩

/-- When a second list of computations differs from a first only where it is refused for one fault,
    it has the same outcome or is refused for that fault. -/
theorem mapM_eq_or_error {other : α → Except ε β} {fault : ε} {broken : α → Prop}
    {values : List α}
    (agree : ∀ value ∈ values, other value = compute value ∨
      (broken value ∧ other value = .error fault)) :
    values.mapM other = values.mapM compute ∨
      ((∃ value ∈ values, broken value) ∧ values.mapM other = .error fault) := by
  induction values with
  | nil => exact .inl rfl
  | cons value values ih =>
      rw [List.mapM_cons, List.mapM_cons]
      rcases agree value List.mem_cons_self with same | ⟨isBroken, refused⟩
      · rw [same]
        rcases ih fun found mem => agree found (List.mem_cons_of_mem value mem) with
          rest | ⟨⟨found, mem, isBroken⟩, rest⟩
        · rw [rest]
          exact .inl rfl
        · rw [rest]
          cases compute value with
          | error earlier => exact .inl rfl
          | ok result => exact .inr ⟨⟨found, List.mem_cons_of_mem value mem, isBroken⟩, rfl⟩
      · rw [refused]
        exact .inr ⟨⟨value, List.mem_cons_self, isBroken⟩, rfl⟩

/-- The results of a list of computations are theirs, place by place. -/
theorem getElem?_of_mapM {related : α → β → Prop} {values : List α} {results : List β}
    (relates : ∀ value result, compute value = .ok result → related value result)
    (done : values.mapM compute = .ok results) (index : Nat) :
    Option.Rel related values[index]? results[index]? := by
  induction values generalizing results index with
  | nil =>
      cases done
      exact .none
  | cons value values ih =>
      rw [List.mapM_cons] at done
      obtain ⟨result, first, done⟩ := of_bind_ok done
      obtain ⟨others, rest, made⟩ := of_bind_ok done
      cases made
      cases index with
      | zero => exact .some (relates value result first)
      | succ index => exact ih rest index

/-- Each value of a list of computations that succeeds has its result among theirs. -/
theorem exists_of_mapM_ok {values : List α} {results : List β}
    (done : values.mapM compute = .ok results) {value : α} (mem : value ∈ values) :
    ∃ result ∈ results, compute value = .ok result := by
  induction values generalizing results with
  | nil => cases mem
  | cons first values ih =>
      rw [List.mapM_cons] at done
      obtain ⟨result, computed, done⟩ := of_bind_ok done
      obtain ⟨others, rest, made⟩ := of_bind_ok done
      cases made
      rcases List.mem_cons.1 mem with rfl | mem
      · exact ⟨result, List.mem_cons_self, computed⟩
      · obtain ⟨later, among, computed⟩ := ih rest mem
        exact ⟨later, List.mem_cons_of_mem result among, computed⟩

/-- When every result is also one of another computation, so are the results of a list. -/
theorem mapM_eq_ok_of_implies {other : α → Except ε β} {values : List α} {results : List β}
    (implies : ∀ value result, compute value = .ok result → other value = .ok result)
    (done : values.mapM compute = .ok results) : values.mapM other = .ok results := by
  have agree : ∀ value ∈ values, other value = compute value := by
    intro value mem
    obtain ⟨result, _, computed⟩ := exists_of_mapM_ok done mem
    rw [computed]
    exact implies value result computed
  rw [mapM_congr agree]
  exact done

end

/-!
### Refused alike
-/

/-- Two computations are refused alike: for one and the same fault, or not at all. -/
def RefusedAlike {α β ε : Type} (first : Except ε α) (second : Except ε β) : Prop :=
  ∀ fault, first = .error fault ↔ second = .error fault

/-- Two computations end alike: both are refused for one fault, or both succeed with results that
    are related. -/
inductive EndAlike {α β ε : Type} (related : α → β → Prop) : Except ε α → Except ε β → Prop where
  | refused (fault : ε) : EndAlike related (.error fault) (.error fault)
  | done {one : α} {two : β} (relates : related one two) : EndAlike related (.ok one) (.ok two)

/-- What is made of the results of computations that end alike is related if it is for related
    results. -/
theorem EndAlike.map {α β γ δ ε : Type} {related : α → β → Prop} {others : γ → δ → Prop}
    {first : Except ε α} {second : Except ε β} (alike : EndAlike related first second)
    {make : α → γ} {makeOther : β → δ}
    (relates : ∀ one two, related one two → others (make one) (makeOther two)) :
    EndAlike others (first.map make) (second.map makeOther) := by
  cases alike with
  | refused fault => exact .refused fault
  | done related => exact .done (relates _ _ related)

/-- Computations that are refused alike and have related results end alike. -/
theorem RefusedAlike.endAlike {α β ε : Type} {related : α → β → Prop} {first : Except ε α}
    {second : Except ε β} (alike : RefusedAlike first second)
    (relates : ∀ one two, first = .ok one → second = .ok two → related one two) :
    EndAlike related first second := by
  cases first with
  | error fault =>
      rw [(alike fault).1 rfl]
      exact .refused fault
  | ok one =>
      cases second with
      | error fault => cases (alike fault).2 rfl
      | ok two => exact .done (relates one two rfl rfl)

/-- Computations that end alike are refused alike. -/
theorem EndAlike.refusedAlike {α β ε : Type} {related : α → β → Prop} {first : Except ε α}
    {second : Except ε β} (alike : EndAlike related first second) :
    RefusedAlike first second := by
  intro fault
  cases alike with
  | refused other =>
      constructor
      · rintro ⟨⟩
        rfl
      · rintro ⟨⟩
        rfl
  | done relates =>
      constructor
      · intro refused
        cases refused
      · intro refused
        cases refused

/-- Lists of computations that end alike, place by place, end alike, with results in any relation of
    lists that related results extend. -/
theorem endAlike_mapM {α β γ ε : Type} {related : β → γ → Prop}
    {all : List β → List γ → Prop} (nil : all [] [])
    (cons : ∀ {one two ones twos}, related one two → all ones twos →
      all (one :: ones) (two :: twos))
    {compute : α → Except ε β} {other : α → Except ε γ} {values : List α}
    (alike : ∀ value ∈ values, EndAlike related (compute value) (other value)) :
    EndAlike all (values.mapM compute) (values.mapM other) := by
  induction values with
  | nil => exact .done nil
  | cons value values ih =>
      rw [List.mapM_cons, List.mapM_cons]
      have first := alike value List.mem_cons_self
      have rest := ih fun later mem => alike later (List.mem_cons_of_mem value mem)
      generalize compute value = one at first ⊢
      generalize other value = two at first ⊢
      cases first with
      | refused fault => exact .refused fault
      | done relates =>
          apply rest.map
          intro ones twos relatesRest
          exact cons relates relatesRest

end SchemaProjection
