/-
Module: SchemaProjection.Classes.FieldTable
Purpose: What is known of the fields of a class, an ordered table from names to values with every
  name once. A new entry of a name that is in the table replaces its value in place; any other goes
  to the end.
Imports: none
Main exports: FieldTable, FieldTable.find?, FieldTable.insert, FieldTable.insertAll,
  FieldTable.ofEntries, FieldTable.find?_eq_some_iff, FieldTable.find?_insertAll_of_mem,
  FieldTable.select
-/

namespace SchemaProjection

/-- The names of some fields with a value for each, in order, no name twice. -/
structure FieldTable (α : Type) where
  entries : List (String × α)
  nodup_names : (entries.map Prod.fst).Nodup

namespace FieldTable

variable {α : Type}

/-- The table without an entry. -/
def empty : FieldTable α := ⟨[], .nil⟩

instance : Inhabited (FieldTable α) := ⟨empty⟩

/-- The value of the first entry of a name. -/
def valueOf? (name : String) : List (String × α) → Option α
  | [] => none
  | entry :: rest => if entry.1 = name then some entry.2 else valueOf? name rest

/-- The value of a name, if the table has the name. -/
def find? (table : FieldTable α) (name : String) : Option α := valueOf? name table.entries

/-- Put an entry into a list of entries: in place of the first of its name, or at the end. -/
def insertEntry (name : String) (value : α) : List (String × α) → List (String × α)
  | [] => [(name, value)]
  | entry :: rest =>
      if entry.1 = name then (name, value) :: rest
      else entry :: insertEntry name value rest

/-- The names after an entry was put in: a known name keeps its place, a new one is the last. -/
theorem names_insertEntry (name : String) (value : α) (entries : List (String × α)) :
    (insertEntry name value entries).map Prod.fst =
      if name ∈ entries.map Prod.fst then entries.map Prod.fst
      else entries.map Prod.fst ++ [name] := by
  induction entries with
  | nil => simp [insertEntry]
  | cons entry rest ih =>
    by_cases same : entry.1 = name
    · simp [insertEntry, same]
    · have other : ¬name = entry.1 := fun eq => same eq.symm
      by_cases mem : name ∈ rest.map Prod.fst
      · rw [if_pos mem] at ih
        simp only [insertEntry, if_neg same, List.map_cons, ih]
        rw [if_pos (List.mem_cons_of_mem _ mem)]
      · rw [if_neg mem] at ih
        simp only [insertEntry, if_neg same, List.map_cons, ih]
        rw [if_neg (by simpa [other] using mem)]
        rfl

/-- Set the value of a name. -/
def insert (table : FieldTable α) (name : String) (value : α) : FieldTable α where
  entries := insertEntry name value table.entries
  nodup_names := by
    rw [names_insertEntry]
    split
    · exact table.nodup_names
    · next fresh =>
      refine List.nodup_append.2 ⟨table.nodup_names, by simp, ?_⟩
      rintro other mem _ last rfl
      exact fresh (List.mem_singleton.1 last ▸ mem)

/-- A name that was set has what it was set to, and every other name has what it had. -/
theorem find?_insert (table : FieldTable α) (name other : String) (value : α) :
    (table.insert name value).find? other =
      if name = other then some value else table.find? other := by
  simp only [find?, insert]
  induction table.entries with
  | nil => rfl
  | cons entry rest ih =>
    by_cases place : entry.1 = name
    · by_cases same : name = other <;> simp [insertEntry, valueOf?, place, same]
    · by_cases found : entry.1 = other
      · have apart : ¬name = other := fun same => place (found.trans same.symm)
        simp only [insertEntry, if_neg place, valueOf?, if_pos found, if_neg apart]
      · simp only [insertEntry, if_neg place, valueOf?, if_neg found, ih]

/-- Set the values of some names one after another. -/
def insertAll (table : FieldTable α) (entries : List (String × α)) : FieldTable α :=
  entries.foldl (fun built entry => built.insert entry.1 entry.2) table

/-- The table of some entries: a repeated name has its first place and its last value. -/
def ofEntries (entries : List (String × α)) : FieldTable α := empty.insertAll entries

/-!
### Entries and lookup
-/

section

variable {name : String} {value : α} {entries : List (String × α)}

/-- Where no name occurs twice, the value of a name is that of its entry. -/
theorem valueOf?_eq_some_iff (nodup : (entries.map Prod.fst).Nodup) :
    valueOf? name entries = some value ↔ (name, value) ∈ entries := by
  induction entries with
  | nil => simp [valueOf?]
  | cons entry rest ih =>
      obtain ⟨fresh, nodup⟩ := List.nodup_cons.1 nodup
      rw [valueOf?, List.mem_cons]
      by_cases same : entry.1 = name
      · have absent : (name, value) ∉ rest := by
          intro mem
          apply fresh
          rw [same]
          exact List.mem_map_of_mem mem
        rw [if_pos same]
        constructor
        · rintro ⟨⟩
          exact .inl (by rw [← same])
        · intro found
          rcases found with rfl | mem
          · rfl
          · exact absurd mem absent
      · have other : (name, value) ≠ entry := fun found => same (by rw [← found])
        rw [if_neg same, ih nodup]
        simp [other]

/-- A table has a value for a name exactly when it has the entry. -/
theorem find?_eq_some_iff (table : FieldTable α) :
    table.find? name = some value ↔ (name, value) ∈ table.entries :=
  valueOf?_eq_some_iff table.nodup_names

/-- Setting other names leaves the value of a name as it is. -/
theorem find?_insertAll_of_not_mem (absent : name ∉ entries.map Prod.fst) (table : FieldTable α) :
    (table.insertAll entries).find? name = table.find? name := by
  induction entries generalizing table with
  | nil => rfl
  | cons entry rest ih =>
      rw [List.map_cons, List.mem_cons, not_or] at absent
      obtain ⟨other, absent⟩ := absent
      have rest := ih absent (table.insert entry.1 entry.2)
      rw [find?_insert, if_neg (fun same => other same.symm)] at rest
      exact rest

/-- A name that is set once has what it is set to. -/
theorem find?_insertAll_of_mem (nodup : (entries.map Prod.fst).Nodup)
    (mem : (name, value) ∈ entries) (table : FieldTable α) :
    (table.insertAll entries).find? name = some value := by
  induction entries generalizing table with
  | nil => cases mem
  | cons entry rest ih =>
      obtain ⟨fresh, nodup⟩ := List.nodup_cons.1 nodup
      rcases List.mem_cons.1 mem with rfl | mem
      · have first := find?_insertAll_of_not_mem fresh (table.insert name value)
        rw [find?_insert, if_pos rfl] at first
        exact first
      · exact ih nodup mem (table.insert entry.1 entry.2)

end

/-!
### Entries with other values
-/

section

variable {β : Type}

/-- The entries whose value leads to another one, with that in its place. -/
def select (choose : α → Option β) (entries : List (String × α)) : List (String × β) :=
  entries.filterMap fun entry => (choose entry.2).map fun value => (entry.1, value)

/-- An entry is among the selected ones when it comes from one with its name. -/
theorem mem_select_iff {choose : α → Option β} {entries : List (String × α)} {name : String}
    {value : β} :
    (name, value) ∈ select choose entries ↔
      ∃ source, (name, source) ∈ entries ∧ choose source = some value := by
  rw [select, List.mem_filterMap]
  constructor
  · rintro ⟨⟨other, source⟩, mem, chosen⟩
    obtain ⟨found, same, pair⟩ := Option.map_eq_some_iff.1 chosen
    cases pair
    exact ⟨source, mem, same⟩
  · rintro ⟨source, mem, chosen⟩
    exact ⟨(name, source), mem, by rw [chosen]; rfl⟩

/-- The names of the selected entries are among those of all entries, in their order. -/
theorem names_select_sublist (choose : α → Option β) (entries : List (String × α)) :
    ((select choose entries).map Prod.fst).Sublist (entries.map Prod.fst) := by
  induction entries with
  | nil => exact .slnil
  | cons entry rest ih =>
      cases chosen : choose entry.2 with
      | none =>
          rw [select, List.filterMap_cons_none (by rw [chosen]; rfl)]
          exact ih.cons entry.1
      | some value =>
          rw [select, List.filterMap_cons_some (b := (entry.1, value)) (by rw [chosen]; rfl)]
          exact ih.cons_cons entry.1

/-- No name occurs twice among the selected entries of a table. -/
theorem nodup_names_select (choose : α → Option β) (table : FieldTable α) :
    ((select choose table.entries).map Prod.fst).Nodup :=
  (names_select_sublist choose table.entries).nodup table.nodup_names

end

end FieldTable

end SchemaProjection
