/-
Module: SchemaProjection.Classes.Hierarchy
Purpose: The order of the classes that a class comes after. Each of its bases brings an order, the
  base itself followed by its own ancestors, and the bases as they are listed are one order more.
  The orders are merged so that every one of them is kept: the next class is the first at the head
  of an order that stands behind the head of none.
Imports: none
Main exports: Hierarchy.next?, Hierarchy.merge, Hierarchy.merge_eq, Hierarchy.nodup_merge,
  Hierarchy.sublist_merge
-/

namespace SchemaProjection.Hierarchy

/-- The class that comes next in a merge of some orders: the first at the head of an order that
    stands behind the head of none. -/
def next? (orders : List (List Nat)) : Option Nat :=
  (orders.filterMap List.head?).find? fun id => orders.all fun order => !order.tail.contains id

/-- The orders with a class taken off wherever it is at the head. -/
def without (id : Nat) (orders : List (List Nat)) : List (List Nat) :=
  orders.map fun order => if order.head? = some id then order.tail else order

/-- At most so many steps of a merge. Where no class may come next the merge breaks off; there is
    no class with such bases. -/
def mergeWithin : Nat → List (List Nat) → List Nat
  | 0, _ => []
  | steps + 1, orders =>
      match next? orders with
      | none => []
      | some id => id :: mergeWithin steps (without id orders)

/-- The orders merged into one. Every step takes an entry off, so there are as many steps as entries
    at most. -/
def merge (orders : List (List Nat)) : List Nat := mergeWithin orders.flatten.length orders

/-- The class that comes next is at the head of an order. -/
theorem exists_head_of_next {orders : List (List Nat)} {id : Nat} (next : next? orders = some id) :
    ∃ order ∈ orders, order.head? = some id := by
  have mem := List.mem_of_find?_eq_some next
  exact List.mem_filterMap.1 mem

/-- Taking a class off makes no order longer. -/
theorem length_flatten_without_le (id : Nat) (orders : List (List Nat)) :
    (without id orders).flatten.length ≤ orders.flatten.length := by
  induction orders with
  | nil => exact Nat.le_refl _
  | cons order orders ih =>
      simp only [without, List.map_cons, List.flatten_cons, List.length_append] at ih ⊢
      split
      · have := order.length_tail
        omega
      · omega

/-- Taking the class off that comes next leaves fewer entries. -/
theorem length_flatten_without_lt {orders : List (List Nat)} {id : Nat}
    (next : next? orders = some id) :
    (without id orders).flatten.length < orders.flatten.length := by
  obtain ⟨order, mem, head⟩ := exists_head_of_next next
  clear next
  induction orders with
  | nil => cases mem
  | cons first orders ih =>
      have rest := length_flatten_without_le id orders
      simp only [without, List.map_cons, List.flatten_cons, List.length_append] at rest ih ⊢
      rcases List.mem_cons.1 mem with rfl | mem
      · rw [if_pos head]
        have shorter : order.tail.length < order.length := by
          cases order with
          | nil => cases head
          | cons entry order => exact Nat.lt_succ_self _
        omega
      · have fewer := ih mem
        have : (if first.head? = some id then first.tail else first).length ≤ first.length := by
          split
          · rw [List.length_tail]
            omega
          · exact Nat.le_refl _
        omega

/-- More steps than there are entries change nothing about a merge. -/
theorem mergeWithin_eq_of_le {steps more : Nat} {orders : List (List Nat)}
    (enough : orders.flatten.length ≤ steps) (within : steps ≤ more) :
    mergeWithin more orders = mergeWithin steps orders := by
  induction steps generalizing more orders with
  | zero =>
      cases next : next? orders with
      | none => cases more <;> simp [mergeWithin, next]
      | some id =>
          have fewer := length_flatten_without_lt next
          omega
  | succ steps ih =>
      obtain ⟨further, rfl⟩ := Nat.exists_eq_add_of_le' (Nat.le_trans (Nat.le_add_left 1 _) within)
      cases next : next? orders with
      | none => simp [mergeWithin, next]
      | some id =>
          have fewer := length_flatten_without_lt next
          simp only [mergeWithin, next]
          rw [ih (by omega) (by omega)]

/-- A merge in one equation, without its number of steps. -/
theorem merge_eq (orders : List (List Nat)) :
    merge orders =
      match next? orders with
      | none => []
      | some id => id :: merge (without id orders) := by
  have spare : merge orders = mergeWithin (orders.flatten.length + 1) orders :=
    (mergeWithin_eq_of_le (Nat.le_refl _) (Nat.le_succ _)).symm
  rw [spare, mergeWithin]
  cases next : next? orders with
  | none => rfl
  | some id =>
      have fewer := length_flatten_without_lt next
      dsimp only
      rw [mergeWithin_eq_of_le (Nat.le_refl _) (Nat.le_of_lt fewer), merge]

/-!
### What a merge keeps
-/

/-- What holds where no class may come next, and of orders whenever it holds of them without the
    class that comes next, holds of all orders. -/
theorem merge_induction {motive : List (List Nat) → Prop}
    (done : ∀ orders, next? orders = none → motive orders)
    (step : ∀ orders id, next? orders = some id → motive (without id orders) → motive orders)
    (orders : List (List Nat)) : motive orders := by
  cases next : next? orders with
  | none => exact done orders next
  | some id =>
      have fewer := length_flatten_without_lt next
      exact step orders id next (merge_induction done step (without id orders))
termination_by orders.flatten.length
decreasing_by exact fewer

section

variable {orders : List (List Nat)} {order : List Nat} {id : Nat}

/-- The class that comes next stands behind the head of no order. -/
theorem not_mem_tail_of_next (next : next? orders = some id) (mem : order ∈ orders) :
    id ∉ order.tail := by
  have allowed := List.find?_some next
  have behind := List.all_eq_true.1 allowed order mem
  simpa using behind

/-- The class that comes next is in an order only at its head. -/
theorem head_of_mem_of_next (next : next? orders = some id) (mem : order ∈ orders)
    (inside : id ∈ order) : order.head? = some id := by
  have behind := not_mem_tail_of_next next mem
  cases order with
  | nil => cases inside
  | cons first rest =>
      rcases List.mem_cons.1 inside with rfl | later
      · rfl
      · exact absurd later behind

/-- Once the class that comes next is taken off, it is in no order any more. -/
theorem not_mem_of_mem_without (next : next? orders = some id) (mem : order ∈ without id orders) :
    id ∉ order := by
  obtain ⟨source, among, rfl⟩ := List.mem_map.1 mem
  by_cases head : source.head? = some id
  · rw [if_pos head]
    exact not_mem_tail_of_next next among
  · rw [if_neg head]
    exact fun inside => head (head_of_mem_of_next next among inside)

/-- A merge has entries of the orders only. -/
theorem exists_mem_of_mem_merge {entry : Nat} (mem : entry ∈ merge orders) :
    ∃ order ∈ orders, entry ∈ order := by
  induction orders using merge_induction with
  | done orders next =>
      rw [merge_eq, next] at mem
      cases mem
  | step orders id next ih =>
      rw [merge_eq, next] at mem
      rcases List.mem_cons.1 mem with rfl | later
      · obtain ⟨order, among, head⟩ := exists_head_of_next next
        exact ⟨order, among, List.mem_of_head? head⟩
      · obtain ⟨order, among, inside⟩ := ih later
        obtain ⟨source, known, rfl⟩ := List.mem_map.1 among
        refine ⟨source, known, ?_⟩
        split at inside
        · exact List.mem_of_mem_tail inside
        · exact inside

/-- A merge has no class twice. -/
theorem nodup_merge (orders : List (List Nat)) : (merge orders).Nodup := by
  induction orders using merge_induction with
  | done orders next =>
      rw [merge_eq, next]
      exact .nil
  | step orders id next ih =>
      rw [merge_eq, next]
      refine List.nodup_cons.2 ⟨?_, ih⟩
      intro again
      obtain ⟨order, mem, inside⟩ := exists_mem_of_mem_merge again
      exact not_mem_of_mem_without next mem inside

/-- A merge that takes up all classes of an order keeps the order. -/
theorem sublist_merge (mem : order ∈ orders) (whole : ∀ entry ∈ order, entry ∈ merge orders) :
    order.Sublist (merge orders) := by
  induction orders using merge_induction generalizing order with
  | done orders next =>
      have none : order = [] := by
        apply List.eq_nil_iff_forall_not_mem.2
        intro entry inside
        have taken := whole entry inside
        rw [merge_eq, next] at taken
        cases taken
      rw [none]
      exact List.nil_sublist _
  | step orders id next ih =>
      rw [merge_eq, next] at whole ⊢
      -- of what is left of the order, no entry is the class that was taken off
      have rest : ∀ left ∈ without id orders, (∀ entry ∈ left, entry ∈ order) →
          left.Sublist (merge (without id orders)) := by
        intro left among part
        apply ih among
        intro entry inside
        rcases List.mem_cons.1 (whole entry (part entry inside)) with rfl | later
        · exact absurd inside (not_mem_of_mem_without next among)
        · exact later
      by_cases head : order.head? = some id
      · obtain ⟨tail, rfl⟩ := List.head?_eq_some_iff.1 head
        have among : tail ∈ without id orders := List.mem_map.2 ⟨_, mem, if_pos rfl⟩
        exact (rest tail among fun entry => List.mem_cons_of_mem id).cons_cons id
      · have among : order ∈ without id orders := List.mem_map.2 ⟨_, mem, if_neg head⟩
        exact (rest order among fun _ inside => inside).cons id

end

/-- Two bases with one ancestor in common come before it, in the order in which they are listed. -/
example : merge [[1, 0], [2, 0], [1, 2]] = [1, 2, 0] := by decide

end SchemaProjection.Hierarchy
