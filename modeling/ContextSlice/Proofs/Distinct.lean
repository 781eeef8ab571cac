import ContextSlice.Distinct
import Mathlib.Data.List.Basic
import Mathlib.Data.List.Induction

/-!
# The order of lists without repetition

The members of a list stand in `distinct` in the order in which they first come
(`pairwise_idxOf_distinct`), the first one first (`head?_distinct`). Leaving members out or renaming
them can be done before or after (`distinct_filter`, `distinct_map`).
-/

namespace ContextSlice

section
variable {α β : Type} [DecidableEq α] [DecidableEq β]

/-- New members are added one part after the other. -/
theorem addNew_append (out xs ys : List α) : addNew out (xs ++ ys) = addNew (addNew out xs) ys := by
  induction xs generalizing out with
  | nil => rfl
  | cons x xs ih =>
    rw [List.cons_append, addNew, addNew]
    split <;> exact ih _

/-- What was there stays at the start. -/
theorem prefix_addNew (out xs : List α) : out <+: addNew out xs := by
  induction xs generalizing out with
  | nil => exact List.prefix_refl out
  | cons x xs ih =>
    rw [addNew]
    split
    · exact ih out
    · exact (List.prefix_append out [x]).trans (ih _)

/-- What comes later does not change the order of what has come before. -/
theorem prefix_distinct {xs ys : List α} (h : xs <+: ys) : distinct xs <+: distinct ys := by
  obtain ⟨more, rfl⟩ := h
  rw [distinct, distinct, addNew_append]
  exact prefix_addNew _ more

/-- One more member comes last, unless it has come before. -/
theorem distinct_concat (xs : List α) (x : α) :
    distinct (xs ++ [x]) = if x ∈ xs then distinct xs else distinct xs ++ [x] := by
  rw [distinct, addNew_append, ← distinct, addNew]
  simp only [mem_distinct, addNew]

/-- A list begins with the member that comes first. -/
theorem head?_distinct (xs : List α) : (distinct xs).head? = xs.head? := by
  induction xs using List.reverseRecOn with
  | nil => rfl
  | append_singleton xs x ih =>
    rw [distinct_concat, List.head?_append]
    split
    · rename_i h
      obtain ⟨first, rest, rfl⟩ := List.exists_cons_of_ne_nil (List.ne_nil_of_mem h)
      rw [ih, List.head?_cons, Option.some_or]
    · rw [List.head?_append, ih]

/-- Members stand in the order in which they first come. -/
theorem pairwise_idxOf_distinct (xs : List α) :
    (distinct xs).Pairwise fun a b => xs.idxOf a < xs.idxOf b := by
  induction xs using List.reverseRecOn with
  | nil => exact List.Pairwise.nil
  | append_singleton xs x ih =>
    have hkeep : (distinct xs).Pairwise fun a b => (xs ++ [x]).idxOf a < (xs ++ [x]).idxOf b := by
      refine ih.imp_of_mem fun {a b} ha hb hlt => ?_
      rwa [List.idxOf_append_of_mem (mem_distinct.mp ha),
        List.idxOf_append_of_mem (mem_distinct.mp hb)]
    rw [distinct_concat]
    split
    · exact hkeep
    · rename_i hx
      refine List.pairwise_append.mpr ⟨hkeep, List.pairwise_singleton _ _, fun a ha b hb => ?_⟩
      cases List.mem_singleton.mp hb
      rw [List.idxOf_append_of_mem (mem_distinct.mp ha), List.idxOf_append_of_notMem hx]
      exact Nat.lt_add_right _ (List.idxOf_lt_length_of_mem (mem_distinct.mp ha))

/-- Filtering and leaving out repetitions may change places. -/
theorem distinct_filter (p : α → Bool) (xs : List α) :
    distinct (xs.filter p) = (distinct xs).filter p := by
  induction xs using List.reverseRecOn with
  | nil => rfl
  | append_singleton xs x ih =>
    rw [List.filter_append, distinct_concat]
    by_cases hp : p x = true
    · by_cases hx : x ∈ xs <;> simp [hp, hx, ih, distinct_concat]
    · by_cases hx : x ∈ xs <;> simp [hp, hx, ih]

/-- So may an injective function and leaving out repetitions. -/
theorem distinct_map {f : α → β} (hf : Function.Injective f) (xs : List α) :
    distinct (xs.map f) = (distinct xs).map f := by
  induction xs using List.reverseRecOn with
  | nil => rfl
  | append_singleton xs x ih =>
    rw [List.map_append, List.map_singleton, distinct_concat, distinct_concat, ih]
    simp only [List.mem_map_of_injective hf]
    split
    · rfl
    · rw [List.map_append, List.map_singleton]

end

end ContextSlice
