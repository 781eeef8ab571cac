/-!
# Lists without repetition

Sets of ids are lists without repetition. `addNew` extends such a list by those members of another
that it does not have yet, in the order in which they first come, and `distinct` starts it empty.
The lemmas say what the members are (`mem_addNew`) and that none is repeated (`nodup_addNew`).
-/

namespace ContextSlice

variable {α : Type} [DecidableEq α]

/-- The list extended by the members of a second one that it does not have yet. -/
def addNew (out : List α) : List α → List α
  | [] => out
  | x :: xs => if x ∈ out then addNew out xs else addNew (out ++ [x]) xs

/-- The members of a list in the order in which they first come. -/
def distinct (xs : List α) : List α := addNew [] xs

@[simp] theorem mem_addNew {out xs : List α} {a : α} : a ∈ addNew out xs ↔ a ∈ out ∨ a ∈ xs := by
  induction xs generalizing out with
  | nil => simp [addNew]
  | cons x xs ih =>
    by_cases h : x ∈ out
    · simp only [addNew, if_pos h, ih, List.mem_cons]
      constructor
      · rintro (ha | ha)
        · exact .inl ha
        · exact .inr (.inr ha)
      · rintro (ha | rfl | ha)
        · exact .inl ha
        · exact .inl h
        · exact .inr ha
    · simp [addNew, h, ih, or_assoc]

theorem nodup_addNew {out xs : List α} (h : out.Nodup) : (addNew out xs).Nodup := by
  induction xs generalizing out with
  | nil => exact h
  | cons x xs ih =>
    by_cases hx : x ∈ out
    · simpa [addNew, hx] using ih h
    · have hout : (out ++ [x]).Nodup :=
        List.nodup_append.mpr ⟨h, by simp, fun a ha b hb => by
          rintro rfl
          exact hx (by simpa [List.mem_singleton.mp hb] using ha)⟩
      simpa [addNew, hx] using ih hout

/-- The members are those of the list. -/
@[simp] theorem mem_distinct {xs : List α} {a : α} : a ∈ distinct xs ↔ a ∈ xs := by
  simp [distinct]

/-- Every member is there once. -/
theorem nodup_distinct (xs : List α) : (distinct xs).Nodup := nodup_addNew List.nodup_nil

end ContextSlice
