import Mathlib.Data.List.Forall2
import Mathlib.Data.List.Induction

/-!
# Steps that may fail

Two steps one after the other succeed if both do (`exists_of_bind_eq_ok`), and fail if the first one
fails, or the second one on the result of the first (`of_bind_eq_error`). A list is put through a step member
by member (`mapM_eq_ok`), and is filtered by a test that may fail if the test fails for none of its members
(`filterM_eq_ok`, `filterM_eq_error`).
-/

namespace ContextSlice

section
variable {ε α β : Type} {x : Except ε α} {f : α → Except ε β}

/-- If two steps succeed one after the other, then the first one does, and the second one on its
result. -/
theorem exists_of_bind_eq_ok {b : β} (h : x >>= f = .ok b) : ∃ a, x = .ok a ∧ f a = .ok b := by
  cases x with
  | error e => cases h
  | ok a => exact ⟨a, rfl, h⟩

/-- If two steps fail one after the other, then the first one does, or the second one on its
result. -/
theorem of_bind_eq_error {e : ε} (h : x >>= f = .error e) :
    x = .error e ∨ ∃ a, x = .ok a ∧ f a = .error e := by
  cases x with
  | error e' =>
    cases h
    exact .inl rfl
  | ok a => exact .inr ⟨a, rfl, h⟩

/-- A step whose result is put through a function succeeds if the step does. -/
theorem exists_of_map_eq_ok {g : α → β} {b : β} (h : x.map g = .ok b) : ∃ a, x = .ok a ∧ g a = b := by
  cases x with
  | error e => cases h
  | ok a =>
    cases h
    exact ⟨a, rfl, rfl⟩

/-- It fails only if the step does. -/
theorem eq_error_of_map_eq_error {g : α → β} {e : ε} (h : x.map g = .error e) : x = .error e := by
  cases x with
  | error e' =>
    cases h
    rfl
  | ok a => cases h

end

/-- If a step takes each member of a list to that of another list, then it takes the one list to the other. -/
theorem mapM_eq_ok {ε α β : Type} {f : α → Except ε β} {xs : List α} {ys : List β}
    (h : List.Forall₂ (fun x y => f x = .ok y) xs ys) : xs.mapM f = .ok ys := by
  induction h with
  | nil => rfl
  | cons hx _ ih =>
    rw [List.mapM_cons, hx, ih]
    rfl

/-- If a step leaves each member of a list as it is, then it leaves the list. -/
theorem mapM_eq_self {ε α : Type} {f : α → Except ε α} {xs : List α} (h : ∀ x ∈ xs, f x = .ok x) :
    xs.mapM f = .ok xs :=
  mapM_eq_ok (List.forall₂_same.mpr h)

section
variable {ε α : Type} {f : α → Except ε Bool} {e : ε} {xs ys : List α}

/-- A member at the end of a list is tested last. -/
theorem filterM_concat (xs : List α) (x : α) :
    (xs ++ [x]).filterM f = (do
      let kept ← xs.filterM f
      let keep ← f x
      pure (if keep then kept ++ [x] else kept)) := by
  have haux (out : List α) : (xs ++ [x]).filterAuxM f out = (do
      let kept ← xs.filterAuxM f out
      let keep ← f x
      pure (if keep then x :: kept else kept)) := by
    induction xs generalizing out with
    | nil => simp only [List.nil_append, List.filterAuxM, pure_bind, Bool.cond_eq_ite]
    | cons y ys ih => simp only [List.cons_append, List.filterAuxM, ih, bind_assoc]
  rw [List.filterM, haux, List.filterM]
  simp only [bind_assoc, pure_bind]
  refine bind_congr fun kept => bind_congr fun keep => ?_
  cases keep <;> simp

/-- If a list is filtered without a failure, then every member has passed the test or not. -/
theorem filterM_eq_ok (h : xs.filterM f = .ok ys) :
    ∃ test : α → Bool, (∀ x ∈ xs, f x = .ok (test x)) ∧ ys = xs.filter test := by
  refine ⟨fun x => (f x).toOption.getD false, ?_⟩
  induction xs using List.reverseRecOn generalizing ys with
  | nil =>
    cases h
    simp
  | append_singleton xs x ih =>
    rw [filterM_concat] at h
    obtain ⟨kept, hkept, h⟩ := exists_of_bind_eq_ok h
    obtain ⟨keep, hkeep, h⟩ := exists_of_bind_eq_ok h
    obtain ⟨hall, rfl⟩ := ih hkept
    cases h
    refine ⟨fun y hy => ?_, ?_⟩
    · rcases List.mem_append.mp hy with hy | hy
      · exact hall y hy
      · cases List.mem_singleton.mp hy
        simp [hkeep, Except.toOption]
    · cases keep <;> simp [hkeep, Except.toOption]

/-- If the test fails for no member, then the list is filtered. -/
theorem filterM_of_forall {test : α → Bool} (h : ∀ x ∈ xs, f x = .ok (test x)) :
    xs.filterM f = .ok (xs.filter test) := by
  induction xs using List.reverseRecOn with
  | nil => rfl
  | append_singleton xs x ih =>
    rw [filterM_concat, ih fun y hy => h y (List.mem_append_left _ hy), h x (by simp)]
    cases hx : test x <;> simp [hx, pure, Except.pure, bind, Except.bind]

/-- If a list cannot be filtered, then it is for one of its members. -/
theorem filterM_eq_error (h : xs.filterM f = .error e) : ∃ x ∈ xs, f x = .error e := by
  induction xs using List.reverseRecOn with
  | nil => cases h
  | append_singleton xs x ih =>
    rw [filterM_concat] at h
    rcases of_bind_eq_error h with h | ⟨kept, -, h⟩
    · obtain ⟨y, hy, hfault⟩ := ih h
      exact ⟨y, List.mem_append_left _ hy, hfault⟩
    · rcases of_bind_eq_error h with h | ⟨keep, -, h⟩
      · exact ⟨x, by simp, h⟩
      · cases h
end

end ContextSlice
