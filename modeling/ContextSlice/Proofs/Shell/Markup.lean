import ContextSlice.Shell.Markup
import Mathlib.Data.List.Basic

/-!
# Texts without markup

A tag begins with a bracket. So the console shows a text as it is if there is no bracket in it, and none of
the characters that a console acts on (`Shell.Markup.render_eq_self`). Texts that are put together from such
ones are such ones too (`Shell.Markup.Plain.intercalate`).
-/

namespace ContextSlice.Shell.Markup

/-- A text has no brackets, and no characters that a console acts on. -/
def Plain (s : String) : Prop := ∀ c ∈ s.toList, c ≠ '[' ∧ isControl c = false

-- Named here, since characters are finitely many and may be searched instead of those of the text.
instance (s : String) : Decidable (Plain s) :=
  List.decidableBAll (fun c => c ≠ '[' ∧ isControl c = false) s.toList

section
variable {s t separator : String} {items : List String}

/-! ## Texts that are put together -/

/-- Two plain texts one after the other are a plain text. -/
theorem Plain.append (hs : Plain s) (ht : Plain t) : Plain (s ++ t) := by
  rw [Plain, String.toList_append]
  exact List.forall_mem_append.mpr ⟨hs, ht⟩

/-- Plain texts with a plain one between them are a plain text. -/
theorem Plain.intercalate (hs : Plain separator) (h : ∀ item ∈ items, Plain item) :
    Plain (separator.intercalate items) := by
  induction items with
  | nil => exact nofun
  | cons item items ih =>
    obtain ⟨hitem, hitems⟩ := List.forall_mem_cons.mp h
    cases items with
    | nil => rwa [String.intercalate_singleton]
    | cons next items =>
      rw [String.intercalate_cons_cons]
      exact (hitem.append hs).append (ih hitems)

/-! ## What is shown -/

/-- All that is shown of a text without brackets are its characters. -/
theorem shownChars_pieces {cs : List Char} (h : '[' ∉ cs) (slashes fuel : Nat) (opened : List String) :
    shownChars opened (pieces slashes fuel cs) = .ok (List.replicate slashes '\\' ++ cs) := by
  fun_induction pieces slashes fuel cs with
  | case1 slashes cs => simp [shownChars, Except.map]
  | case2 slashes fuel => simp [shownChars, Except.map]
  | case3 slashes fuel cs ih =>
    rw [ih (List.not_mem_of_not_mem_cons h), List.replicate_succ', List.append_assoc]
    rfl
  | case4 | case5 => exact absurd (List.mem_cons_self ..) h
  | case6 slashes fuel c cs _ _ ih =>
    rw [shownChars, ih (List.not_mem_of_not_mem_cons h)]
    simp [Except.map]

/-- A plain text is shown as it is. -/
theorem render_eq_self (h : Plain s) : render s = .ok s := by
  have hbracket : '[' ∉ s.toList := fun hmem => (h _ hmem).1 rfl
  have hkept : s.toList.filter (!isControl ·) = s.toList :=
    List.filter_eq_self.mpr fun c hc => by rw [(h c hc).2]; rfl
  rw [render, shownChars_pieces hbracket]
  simp only [Except.map, List.replicate_zero, List.nil_append, hkept, String.ofList_toList]

end

end ContextSlice.Shell.Markup
