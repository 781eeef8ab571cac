import ContextSlice.Text.Search
import Mathlib.Data.List.Basic

/-!
# The pieces of a text

Cutting a text at a separator is `List.splitOn` of the library (`Text.splitChars_eq_splitOn`), so pieces are
put together again with the separator between them, and cutting after that gives the pieces back. The pieces
of one text are the last pieces of another one if the texts are the same or the second one ends with the
first one after a separator (`Text.splitChars_suffix_iff`).
-/

namespace ContextSlice.Text

section
variable {separator : Char} {cs ds piece : List Char} {pieces more : List (List Char)}

/-- The pieces are those of the library. -/
theorem splitChars_eq_splitOn (separator : Char) (cs : List Char) :
    splitChars separator cs = cs.splitOn separator := by
  induction cs with
  | nil => rfl
  | cons c cs ih =>
    rw [splitChars, ih, List.splitOn, List.splitOn, List.splitOnP_cons_eq_if_modifyHead]
    simp only [beq_iff_eq]
    split
    · rfl
    · split
      · rename_i hnil
        exact absurd hnil (List.splitOn_ne_nil separator cs)
      · rename_i hpieces
        rw [hpieces]
        rfl

/-- There is always a piece. -/
theorem splitChars_ne_nil (separator : Char) (cs : List Char) : splitChars separator cs ≠ [] := by
  rw [splitChars_eq_splitOn]
  exact List.splitOn_ne_nil separator cs

/-- The pieces with separators between them are the text. -/
theorem intercalate_splitChars (separator : Char) (cs : List Char) :
    [separator].intercalate (splitChars separator cs) = cs := by
  rw [splitChars_eq_splitOn, List.intercalate_splitOn]

/-- Pieces without separators are what a text is cut into that has separators between them. -/
theorem splitChars_intercalate (h : ∀ piece ∈ pieces, separator ∉ piece) (hne : pieces ≠ []) :
    splitChars separator ([separator].intercalate pieces) = pieces := by
  rw [splitChars_eq_splitOn, List.splitOn_intercalate separator h hne]

/-- No piece has the separator in it. -/
theorem notMem_of_mem_splitChars (h : piece ∈ splitChars separator cs) : separator ∉ piece := by
  induction cs generalizing piece with
  | nil =>
    rw [List.mem_singleton.mp h]
    exact List.not_mem_nil
  | cons c cs ih =>
    rw [splitChars] at h
    split at h
    · rcases List.mem_cons.mp h with rfl | h
      · exact List.not_mem_nil
      · exact ih h
    · rename_i hc
      split at h
      · rw [List.mem_singleton.mp h]
        exact fun hmem => hc (List.mem_singleton.mp hmem).symm
      · rename_i first pieces hpieces
        rw [hpieces] at ih
        have hall : ∀ piece ∈ first :: pieces, separator ∉ piece := fun _ hp => ih hp
        obtain ⟨hfirst, hrest⟩ := List.forall_mem_cons.mp hall
        rcases List.mem_cons.mp h with rfl | h
        · exact List.not_mem_cons_of_ne_of_not_mem (Ne.symm hc) hfirst
        · exact hrest piece h

/-- There is a separator between two groups of pieces, too. -/
theorem intercalate_append (h : pieces ≠ []) (hm : more ≠ []) :
    [separator].intercalate (pieces ++ more) =
      [separator].intercalate pieces ++ separator :: [separator].intercalate more := by
  induction pieces with
  | nil => exact absurd rfl h
  | cons piece pieces ih =>
    by_cases hp : pieces = []
    · subst hp
      rw [List.singleton_append, List.intercalate_cons_of_ne_nil hm, List.intercalate_singleton,
        List.append_assoc, List.singleton_append]
    · rw [List.cons_append, List.intercalate_cons_of_ne_nil (List.append_ne_nil_of_left_ne_nil hp more),
        ih hp, List.intercalate_cons_of_ne_nil hp]
      simp only [List.append_assoc]

/-- The pieces of one text are the last pieces of another one if the second text is the first one, or ends
with it after a separator. -/
theorem splitChars_suffix_iff :
    splitChars separator ds <:+ splitChars separator cs ↔ cs = ds ∨ separator :: ds <:+ cs := by
  constructor
  · rintro ⟨pieces, hpieces⟩
    rw [← intercalate_splitChars separator cs, ← hpieces]
    by_cases hp : pieces = []
    · left
      rw [hp, List.nil_append, intercalate_splitChars]
    · right
      refine ⟨[separator].intercalate pieces, ?_⟩
      rw [intercalate_append hp (splitChars_ne_nil separator ds), intercalate_splitChars]
  · rintro (rfl | ⟨before, rfl⟩)
    · exact List.suffix_rfl
    · refine ⟨splitChars separator before, ?_⟩
      simp only [splitChars_eq_splitOn, List.splitOn_append_cons_self]

end

end ContextSlice.Text
