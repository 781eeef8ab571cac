import ContextSlice.Proofs.Text.LowerCase
import ContextSlice.Text.Blank
import Mathlib.Data.List.DropRight

/-!
# Texts without blanks at their ends

Trimming leaves no blank at either end of a text, and a text without such blanks as it is (`Text.Trimmed`).
Blanks and commas have nothing to do with lower case (`Text.caseless`): they are no capitals, and nothing
becomes one of them. So a text in lower case has a comma or a blank at its end only if the text itself has
(`Text.mem_of_mem_lowerAfter`, `Text.getLast?_of_lowerAfter`).
-/

namespace ContextSlice.Text

section
variable {p : Char → Bool} {cs before : List Char} {c d : Char}

/-! ## Trimming -/

/-- A list whose first and last characters are not blank. -/
structure Trimmed (cs : List Char) : Prop where
  first : ∀ c ∈ cs.head?, isBlank c = false
  last : ∀ c ∈ cs.getLast?, isBlank c = false

/-- Where there are no blanks at the ends none are trimmed. -/
theorem Trimmed.trimBy_eq (h : Trimmed cs) : trimBy isBlank cs = cs := by
  have hfirst : cs.dropWhile isBlank = cs := by
    cases cs with
    | nil => rfl
    | cons c cs => rw [List.dropWhile_cons_of_neg (by simp [h.first c rfl])]
  have hlast : cs.rdropWhile isBlank = cs := by
    refine List.rdropWhile_eq_self_iff.mpr fun hne => ?_
    rw [h.last _ (List.getLast?_eq_some_getLast hne)]
    exact Bool.false_ne_true
  rw [trimBy, hfirst]
  exact hlast

/-- What has been trimmed has no blanks at its ends. -/
theorem trimmed_trimBy (cs : List Char) : Trimmed (trimBy isBlank cs) := by
  refine ⟨fun c hc => ?_, fun c hc => ?_⟩
  · obtain ⟨rest, hrest⟩ := List.rdropWhile_prefix isBlank (cs.dropWhile isBlank)
    have hhead : (cs.dropWhile isBlank).head? = some c := by
      rw [← hrest, List.head?_append]
      exact Option.or_eq_some_iff.mpr (.inl hc)
    have hnot := List.head?_dropWhile_not isBlank cs
    rwa [hhead] at hnot
  · obtain ⟨hne, rfl⟩ := List.mem_getLast?_eq_getLast hc
    exact Bool.eq_false_iff.mpr (List.rdropWhile_last_not isBlank _ hne)

/-- Trimming adds no characters. -/
theorem mem_of_mem_trimBy (h : c ∈ trimBy p cs) : c ∈ cs :=
  (List.dropWhile_suffix p).mem ((List.rdropWhile_prefix p (cs.dropWhile p)).mem h)

/-- A blank in front does not matter. -/
theorem trimBy_cons (hc : p c = true) : trimBy p (c :: cs) = trimBy p cs := by
  rw [trimBy, List.dropWhile_cons_of_pos hc, trimBy]

/-! ## Blanks and commas in lower case -/

/-- Characters that have nothing to do with case: the comma and all blanks. -/
def caseless : CodeRanges := (0x2C, 0x2C) :: blanks

/-- Blanks are neither small nor capital. -/
theorem caseless_of_isBlank (h : isBlank c = true) : caseless.contains c = true := by
  rw [caseless, CodeRanges.contains, List.any_cons]
  exact Bool.or_eq_true_iff.mpr (.inr h)

/-- No run of capitals moves one of them to such a character. -/
theorem caseless_outside {run : CaseRun} (h : run ∈ caseRuns) :
    ∀ range ∈ caseless, run.high < range.1 ∨ range.2 < run.low := by
  have hcheck : ∀ run ∈ caseRuns, ∀ range ∈ caseless, run.high < range.1 ∨ range.2 < run.low := by
    decide +kernel
  exact hcheck run h

/-- A character that is neither small nor capital comes from itself only. -/
theorem eq_of_mem_lowerChar (hd : d ∈ lowerChar c) (h : caseless.contains d = true) : d = c := by
  obtain ⟨hascii, rfl⟩ | hdotted | ⟨run, hrun, hholds, htoNat⟩ | ⟨-, heq⟩ := mem_lowerChar_cases hd
  · have hcheck : ∀ n < 128, caseless.contains (Char.ofNat n).toLower = true →
        (Char.ofNat n).toLower = Char.ofNat n := by
      decide
    have hlower := hcheck c.toNat hascii
    rw [Char.ofNat_toNat] at hlower
    exact hlower h
  · rcases hdotted with rfl | rfl
    · exact absurd h (by decide)
    · exact absurd h (by decide)
  · obtain ⟨hlow, hhigh⟩ := CaseRun.shifted_bounds hholds
    rw [CodeRanges.contains, htoNat] at h
    obtain ⟨range, hrange, hin⟩ := List.any_eq_true.mp h
    simp only [Bool.and_eq_true, decide_eq_true_eq] at hin
    have hout := caseless_outside hrun range hrange
    omega
  · exact heq

/-- No character is lost in lower case. -/
theorem lowerChar_ne_nil (c : Char) : lowerChar c ≠ [] := by
  unfold lowerChar
  split
  · simp
  · split
    · simp
    · split <;> simp

/-- Either small sigma is a letter with case. -/
theorem not_caseless_lowerSigma (before after : List Char) :
    caseless.contains (lowerSigma before after) = false := by
  unfold lowerSigma
  split <;> decide

/-- Such a character in lower case is one of the text itself. -/
theorem mem_of_mem_lowerAfter (hd : d ∈ lowerAfter before cs) (h : caseless.contains d = true) : d ∈ cs := by
  induction cs generalizing before with
  | nil => exact hd
  | cons c cs ih =>
    rw [lowerAfter, List.mem_append] at hd
    rcases hd with hd | hd
    · split at hd
      · rw [List.mem_singleton.mp hd, not_caseless_lowerSigma] at h
        cases h
      · rw [eq_of_mem_lowerChar hd h]
        exact List.mem_cons_self
    · exact List.mem_cons_of_mem c (ih hd)

/-- A text that is not empty is not empty in lower case. -/
theorem lowerAfter_ne_nil (h : cs ≠ []) : lowerAfter before cs ≠ [] := by
  cases cs with
  | nil => exact absurd rfl h
  | cons c cs =>
    rw [lowerAfter]
    refine List.append_ne_nil_of_left_ne_nil ?_ _
    split
    · simp
    · exact lowerChar_ne_nil c

/-- Such a character at the end in lower case is at the end of the text itself. -/
theorem getLast?_of_lowerAfter (hd : (lowerAfter before cs).getLast? = some d)
    (h : caseless.contains d = true) : cs.getLast? = some d := by
  induction cs generalizing before with
  | nil => exact hd
  | cons c cs ih =>
    cases cs with
    | nil =>
      have hmem : d ∈ [c] := mem_of_mem_lowerAfter (List.mem_of_getLast? hd) h
      rw [List.mem_singleton.mp hmem]
      rfl
    | cons e es =>
      rw [lowerAfter, List.getLast?_append_of_ne_nil _ (lowerAfter_ne_nil (by simp))] at hd
      rw [List.getLast?_cons_cons]
      exact ih hd

end

end ContextSlice.Text
