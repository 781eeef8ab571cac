import ContextSlice.Session.Resolution
import ContextSlice.Text.LowerCase
import Mathlib.Data.List.Basic

/-!
# Lower case once and for all

A text in lower case is its own lower case (`Text.lower_lower`), and whether its backslashes are
replaced by slashes before or after makes no difference (`Text.lower_replaceChar`). Both rest on one
check of the case data: what a run of capitals moves to lies in no run (`Text.CaseRun.outside`),
so a small letter is left alone by `Text.lowerChar` (`Text.Small`).
-/

namespace ContextSlice

namespace Text

/-! ## Where capitals move to -/

namespace CaseRun

/-- The code point of the first small letter of a run. -/
def low (run : CaseRun) : Nat := (run.first + run.shift).toNat

/-- The code point of the last small letter of a run. -/
def high (run : CaseRun) : Nat := (run.last + run.shift).toNat

/-- The distance of the small letters; of a single one it may be taken as two. -/
def distance (run : CaseRun) : Nat := if run.first = run.last then 2 else run.step

/-- Whether a run has none of the code points from `low` to `high` at a distance: it lies below or
above them, or else both go in steps of two past each other. -/
def outside (low high distance : Nat) (run : CaseRun) : Bool :=
  Nat.blt high run.first || Nat.blt run.last low ||
    (Nat.beq distance 2 && Nat.beq run.step 2 && Nat.beq ((low + run.first) % 2) 1)

/-- A run of capital letters holds no code point of a range that lies outside it. -/
theorem not_holds_of_outside {low high distance n : Nat} {run : CaseRun}
    (h : run.outside low high distance = true) (hlow : low ≤ n) (hhigh : n ≤ high)
    (hn : (n - low) % distance = 0) : run.holds n = false := by
  simp only [outside, Bool.or_eq_true, Bool.and_eq_true, Nat.blt_eq, Nat.beq_eq] at h
  simp only [holds, Bool.and_eq_false_iff, decide_eq_false_iff_not, beq_eq_false_iff_ne]
  rcases h with (h | h) | ⟨⟨hd, hs⟩, hp⟩
  · exact .inl (.inl (by omega))
  · exact .inl (.inr (by omega))
  · rw [hd] at hn
    rw [hs]
    omega

end CaseRun

/-- What no small letter is: the surrogates, the two capitals that are in no run, and the
backslash. -/
def notSmall : List CaseRun :=
  [⟨0xD800, 0xDFFF, 1, 0⟩, ⟨0x3A3, 0x3A3, 1, 0⟩, ⟨0x130, 0x130, 1, 0⟩, ⟨0x5C, 0x5C, 1, 0⟩]

/-- The small letters of the case data are in no run. -/
theorem outside_of_mem_caseRuns {run other : CaseRun} (hr : run ∈ caseRuns)
    (ho : other ∈ notSmall ++ caseRuns) :
    0 ≤ run.first + run.shift ∧ run.high < 0x110000 ∧
      other.outside run.low run.high run.distance = true := by
  have hcheck : (caseRuns.all fun run =>
      0 ≤ run.first + run.shift && Nat.blt run.high 0x110000 &&
        (notSmall ++ caseRuns).all (CaseRun.outside run.low run.high run.distance)) = true := by
    decide +kernel
  have hrun := List.all_eq_true.mp hcheck run hr
  simp only [Bool.and_eq_true, decide_eq_true_eq, Nat.blt_eq] at hrun
  exact ⟨hrun.1.1, hrun.1.2, List.all_eq_true.mp hrun.2 other ho⟩

/-- A run moves its capitals to where its small letters are. -/
theorem CaseRun.shifted_bounds {run : CaseRun} {n : Nat} (hn : run.holds n = true) :
    run.low ≤ (n + run.shift).toNat ∧ (n + run.shift).toNat ≤ run.high := by
  simp only [holds, Bool.and_eq_true, decide_eq_true_eq] at hn
  unfold low high
  omega

/-- The code point that a run moves one of its capitals to is in no run, and is none that a small
letter cannot have. -/
theorem not_holds_shifted {run : CaseRun} {n : Nat} (hr : run ∈ caseRuns) (hn : run.holds n = true) :
    (n + run.shift).toNat < 0x110000 ∧
      ∀ other ∈ notSmall ++ caseRuns, other.holds (n + run.shift).toNat = false := by
  obtain ⟨hlow, hhigh⟩ := CaseRun.shifted_bounds hn
  simp only [CaseRun.holds, Bool.and_eq_true, decide_eq_true_eq, beq_iff_eq] at hn
  obtain ⟨⟨hfirst, hlast⟩, hstep⟩ := hn
  refine ⟨?_, fun other ho => ?_⟩
  · have hmem : (⟨0xD800, 0xDFFF, 1, 0⟩ : CaseRun) ∈ notSmall ++ caseRuns := List.mem_cons_self
    exact Nat.lt_of_le_of_lt hhigh (outside_of_mem_caseRuns hr hmem).2.1
  · obtain ⟨hpos, -, hout⟩ := outside_of_mem_caseRuns hr ho
    refine CaseRun.not_holds_of_outside hout hlow hhigh ?_
    have hdiff : (n + run.shift).toNat - run.low = n - run.first := by
      unfold CaseRun.low
      omega
    rw [hdiff, CaseRun.distance]
    split
    · omega
    · exact hstep

/-- What a run moves one of its capitals to is a character. -/
theorem toNat_shifted {run : CaseRun} {n : Nat} (hr : run ∈ caseRuns) (hn : run.holds n = true) :
    (Char.ofNat (n + run.shift).toNat).toNat = (n + run.shift).toNat := by
  obtain ⟨hlt, hnot⟩ := not_holds_shifted hr hn
  have hsurrogate := hnot ⟨0xD800, 0xDFFF, 1, 0⟩ (by simp [notSmall])
  simp only [CaseRun.holds, Nat.mod_one, beq_self_eq_true, Bool.and_true,
    Bool.and_eq_false_iff, decide_eq_false_iff_not] at hsurrogate
  have hvalid : (n + run.shift).toNat.isValidChar := by
    unfold Nat.isValidChar
    omega
  rw [Char.ofNat, dif_pos hvalid]
  rfl

/-! ## Small letters -/

/-- A character that is its own small form, and no capital sigma. -/
structure Small (c : Char) : Prop where
  lowerChar_eq : lowerChar c = [c]
  ne_sigma : c ≠ 'Σ'

/-- What is in no run, and is none of the capitals that are in none, is a small letter. -/
theorem Small.of_not_holds {c : Char}
    (h : ∀ run ∈ notSmall ++ caseRuns, run.holds c.toNat = false) : Small c := by
  have hsigma : c ≠ 'Σ' := by
    rintro rfl
    exact absurd (h ⟨0x3A3, 0x3A3, 1, 0⟩ (by simp [notSmall])) (by decide)
  have hdotted : c ≠ 'İ' := by
    rintro rfl
    exact absurd (h ⟨0x130, 0x130, 1, 0⟩ (by simp [notSmall])) (by decide)
  refine ⟨?_, hsigma⟩
  unfold lowerChar
  split
  · have hcap := h ⟨0x41, 0x5A, 1, 32⟩ (List.mem_append_right notSmall List.mem_cons_self)
    simp only [CaseRun.holds, Nat.mod_one, beq_self_eq_true, Bool.and_true, Bool.and_eq_false_iff,
      decide_eq_false_iff_not] at hcap
    have hnot : ¬(c.val ≥ 'A'.val ∧ c.val ≤ 'Z'.val) := by
      rintro ⟨ha, hz⟩
      have ha : 0x41 ≤ c.toNat := UInt32.le_iff_toNat_le.mp ha
      have hz : c.toNat ≤ 0x5A := UInt32.le_iff_toNat_le.mp hz
      omega
    exact congrArg (fun d : Char => [d]) (dif_neg hnot)
  · have hnone : caseRuns.find? (·.holds c.toNat) = none := List.find?_eq_none.mpr fun run hr => by
      simp [h run (List.mem_append_right notSmall hr)]
    rw [hnone]

/-- Where a character of a small form comes from: an ASCII character, the dotted capital, a run of
capitals, or a character that is its own small form. -/
theorem mem_lowerChar_cases {c d : Char} (hd : d ∈ lowerChar c) :
    (c.toNat < 128 ∧ d = c.toLower) ∨ (d = 'i' ∨ d = '\u0307') ∨
      (∃ run ∈ caseRuns, run.holds c.toNat = true ∧ d.toNat = (c.toNat + run.shift).toNat) ∨
      (lowerChar c = [c] ∧ d = c) := by
  unfold lowerChar at hd
  split at hd
  · rename_i hascii
    exact .inl ⟨hascii, List.mem_singleton.mp hd⟩
  · split at hd
    · exact .inr (.inl (List.mem_pair.mp hd))
    · split at hd
      · rename_i run hfind
        have hholds : run.holds c.toNat = true := by simpa using List.find?_some hfind
        have hrun := List.mem_of_find?_eq_some hfind
        refine .inr (.inr (.inl ⟨run, hrun, hholds, ?_⟩))
        rw [List.mem_singleton.mp hd, toNat_shifted hrun hholds]
      · rename_i hlarge hdotted _ hnone
        refine .inr (.inr (.inr ⟨?_, List.mem_singleton.mp hd⟩))
        rw [lowerChar, if_neg hlarge, if_neg hdotted, hnone]

/-- The small form of a character is made of small letters, and has a backslash only if it is that
of the backslash. -/
theorem small_of_mem_lowerChar {c d : Char} (hc : c ≠ 'Σ') (hd : d ∈ lowerChar c) :
    Small d ∧ (d = '\\' → c = '\\') := by
  obtain ⟨hascii, rfl⟩ | hdotted | ⟨run, hrun, hholds, htoNat⟩ | ⟨hself, rfl⟩ := mem_lowerChar_cases hd
  · have hcheck : ∀ n < 128, lowerChar (Char.ofNat n).toLower = [(Char.ofNat n).toLower] ∧
        (Char.ofNat n).toLower ≠ 'Σ' ∧
        ((Char.ofNat n).toLower = '\\' → Char.ofNat n = '\\') := by
      decide
    obtain ⟨hlower, hsigma, hslash⟩ := hcheck c.toNat hascii
    rw [Char.ofNat_toNat] at hlower hsigma hslash
    exact ⟨⟨hlower, hsigma⟩, hslash⟩
  · have hi : Small 'i' := ⟨by decide, by decide⟩
    have hdot : Small '\u0307' := ⟨by decide, by decide⟩
    rcases hdotted with rfl | rfl
    · exact ⟨hi, fun h => absurd h (by decide)⟩
    · exact ⟨hdot, fun h => absurd h (by decide)⟩
  · obtain ⟨-, hnot⟩ := not_holds_shifted hrun hholds
    have hslash := hnot ⟨0x5C, 0x5C, 1, 0⟩ (by simp [notSmall])
    simp only [CaseRun.holds, Nat.mod_one, beq_self_eq_true, Bool.and_true,
      Bool.and_eq_false_iff, decide_eq_false_iff_not] at hslash
    refine ⟨.of_not_holds fun other ho => htoNat ▸ hnot other ho, fun h => ?_⟩
    rw [← htoNat, h] at hslash
    exact absurd hslash (by decide)
  · exact ⟨⟨hself, hc⟩, id⟩

/-- A capital sigma becomes a small letter, wherever it stands. -/
theorem small_lowerSigma (before after : List Char) : Small (lowerSigma before after) := by
  unfold lowerSigma
  split
  · exact ⟨by decide, by decide⟩
  · exact ⟨by decide, by decide⟩

/-! ## Texts -/

/-- A text in lower case is made of small letters. -/
theorem small_of_mem_lowerAfter {before cs : List Char} {d : Char}
    (hd : d ∈ lowerAfter before cs) : Small d := by
  induction cs generalizing before with
  | nil => cases hd
  | cons c cs ih =>
    rw [lowerAfter, List.mem_append] at hd
    rcases hd with hd | hd
    · split at hd
      · rw [List.mem_singleton.mp hd]
        exact small_lowerSigma before cs
      · rename_i hc
        exact (small_of_mem_lowerChar hc hd).1
    · exact ih hd

/-- Small letters are left alone. -/
theorem lowerAfter_eq_self {before cs : List Char} (h : ∀ c ∈ cs, Small c) :
    lowerAfter before cs = cs := by
  induction cs generalizing before with
  | nil => rfl
  | cons c cs ih =>
    have hc := h c List.mem_cons_self
    rw [lowerAfter, if_neg hc.ne_sigma, hc.lowerChar_eq,
      ih fun d hd => h d (List.mem_cons_of_mem c hd), List.singleton_append]

/-- A text in lower case is its own lower case. -/
theorem lower_lower (s : String) : lower (lower s) = lower s := by
  unfold lower lowerChars
  rw [String.toList_ofList, lowerAfter_eq_self fun _ hc => small_of_mem_lowerAfter hc]

/-! ## Slashes for backslashes -/

/-- A slash in place of a backslash, and every other character as it is. -/
def unifySlash (c : Char) : Char := if c = '\\' then '/' else c

/-- Backslashes are made slashes character by character. -/
theorem replaceChar_eq_map (s : String) :
    replaceChar '\\' "/" s = String.ofList (s.toList.map unifySlash) := by
  have hsingle : ∀ c : Char, (if c = '\\' then "/".toList else [c]) = [unifySlash c] := by
    intro c
    unfold unifySlash
    split <;> rfl
  rw [replaceChar, List.map_eq_flatMap]
  simp only [hsingle]

/-- Neither of the two slashes has to do with the case of a neighbour. -/
theorem meetsCased_map (cs : List Char) : meetsCased (cs.map unifySlash) = meetsCased cs := by
  have hslash : ∀ c, caseIgnorable.contains (unifySlash c) = caseIgnorable.contains c ∧
      casedLetters.contains (unifySlash c) = casedLetters.contains c := by
    intro c
    unfold unifySlash
    split
    · subst c
      decide +kernel
    · exact ⟨rfl, rfl⟩
  induction cs with
  | nil => rfl
  | cons c cs ih => rw [List.map_cons, meetsCased, meetsCased, ih, (hslash c).1, (hslash c).2]

/-- Making slashes alike and making letters small may change places. -/
theorem lowerChar_unifySlash {c : Char} (hc : c ≠ 'Σ') :
    lowerChar (unifySlash c) = (lowerChar c).map unifySlash := by
  by_cases hslash : c = '\\'
  · subst hslash
    decide
  · have hsame : ∀ d ∈ lowerChar c, unifySlash d = d := fun d hd =>
      if_neg fun h => hslash ((small_of_mem_lowerChar hc hd).2 h)
    rw [unifySlash, if_neg hslash, List.map_congr_left hsame, List.map_id']

/-- They may do so in a whole text, whatever stands before it. -/
theorem lowerAfter_map_unifySlash (before cs : List Char) :
    lowerAfter (before.map unifySlash) (cs.map unifySlash) =
      (lowerAfter before cs).map unifySlash := by
  induction cs generalizing before with
  | nil => rfl
  | cons c cs ih =>
    rw [List.map_cons, lowerAfter, lowerAfter, ← List.map_cons, ih, List.map_append]
    congr 1
    by_cases hc : c = 'Σ'
    · subst hc
      have hsigma : ∀ before after, unifySlash (lowerSigma before after) =
          lowerSigma before after := by
        intro before after
        unfold lowerSigma
        split <;> decide
      rw [if_pos (by decide), if_pos rfl, List.map_singleton, hsigma, lowerSigma, lowerSigma,
        meetsCased_map, meetsCased_map]
    · have hne : unifySlash c ≠ 'Σ' := by
        unfold unifySlash
        split
        · decide
        · exact hc
      rw [if_neg hne, if_neg hc, lowerChar_unifySlash hc]

/-- Backslashes may be replaced by slashes before or after a text is put in lower case. -/
theorem lower_replaceChar (s : String) :
    lower (replaceChar '\\' "/" s) = replaceChar '\\' "/" (lower s) := by
  have h := lowerAfter_map_unifySlash [] s.toList
  rw [replaceChar_eq_map, replaceChar_eq_map, lower, lower, String.toList_ofList,
    String.toList_ofList, lowerChars, lowerChars, ← h, List.map_nil]

end Text

/-- The name of a file is the same for matching if it is in lower case. -/
theorem normalFile_congr {s t : String} (h : Text.lower s = Text.lower t) :
    normalFile s = normalFile t := by
  rw [normalFile, normalFile, Text.lower_replaceChar, Text.lower_replaceChar, h]

end ContextSlice
