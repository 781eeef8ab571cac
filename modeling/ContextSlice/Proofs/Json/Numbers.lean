import ContextSlice.Json.Printer
import ContextSlice.Proofs.Json.MadeOf
import Mathlib.Algebra.Group.Nat.Defs
import Mathlib.Data.List.TakeWhile

/-!
# Reading numbers that have been written

What may follow a value on the lines of a printed text is a comma or the end of the line
(`Json.Breaks`). A number is read up to there and no further (`Json.readNumber_append`). So the text of a
whole number that is not too long is read as that number (`Json.readScalar_intChars`), and the text of a
double as that double, if this is so when the text stands alone (`Json.readScalar_realChars`).
-/

namespace ContextSlice

/-! ## The characters of doubles -/

/-- Whether a character may be in the text of a number. -/
def isNumberChar (c : Char) : Bool := c.isDigit || ['-', '+', '.', 'e'].contains c

theorem isNumberChar_toDigits (n : Nat) : (Nat.toDigits 10 n).all isNumberChar = true := by
  rw [List.all_eq_true]
  intro c hc
  simp [isNumberChar, Nat.isDigit_of_mem_toDigits (by decide) (Nat.le_refl 10) hc]

/-- Digits with a point, or with an exponent, may stand in a number. -/
theorem isNumberChar_decimalChars {digits : List Char} (h : digits.all isNumberChar = true)
    (place : Int) : (decimalChars digits place).all isNumberChar = true := by
  have hzero : isNumberChar '0' = true := by decide
  have hpoint : isNumberChar '.' = true := by decide
  have hexponent (e : Int) : (exponentChars e).all isNumberChar = true := by
    have hminus : isNumberChar '-' = true := by decide
    have hplus : isNumberChar '+' = true := by decide
    unfold exponentChars
    dsimp only
    split <;> split <;> simp [hzero, hminus, hplus, isNumberChar_toDigits]
  have htake (n : Nat) : (digits.take n).all isNumberChar = true := by
    rw [List.all_eq_true] at h ⊢
    exact fun c hc => h c (List.mem_of_mem_take hc)
  have hdrop (n : Nat) : (digits.drop n).all isNumberChar = true := by
    rw [List.all_eq_true] at h ⊢
    exact fun c hc => h c (List.mem_of_mem_drop hc)
  have hreplicate (n : Nat) : (List.replicate n '0').all isNumberChar = true := by
    rw [List.all_eq_true]
    intro c hc
    rw [(List.mem_replicate.mp hc).2, hzero]
  unfold decimalChars
  dsimp only
  split
  · have he : isNumberChar 'e' = true := by decide
    split <;> simp only [List.all_append, List.all_cons, List.all_nil, htake, hdrop, hexponent, he, hpoint,
      Bool.and_true]
  · split
    · simp only [List.all_append, List.all_cons, h, hzero, hpoint, hreplicate, Bool.and_true]
    · split <;> simp only [List.all_append, List.all_cons, List.all_nil, htake, hdrop, hreplicate, hzero,
        hpoint, Bool.and_true]

/-- All characters of a finite double may stand in a number. -/
theorem Double.isNumberChar_chars {x : Double} {negative : Bool} {mantissa : Nat} {exponent : Int}
    (h : x.shape = .finite negative mantissa exponent) : x.chars.all isNumberChar = true := by
  rw [Double.chars, h]
  dsimp only
  rw [List.all_append, Bool.and_eq_true]
  constructor
  · cases negative <;> decide
  · split
    · decide
    · refine isNumberChar_decimalChars ?_ _
      have hdigits := isNumberChar_toDigits (shortest mantissa exponent).1
      rw [List.all_eq_true] at hdigits ⊢
      intro c hc
      refine hdigits c ?_
      rw [dropZeros, List.mem_reverse] at hc
      exact List.mem_reverse.mp ((List.dropWhile_suffix _).subset hc)

namespace Json

/-! ## Where a number ends -/

/-- What may follow a value on printed lines: nothing, a comma or the end of the line. -/
def Breaks (rest : List Char) : Prop := ∀ c ∈ rest.head?, c = ',' ∨ c = '\n'

section
variable {rest cs left : List Char} {value : Json}

theorem Breaks.nil : Breaks [] := fun _ h => by cases h

theorem Breaks.comma (rest : List Char) : Breaks (',' :: rest) := by simp [Breaks]

theorem Breaks.line (rest : List Char) : Breaks ('\n' :: rest) := by simp [Breaks]

/-- Digits are split off up to a break. -/
theorem Breaks.spanDigits (h : Breaks rest) (cs : List Char) :
    spanDigits (cs ++ rest) = ((spanDigits cs).1, (spanDigits cs).2 ++ rest) := by
  induction cs with
  | nil =>
    cases rest with
    | nil => rfl
    | cons c rest => rcases h c rfl with rfl | rfl <;> rfl
  | cons c cs ih =>
    simp only [Json.spanDigits, Prod.mk.injEq] at ih
    by_cases hc : c.isDigit = true <;> simp [Json.spanDigits, hc, ih]

/-- What ends a number stays behind its whole part. -/
theorem Breaks.spanWhole (h : Breaks rest) (cs : List Char) :
    spanWhole (cs ++ rest) = ((spanWhole cs).1, (spanWhole cs).2 ++ rest) := by
  cases cs with
  | nil =>
    cases rest with
    | nil => rfl
    | cons c rest => rcases h c rfl with rfl | rfl <;> rfl
  | cons c cs =>
    by_cases hc : c = '0'
    · subst hc
      rfl
    · rw [Json.spanWhole.eq_2 (c :: cs) (by simp [hc]), ← h.spanDigits]
      exact Json.spanWhole.eq_2 _ (by simp [hc])

theorem Breaks.spanFraction (h : Breaks rest) (cs : List Char) :
    spanFraction (cs ++ rest) = ((spanFraction cs).1, (spanFraction cs).2 ++ rest) := by
  cases cs with
  | nil =>
    cases rest with
    | nil => rfl
    | cons c rest => rcases h c rfl with rfl | rfl <;> rfl
  | cons c cs =>
    by_cases hc : c = '.'
    · subst hc
      rw [List.cons_append, Json.spanFraction, Json.spanFraction, h.spanDigits]
      split <;> rfl
    · rw [Json.spanFraction.eq_2 (c :: cs) (by simp [hc])]
      exact Json.spanFraction.eq_2 _ (by simp [hc])

theorem Breaks.spanExponent (h : Breaks rest) (cs : List Char) :
    spanExponent (cs ++ rest) = ((spanExponent cs).1, (spanExponent cs).2 ++ rest) := by
  cases cs with
  | nil =>
    cases rest with
    | nil => rfl
    | cons c rest => rcases h c rfl with rfl | rfl <;> rfl
  | cons c cs =>
    rw [List.cons_append]
    unfold Json.spanExponent
    dsimp only
    split
    · cases cs with
      | nil =>
        cases rest with
        | nil => rfl
        | cons c rest => rcases h c rfl with rfl | rfl <;> rfl
      | cons d ds =>
        by_cases hminus : d = '-'
        · subst hminus
          simp only [List.cons_append, h.spanDigits]
          split <;> rfl
        · by_cases hplus : d = '+'
          · subst hplus
            simp only [List.cons_append, h.spanDigits]
            split <;> rfl
          · have hdigits := h.spanDigits (d :: ds)
            rw [List.cons_append] at hdigits ⊢
            simp only [List.cons.injEq, hminus, hplus, false_and, imp_self, implies_true, hdigits,
              Bool.false_eq_true, ↓reduceIte]
            split <;> rfl
    · rfl

/-- A number is read up to a break. -/
theorem readNumber_append (h : readNumber cs = .ok (value, left)) (hr : Breaks rest) :
    readNumber (cs ++ rest) = .ok (value, left ++ rest) := by
  cases cs with
  | nil => cases h
  | cons c cs =>
    by_cases hminus : c = '-'
    on_goal 1 =>
      subst hminus
      simp only [readNumber, List.cons_append] at h ⊢
    on_goal 2 =>
      simp only [readNumber, List.cons.injEq, hminus, false_and, imp_self, implies_true, List.cons_append]
        at h ⊢
      rw [← List.cons_append]
    all_goals
      rw [hr.spanWhole]
      dsimp only
      rw [hr.spanFraction]
      dsimp only
      rw [hr.spanExponent]
      dsimp only
      split at h
      · cases h
      · rename_i hwhole
        rw [if_neg hwhole]
        split at h
        · rename_i hint
          rw [if_pos hint]
          split at h
          · cases h
          · rename_i hlimit
            rw [if_neg hlimit]
            cases h
            rfl
        · rename_i hreal
          rw [if_neg hreal]
          cases h
          rfl

end

/-! ## Whole numbers -/

/-- The value of digits is that of the core library. -/
theorem digitsValue_eq (cs : List Char) : digitsValue cs = Nat.ofDigitChars 10 cs 0 := by
  rw [digitsValue, Nat.ofDigitChars]
  congr 1
  funext n c
  rw [Nat.mul_comm]
  rfl

/-- The digits of a number have its value. -/
theorem digitsValue_toDigits (n : Nat) : digitsValue (Nat.toDigits 10 n) = n := by
  rw [digitsValue_eq, Nat.ofDigitChars_ten_toDigits]

/-- A number has no zero before its other digits. -/
theorem head?_toDigits {n : Nat} (h : 0 < n) : (Nat.toDigits 10 n).head? ≠ some '0' := by
  induction n using Nat.strongRecOn with
  | ind n ih =>
    by_cases hn : n < 10
    · have hdigit : ∀ d < 10, 0 < d → Nat.digitChar d ≠ '0' := by decide
      rw [Nat.toDigits_of_lt_base hn]
      simpa using hdigit n hn h
    · have hten : 10 ≤ n := Nat.le_of_not_lt hn
      rw [Nat.toDigits_of_base_le (by decide) hten, List.head?_append]
      have hhead := ih (n / 10) (by omega) (by omega)
      cases hdigits : (Nat.toDigits 10 (n / 10)).head? with
      | none => exact absurd (List.head?_eq_none_iff.mp hdigits) Nat.toDigits_ne_nil
      | some c =>
        rw [hdigits] at hhead
        exact hhead

theorem isDigit_toDigits {n : Nat} {c : Char} (h : c ∈ Nat.toDigits 10 n) : c.isDigit = true :=
  Nat.isDigit_of_mem_toDigits (by decide) (Nat.le_refl 10) h

/-- The digits of a number are a whole part: they begin with a zero only if they are a zero alone. -/
theorem spanWhole_toDigits (n : Nat) : spanWhole (Nat.toDigits 10 n) = (Nat.toDigits 10 n, []) := by
  cases n with
  | zero => rfl
  | succ n =>
    have hspan : spanDigits (Nat.toDigits 10 (n + 1)) = (Nat.toDigits 10 (n + 1), []) := by
      rw [spanDigits, List.dropWhile_eq_nil_iff.mpr fun c => isDigit_toDigits, Prod.mk.injEq]
      exact ⟨List.takeWhile_eq_self_iff.mpr fun c => isDigit_toDigits, rfl⟩
    rw [spanWhole.eq_2 _ fun cs hcs => head?_toDigits (Nat.succ_pos n) (by rw [hcs]; rfl), hspan]

/-- The digits of a number that is not too long are read as that number. -/
theorem readNumber_intChars {n : Int} (h : (Nat.toDigits 10 n.natAbs).length ≤ digitLimit) :
    readNumber (intChars n) = .ok (.int n, []) := by
  cases n with
  | ofNat n =>
    have hsign : ∀ cs, Nat.toDigits 10 n ≠ '-' :: cs := fun cs hcs => by
      have hdigit : Char.isDigit '-' = true := isDigit_toDigits (by rw [hcs]; exact List.mem_cons_self)
      exact absurd hdigit (by decide)
    simp only [intChars, readNumber, spanWhole_toDigits]
    simpa [Nat.toDigits_ne_nil, spanFraction, spanExponent, digitsValue_toDigits] using h
  | negSucc n =>
    have hdigits : (Nat.toDigits 10 (n + 1)).length ≤ digitLimit := h
    simp only [intChars, readNumber, spanWhole_toDigits]
    simpa [Nat.toDigits_ne_nil, spanFraction, spanExponent, digitsValue_toDigits, Int.negSucc_eq]
      using hdigits

/-- A value is no whole number that has too many digits to be written or read. -/
def Brief (value : Json) : Prop :=
  ∀ n, value = .int n → (Nat.toDigits 10 n.natAbs).length ≤ digitLimit

/-- Digits stand for less than the power of ten with as many zeros. -/
theorem digitsValue_lt {cs : List Char} (h : ∀ c ∈ cs, c.isDigit = true) :
    digitsValue cs < 10 ^ cs.length := by
  induction cs using List.reverseRecOn with
  | nil => decide
  | append_singleton cs c ih =>
    have hvalue : digitsValue (cs ++ [c]) = digitsValue cs * 10 + (c.toNat - 48) := by
      rw [digitsValue, List.foldl_append]
      rfl
    have hdigit : 48 ≤ c.toNat ∧ c.toNat ≤ 57 :=
      Char.isDigit_iff_toNat.mp (h c (List.mem_append_right _ (List.mem_singleton_self c)))
    have hcs := ih fun d hd => h d (List.mem_append_left _ hd)
    rw [hvalue, List.length_append, List.length_singleton, Nat.pow_succ]
    omega

/-- A number has no more digits than any digits that stand for it. -/
theorem length_toDigits_digitsValue_le {cs : List Char} (h : cs ≠ []) (hd : ∀ c ∈ cs, c.isDigit = true) :
    (Nat.toDigits 10 (digitsValue cs)).length ≤ cs.length :=
  (Nat.length_toDigits_le_iff (by decide) (List.length_pos_iff.mpr h)).mpr (digitsValue_lt hd)

theorem isDigit_spanWhole {cs : List Char} : ∀ c ∈ (spanWhole cs).1, c.isDigit = true := by
  unfold spanWhole
  split
  · simp
  · exact fun c hc => List.mem_takeWhile_imp hc

/-- A whole number that is read does not have too many digits. -/
theorem brief_of_readNumber {cs left : List Char} {value : Json} (h : readNumber cs = .ok (value, left)) :
    value.Brief := by
  unfold readNumber at h
  split at h
  rename_i negative unsigned hsign
  dsimp only at h
  split at h
  · cases h
  · rename_i hwhole
    split at h
    · split at h
      · cases h
      · rename_i hlimit
        cases h
        have hdigits : ∀ c ∈ (spanWhole unsigned).1, c.isDigit = true := isDigit_spanWhole
        have hle := length_toDigits_digitsValue_le (by simpa using hwhole) hdigits
        rintro n hn
        cases hn
        have habs : (if negative = true then -(digitsValue (spanWhole unsigned).1 : Int)
            else digitsValue (spanWhole unsigned).1).natAbs = digitsValue (spanWhole unsigned).1 := by
          cases negative <;> simp
        rw [habs]
        exact hle.trans (Nat.le_of_not_lt hlimit)
    · cases h
      exact fun n hn => by cases hn

/-- A number or constant that is read is no whole number of too many digits. -/
theorem brief_of_readScalar {cs left : List Char} {value : Json} (h : readScalar cs = .ok (value, left)) :
    value.Brief := by
  unfold readScalar at h
  split at h
  · rename_i name found hf
    cases h
    have hconstants : ∀ constant ∈ constants, ∀ n, constant.2 ≠ .int n := by simp [constants]
    exact fun n hn => absurd hn (hconstants _ (List.mem_of_find?_eq_some hf) n)
  · exact brief_of_readNumber h

/-- What is read from a text has distinct names and no whole numbers of too many digits. -/
theorem madeOf_brief_of_read {s : String} {value : Json} (h : Json.read s = .ok value) :
    value.MadeOf Brief :=
  madeOf_of_read (fun _ _ hn => by cases hn) brief_of_readScalar h

/-! ## Scalars -/

section
variable {rest cs left : List Char} {value : Json}

/-- A whole part that is not empty begins with a digit. -/
theorem exists_digit_of_spanWhole (h : (spanWhole cs).1.isEmpty = false) :
    ∃ c more, cs = c :: more ∧ c.isDigit = true := by
  unfold spanWhole at h
  split at h
  · exact ⟨'0', _, rfl, by decide⟩
  · cases cs with
    | nil => cases h
    | cons c more =>
      by_cases hc : c.isDigit = true
      · exact ⟨c, more, rfl, hc⟩
      · simp [spanDigits, hc] at h

/-- A number begins with a digit, or with a minus and a digit. -/
theorem exists_digit_of_readNumber (h : readNumber cs = .ok (value, left)) :
    ∃ c more, c.isDigit = true ∧ (cs = c :: more ∨ cs = '-' :: c :: more) := by
  unfold readNumber at h
  split at h
  rename_i negative unsigned hsign
  dsimp only at h
  split at h
  · cases h
  · rename_i hwhole
    obtain ⟨c, more, rfl, hc⟩ := exists_digit_of_spanWhole (by simpa using hwhole)
    refine ⟨c, more, hc, ?_⟩
    split at hsign
    · cases hsign
      exact .inr rfl
    · cases hsign
      exact .inl rfl

/-- What can be read as a number does not begin with a constant. -/
theorem find?_constants_of_readNumber (h : readNumber cs = .ok (value, left)) (rest : List Char) :
    (constants.find? fun constant => constant.1.isPrefixOf (cs ++ rest)) = none := by
  obtain ⟨c, more, hc, hcs⟩ := exists_digit_of_readNumber h
  have hletter : ∀ letter ∈ ['n', 't', 'f', 'N', 'I', '-'], letter ≠ c := by
    rintro letter hmem rfl
    have hnone : ['n', 't', 'f', 'N', 'I', '-'].all (!·.isDigit) = true := by decide
    exact absurd hc (by simpa using List.all_eq_true.mp hnone _ hmem)
  simp only [List.forall_mem_cons] at hletter
  rcases hcs with rfl | rfl <;> simp [constants, hletter]

/-- A number is read as a scalar up to a break. -/
theorem readScalar_of_readNumber (h : readNumber cs = .ok (value, left)) (hr : Breaks rest) :
    readScalar (cs ++ rest) = .ok (value, left ++ rest) := by
  rw [readScalar, find?_constants_of_readNumber h]
  exact readNumber_append h hr

/-- The text of a whole number that is not too long is read as that number. -/
theorem readScalar_intChars {n : Int} (h : (Nat.toDigits 10 n.natAbs).length ≤ digitLimit)
    (hr : Breaks rest) : readScalar (intChars n ++ rest) = .ok (.int n, rest) :=
  readScalar_of_readNumber (readNumber_intChars h) hr

end

/-! ## Doubles -/

section
variable {cs left : List Char} {value : Json}

/-- What is left after a whole part is the end of the text. -/
theorem suffix_spanWhole (cs : List Char) : (spanWhole cs).2 <:+ cs := by
  unfold spanWhole
  split
  · exact List.suffix_cons _ _
  · exact List.dropWhile_suffix _

theorem suffix_spanFraction (cs : List Char) : (spanFraction cs).2 <:+ cs := by
  unfold spanFraction
  split
  · split
    · exact List.suffix_rfl
    · exact (List.dropWhile_suffix _).trans (List.suffix_cons _ _)
  · exact List.suffix_rfl

theorem suffix_spanExponent (cs : List Char) : (spanExponent cs).2 <:+ cs := by
  unfold spanExponent
  split
  · rename_i c cs
    split
    · split
      rename_i negative rest hsign
      have hrest : rest <:+ cs := by
        split at hsign <;> cases hsign
        · exact List.suffix_cons _ _
        · exact List.suffix_cons _ _
        · exact List.suffix_rfl
      dsimp only
      split
      · exact List.suffix_rfl
      · exact ((List.dropWhile_suffix _).trans hrest).trans (List.suffix_cons _ _)
    · exact List.suffix_rfl
  · exact List.suffix_rfl

/-- What is left after a number is the end of the characters. -/
theorem suffix_readNumber (h : readNumber cs = .ok (value, left)) : left <:+ cs := by
  unfold readNumber at h
  split at h
  rename_i negative unsigned hsign
  have hunsigned : unsigned <:+ cs := by
    split at hsign <;> cases hsign
    · exact List.suffix_cons _ _
    · exact List.suffix_rfl
  have hleft : (spanExponent (spanFraction (spanWhole unsigned).2).2).2 <:+ cs :=
    (((suffix_spanExponent _).trans (suffix_spanFraction _)).trans (suffix_spanWhole _)).trans hunsigned
  dsimp only at h
  split at h
  · cases h
  · split at h
    · split at h
      · cases h
      · cases h
        exact hleft
    · cases h
      exact hleft

/-- A number has no space at its start that would be skipped. -/
theorem skipSpace_of_all (h : cs.all isNumberChar = true) : skipSpace cs = cs := by
  cases cs with
  | nil => rfl
  | cons c cs =>
    have hspace : isSpace c = false := by
      by_contra hspace
      rw [Bool.not_eq_false] at hspace
      simp only [isSpace, Bool.or_eq_true, decide_eq_true_eq] at hspace
      rw [List.all_cons, Bool.and_eq_true] at h
      rcases hspace with ((rfl | rfl) | rfl) | rfl <;> exact absurd h.1 (by decide)
    rw [skipSpace, List.dropWhile_cons, hspace, if_neg Bool.false_ne_true]

/-- Characters of a number that are read as a value are read as a number. -/
theorem readNumber_of_readValue {fuel : Nat} (hcs : cs.all isNumberChar = true)
    (h : readValue (fuel + 1) cs = .ok (value, left)) : readNumber cs = .ok (value, left) := by
  rw [List.all_eq_true] at hcs
  rw [readValue.eq_def] at h
  dsimp only at h
  split at h
  · exact absurd (hcs '"' List.mem_cons_self) (by decide)
  · exact absurd (hcs '[' List.mem_cons_self) (by decide)
  · exact absurd (hcs '\x7b' List.mem_cons_self) (by decide)
  · unfold readScalar at h
    split at h
    · rename_i name found hfound
      have hletter : constants.all (fun constant => constant.1.any (!isNumberChar ·)) = true := by decide
      obtain ⟨c, hc, hnot⟩ :=
        List.any_eq_true.mp (List.all_eq_true.mp hletter _ (List.mem_of_find?_eq_some hfound))
      have hstart := List.find?_some hfound
      rw [List.isPrefixOf_iff_prefix] at hstart
      simp [hcs c (hstart.subset hc)] at hnot
    · exact h

/-- If the text of a double alone is read as that double, then so it is up to a break. -/
theorem readScalar_realChars {x : Double} {rest : List Char}
    (h : Json.read (Json.print (.real x)) = .ok (.real x)) (hr : Breaks rest) :
    readScalar (realChars x ++ rest) = .ok (.real x, rest) := by
  have hchars : readChars (realChars x) = .ok (.real x) := by
    have hchars := readChars_of_read h
    rwa [Json.print, String.toList_ofList] at hchars
  cases hshape : x.shape with
  | nan =>
    rw [realChars, hshape] at hchars ⊢
    cases hchars
    rfl
  | infinite negative =>
    rw [realChars, hshape] at hchars ⊢
    cases negative <;> cases hchars <;> rfl
  | finite negative mantissa exponent =>
    have hreal : realChars x = x.chars := by rw [realChars, hshape]
    rw [hreal] at hchars ⊢
    have hall := Double.isNumberChar_chars hshape
    obtain ⟨left, hvalue, hleft⟩ := readChars_eq_ok hchars
    rw [skipSpace_of_all hall] at hvalue
    have hnumber := readNumber_of_readValue hall hvalue
    have hnone : left = [] := by
      rw [← hleft, skipSpace_of_all]
      rw [List.all_eq_true] at hall ⊢
      exact fun c hc => hall c ((suffix_readNumber hnumber).subset hc)
    rw [readScalar_of_readNumber hnumber hr, hnone, List.nil_append]

end

end Json

end ContextSlice
