import ContextSlice.Json.Printer
import ContextSlice.Json.Reader
import ContextSlice.Proofs.Steps

/-!
# Reading strings that have been written

A character that is written in a JSON string is read as that character, whether it stands for itself, is
escaped by a letter or by its code, or, beyond the first plane, by the codes of two surrogates
(`Json.readStringFrom_escapeChar`). So a string is read up to its closing quote and no further
(`Json.readString_escaped`).
-/

namespace ContextSlice

namespace Text

/-- A hexadecimal digit has the value that it was made for. -/
theorem hexValue?_hexDigit : ∀ d < 16, hexValue? (hexDigit d) = some d := by decide

/-- Four hexadecimal digits stand for the number that they were written for. -/
theorem hexPadded_four {n : Nat} (h : n < 0x10000) : ∃ a b c d,
    hexPadded 4 n = [a, b, c, d] ∧ hexValue4? a b c d = some n := by
  refine ⟨hexDigit (n / 16 / 16 / 16 % 16), hexDigit (n / 16 / 16 % 16), hexDigit (n / 16 % 16),
    hexDigit (n % 16), rfl, ?_⟩
  have hdigit (m : Nat) : hexValue? (hexDigit (m % 16)) = some (m % 16) :=
    hexValue?_hexDigit _ (Nat.mod_lt _ (by decide))
  simp only [hexValue4?, hdigit, Option.bind_eq_bind, Option.bind_some, Option.pure_def]
  congr 1
  omega

end Text

namespace Json

section
variable {start more : List Char} {c : Char}

/-! ## Escapes -/

/-- The characters that are escaped by a letter or by themselves. -/
def simplyEscaped : List Char := ['"', '\\', '\n', '\r', '\t', '\x08', '\x0c']

/-- The other characters stand for themselves or are escaped by their code. -/
theorem escapeChar_eq (h : c ∉ simplyEscaped) :
    escapeChar c = if ' ' ≤ c ∧ c ≤ '~' then [c]
      else if c.toNat < 0x10000 then escapeUnit c.toNat
      else escapeUnit (0xD800 + (c.toNat - 0x10000) / 0x400) ++
        escapeUnit (0xDC00 + (c.toNat - 0x10000) % 0x400) := by
  simp only [simplyEscaped, List.mem_cons, not_or] at h
  simp only [escapeChar, h, if_false]

/-- A character is no half of a pair of surrogates. -/
theorem not_surrogate (c : Char) :
    isHighSurrogate c.toNat = false ∧ isLowSurrogate c.toNat = false := by
  have hvalid : c.toNat < 0xD800 ∨ 0xDFFF < c.toNat ∧ c.toNat < 0x110000 := c.valid
  simp only [isHighSurrogate, isLowSurrogate, Bool.and_eq_false_iff, decide_eq_false_iff_not]
  omega

/-- The escape of a character of the first plane is read as that character. -/
theorem unicodeEscape_unit (h : c.toNat < 0x10000) (hm : more ≠ []) :
    unicodeEscape (Text.hexPadded 4 c.toNat ++ more) = .ok (c, 4) := by
  obtain ⟨a, b, d, e, hdigits, hvalue⟩ := Text.hexPadded_four h
  obtain ⟨hhigh, hlow⟩ := not_surrogate c
  have hchar : unitChar c.toNat = c := by
    rw [unitChar, hhigh, hlow]
    exact Char.ofNat_toNat c
  obtain ⟨next, rest, rfl⟩ := List.exists_cons_of_ne_nil hm
  rw [hdigits]
  simp only [List.cons_append, List.nil_append, unicodeEscape, hvalue]
  split
  · rw [hhigh, if_neg Bool.false_ne_true, hchar]
  · rw [hchar]

/-- A character beyond the first plane is the character of its two surrogates. -/
theorem pairChar_surrogates (h : ¬ c.toNat < 0x10000) :
    pairChar (0xD800 + (c.toNat - 0x10000) / 0x400) (0xDC00 + (c.toNat - 0x10000) % 0x400) = c := by
  have hsum : 0x10000 + (0xD800 + (c.toNat - 0x10000) / 0x400 - 0xD800) * 0x400 +
      (0xDC00 + (c.toNat - 0x10000) % 0x400 - 0xDC00) = c.toNat := by omega
  rw [pairChar, hsum]
  exact Char.ofNat_toNat c

/-- The escape of a character beyond the first plane is read as that character. -/
theorem unicodeEscape_pair (h : ¬ c.toNat < 0x10000) (hm : more ≠ []) :
    unicodeEscape (Text.hexPadded 4 (0xD800 + (c.toNat - 0x10000) / 0x400) ++
      (escapeUnit (0xDC00 + (c.toNat - 0x10000) % 0x400) ++ more)) = .ok (c, 10) := by
  have hchar := pairChar_surrogates h
  have hvalid : c.toNat < 0xD800 ∨ 0xDFFF < c.toNat ∧ c.toNat < 0x110000 := c.valid
  have hquotient : (c.toNat - 0x10000) / 0x400 < 0x400 := by omega
  have hremainder : (c.toNat - 0x10000) % 0x400 < 0x400 := Nat.mod_lt _ (by decide)
  generalize (c.toNat - 0x10000) / 0x400 = q at *
  generalize (c.toNat - 0x10000) % 0x400 = r at *
  obtain ⟨a, b, d, e, hhigh, hhighValue⟩ := Text.hexPadded_four (n := 0xD800 + q) (by omega)
  obtain ⟨a', b', d', e', hlow, hlowValue⟩ := Text.hexPadded_four (n := 0xDC00 + r) (by omega)
  obtain ⟨next, rest, rfl⟩ := List.exists_cons_of_ne_nil hm
  have hhighUnit : isHighSurrogate (0xD800 + q) = true := by
    simp only [isHighSurrogate, Bool.and_eq_true, decide_eq_true_eq]
    omega
  have hlowUnit : isLowSurrogate (0xDC00 + r) = true := by
    simp only [isLowSurrogate, Bool.and_eq_true, decide_eq_true_eq]
    omega
  rw [escapeUnit, hhigh, hlow]
  simp only [List.cons_append, List.nil_append, unicodeEscape, hhighValue, hhighUnit, if_true, hlowValue,
    hlowUnit, hchar]

/-! ## Strings -/

/-- Characters that belong to an escape are passed over. -/
theorem readStringFrom_skip (passed : List Char) :
    readStringFrom start passed.length (passed ++ more) = readStringFrom start 0 more := by
  induction passed with
  | nil => rfl
  | cons c passed ih => rw [List.cons_append, List.length_cons, readStringFrom, ih]

/-- The escape of a character by its code is passed over when it has been read. -/
theorem readStringFrom_unicode {digits : List Char}
    (h : unicodeEscape (digits ++ more) = .ok (c, digits.length)) :
    readStringFrom start 0 ('\\' :: 'u' :: digits ++ more) = (do
      let (rest, left) ← readStringFrom start 0 more
      pure (c :: rest, left)) := by
  have hskip : readStringFrom start (digits.length + 1) ('u' :: (digits ++ more)) = _ :=
    readStringFrom_skip ('u' :: digits)
  simp only [List.cons_append, readStringFrom, h]
  exact congrArg (· >>= fun found => Except.ok (c :: found.1, found.2)) hskip

/-- A character that is written in a string is read as that character. -/
theorem readStringFrom_escapeChar (c : Char) (hm : more ≠ []) :
    readStringFrom start 0 (escapeChar c ++ more) = (do
      let (rest, left) ← readStringFrom start 0 more
      pure (c :: rest, left)) := by
  by_cases hsimple : c ∈ simplyEscaped
  · simp only [simplyEscaped, List.mem_cons, List.not_mem_nil, or_false] at hsimple
    rcases hsimple with rfl | rfl | rfl | rfl | rfl | rfl | rfl <;> rfl
  · rw [escapeChar_eq hsimple]
    split
    · rename_i hprintable
      have hcontrol : ¬ c.toNat < 0x20 := Nat.not_lt.mpr hprintable.1
      simp only [simplyEscaped, List.mem_cons, not_or] at hsimple
      rw [List.singleton_append, readStringFrom.eq_def]
      simp [hsimple, hcontrol]
    · split
      · rename_i hplane
        exact readStringFrom_unicode (by rw [Text.length_hexPadded]; exact unicodeEscape_unit hplane hm)
      · rename_i hplane
        have hpair := unicodeEscape_pair hplane hm
        rw [← List.append_assoc] at hpair
        rw [escapeUnit, List.cons_append, List.cons_append]
        exact readStringFrom_unicode (by simpa [escapeUnit] using hpair)

/-- A string is read up to its closing quote. -/
theorem readStringFrom_escaped (cs rest : List Char) :
    readStringFrom start 0 (cs.flatMap escapeChar ++ '"' :: rest) = .ok (cs, rest) := by
  induction cs with
  | nil => rfl
  | cons c cs ih =>
    rw [List.flatMap_cons, List.append_assoc, readStringFrom_escapeChar c (by simp), ih]
    rfl

/-- A string that is written is read as the text that it is written for. -/
theorem readString_escaped (s : String) (rest : List Char) :
    readString (s.toList.flatMap escapeChar ++ '"' :: rest) = .ok (s, rest) := by
  rw [readString, readStringFrom_escaped]
  exact congrArg (fun text => Except.ok (text, rest)) (String.ofList_toList)

end

end Json

end ContextSlice
