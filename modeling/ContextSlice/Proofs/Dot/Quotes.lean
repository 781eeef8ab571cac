import ContextSlice.Dot
import Mathlib

/-!
# Texts between double quotes

A text is written between double quotes with a backslash before every double quote in it. It is read up to
the quote that closes it (`Dot.readText`), where a backslash makes a pair with a quote or a backslash after
it. A backslash of the text itself may make a pair with what is written after it; so a text is read back
just if an even number of backslashes stands before each of its quotes and at its end
(`Dot.readQuoted_quote_iff`), and just then the reading ends where the text does
(`Dot.exists_readQuoted_quote_iff`).
-/

namespace ContextSlice

/-! ## Characters at the end -/

namespace Text

/-- A list of one character alone has as many of it at its end as it is long. -/
theorem countAtEnd_of_forall {c : Char} {cs : List Char} (h : ∀ x ∈ cs, x = c) :
    countAtEnd c cs = cs.length := by
  rw [countAtEnd, List.takeWhile_eq_self_iff.mpr (by simpa using h), List.length_reverse]

/-- A character before others counts only if these are all counted. -/
theorem countAtEnd_cons {c : Char} {cs : List Char} (x : Char) (h : ∃ y ∈ cs, y ≠ c) :
    countAtEnd c (x :: cs) = countAtEnd c cs := by
  have hshort : (cs.reverse.takeWhile (· = c)).length ≠ cs.reverse.length := fun hall => by
    have hself := List.takeWhile_eq_self_iff.mp ((List.takeWhile_sublist _).eq_of_length hall)
    obtain ⟨y, hy, hne⟩ := h
    exact hne (by simpa using hself y (List.mem_reverse.mpr hy))
  rw [countAtEnd, List.reverse_cons, List.takeWhile_append, if_neg hshort, countAtEnd]

/-- Another character at the start does not count. -/
theorem countAtEnd_cons_of_ne {c x : Char} (h : x ≠ c) (cs : List Char) :
    countAtEnd c (x :: cs) = countAtEnd c cs := by
  by_cases hall : ∀ y ∈ cs, y = c
  · rw [countAtEnd_of_forall hall, countAtEnd, List.reverse_cons, List.takeWhile_append_of_pos (by simpa using hall)]
    simp [h]
  · exact countAtEnd_cons x (by simpa using hall)

/-- Two of the characters that are counted are an even number. -/
theorem even_countAtEnd_cons_cons (c : Char) (cs : List Char) :
    Even (countAtEnd c (c :: c :: cs)) ↔ Even (countAtEnd c cs) := by
  by_cases hall : ∀ y ∈ cs, y = c
  · have hall' : ∀ y ∈ c :: c :: cs, y = c := by simpa using hall
    rw [countAtEnd_of_forall hall, countAtEnd_of_forall hall', List.length_cons, List.length_cons,
      Nat.even_add_one, Nat.even_add_one, not_not]
  · have hsome : ∃ y ∈ cs, y ≠ c := by simpa using hall
    obtain ⟨y, hy, hne⟩ := hsome
    rw [countAtEnd_cons c ⟨y, List.mem_cons_of_mem c hy, hne⟩, countAtEnd_cons c ⟨y, hy, hne⟩]

end Text

namespace Dot

/-! ## Paired backslashes -/

/-- An even number of backslashes stands before each quote of a text, and at its end. -/
def Paired (text : List Char) : Prop :=
  ∀ before after, text = before ++ after → after = [] ∨ after.head? = some '"' →
    Even (Text.countAtEnd '\\' before)

/-- Whether the backslashes of a text that stand before a quote or the end make pairs with each other. -/
def pairs : List Char → Bool
  | '\\' :: '\\' :: cs => pairs cs
  | '\\' :: '"' :: _ => false
  | ['\\'] => false
  | _ :: cs => pairs cs
  | [] => true

/-- Two backslashes at the start are a pair. -/
theorem paired_cons_cons {cs : List Char} : Paired ('\\' :: '\\' :: cs) ↔ Paired cs := by
  constructor
  · intro h before after hcs hafter
    rw [← Text.even_countAtEnd_cons_cons]
    exact h ('\\' :: '\\' :: before) after (by rw [hcs]; rfl) hafter
  · rintro h (_ | ⟨first, _ | ⟨second, before⟩⟩) after hcs hafter
    · exact Even.zero
    · cases hcs
      simp at hafter
    · cases hcs
      exact (Text.even_countAtEnd_cons_cons ..).mpr (h before after rfl hafter)

/-- A character that is no backslash, or a backslash that makes no pair with what follows it. -/
def Alone (c : Char) (cs : List Char) : Prop :=
  c = '\\' → ∃ d rest, cs = d :: rest ∧ d ≠ '\\' ∧ d ≠ '"'

theorem paired_cons {c : Char} {cs : List Char} (h : Alone c cs) : Paired (c :: cs) ↔ Paired cs := by
  have hsame : ∀ before after, cs = before ++ after → after = [] ∨ after.head? = some '"' →
      Text.countAtEnd '\\' (c :: before) = Text.countAtEnd '\\' before := by
    intro before after hcs hafter
    by_cases hc : c = '\\'
    · obtain ⟨d, rest, rfl, hslash, hquote⟩ := h hc
      cases before with
      | nil =>
        cases hcs
        simp [hquote] at hafter
      | cons first before =>
        cases hcs
        exact Text.countAtEnd_cons c ⟨d, List.mem_cons_self, hslash⟩
    · exact Text.countAtEnd_cons_of_ne hc before
  constructor
  · intro hp before after hcs hafter
    rw [← hsame before after hcs hafter]
    exact hp (c :: before) after (by rw [hcs]; rfl) hafter
  · rintro hp (_ | ⟨first, before⟩) after hcs hafter
    · exact Even.zero
    · cases hcs
      rw [hsame before after rfl hafter]
      exact hp before after rfl hafter

/-- A character that begins neither a pair of backslashes, nor an escaped quote, nor a backslash at the end
stands alone. -/
theorem alone_of_not {c : Char} {cs : List Char} (hslash : ∀ rest, c = '\\' → cs = '\\' :: rest → False)
    (hquote : ∀ rest, c = '\\' → cs = '"' :: rest → False) (hend : c = '\\' → cs = [] → False) :
    Alone c cs := by
  intro hc
  cases cs with
  | nil => exact (hend hc rfl).elim
  | cons d rest =>
    exact ⟨d, rest, rfl, fun hd => hslash rest hc (hd ▸ rfl), fun hd => hquote rest hc (hd ▸ rfl)⟩

/-- A backslash before a quote is in no pair. -/
theorem not_paired_quote (cs : List Char) : ¬ Paired ('\\' :: '"' :: cs) := fun h =>
  absurd (h ['\\'] ('"' :: cs) rfl (.inr rfl)) (by decide)

theorem not_paired_singleton : ¬ Paired ['\\'] := fun h =>
  absurd (h ['\\'] [] rfl (.inl rfl)) (by decide)

theorem paired_nil : Paired [] := by
  intro before after hcs _
  rw [(List.append_eq_nil_iff.mp hcs.symm).1]
  exact Even.zero

/-- The check that the reader makes decides whether all backslashes are in pairs. -/
theorem pairs_iff {cs : List Char} : pairs cs = true ↔ Paired cs := by
  fun_induction pairs cs with
  | case1 cs ih => rw [ih, paired_cons_cons]
  | case2 cs => exact iff_of_false Bool.false_ne_true (not_paired_quote cs)
  | case3 => exact iff_of_false Bool.false_ne_true not_paired_singleton
  | case4 c cs hslash hquote hend ih => rw [ih, paired_cons (alone_of_not hslash hquote hend)]
  | case5 => exact iff_of_true rfl paired_nil

instance (cs : List Char) : Decidable (Paired cs) := decidable_of_iff _ pairs_iff

/-! ## Reading a text -/

/-- What stands between an opening quote and the one that closes it, and what follows. A backslash makes a
pair with a quote after it, which stands for the quote, and with a backslash after it, which stands for
itself. -/
def readText : List Char → Option (List Char × List Char)
  | [] => none
  | '"' :: cs => some ([], cs)
  | '\\' :: '"' :: cs => (readText cs).map fun (text, rest) => ('"' :: text, rest)
  | '\\' :: '\\' :: cs => (readText cs).map fun (text, rest) => ('\\' :: '\\' :: text, rest)
  | c :: cs => (readText cs).map fun (text, rest) => (c :: text, rest)

/-- The text in double quotes that some characters begin with, and what follows it. -/
def readQuoted : List Char → Option (String × List Char)
  | '"' :: cs => (readText cs).map fun (text, rest) => (String.ofList text, rest)
  | _ => none

/-- The characters of a text with a backslash before every quote. -/
def escapeChars (cs : List Char) : List Char := cs.flatMap fun c => if c = '"' then ['\\', '"'] else [c]

/-- A quoted text is its escaped characters between two quotes. -/
theorem toList_quote (s : String) : (quote s).toList = '"' :: (escapeChars s.toList ++ ['"']) := by
  simp [quote, escape, Text.replaceChar, escapeChars]

/-- A character that stands alone is read as itself. -/
theorem readText_of_alone {c : Char} {cs : List Char} (hc : c ≠ '"') (h : Alone c cs) :
    readText (c :: cs) = (readText cs).map fun (text, rest) => (c :: text, rest) := by
  rw [readText.eq_5 _ _ hc]
  all_goals
    rintro rest rfl rfl
    obtain ⟨d, _, hcs, hslash, hquote⟩ := h rfl
    cases hcs
    first | exact hslash rfl | exact hquote rfl

/-- A character that makes no pair is read as it is written, a quote with the backslash before it. -/
theorem readText_escapeChars_cons {c : Char} {cs : List Char} (h : Alone c cs) (rest : List Char) :
    readText (escapeChars (c :: cs) ++ '"' :: rest) =
      (readText (escapeChars cs ++ '"' :: rest)).map fun (text, rest) => (c :: text, rest) := by
  by_cases hc : c = '"'
  · subst hc
    rfl
  · have hwritten : escapeChars (c :: cs) = c :: escapeChars cs := by simp [escapeChars, hc]
    rw [hwritten, List.cons_append, readText_of_alone hc]
    intro hslash
    obtain ⟨d, more, rfl, hd, hquote⟩ := h hslash
    exact ⟨d, escapeChars more ++ '"' :: rest, by simp [escapeChars, hquote], hd, hquote⟩

/-- What follows a text that is read is shorter. -/
theorem length_lt_of_readText {cs text rest : List Char} (h : readText cs = some (text, rest)) :
    rest.length < cs.length := by
  fun_induction readText cs generalizing text with
  | case1 => cases h
  | case2 cs =>
    cases h
    exact Nat.lt_succ_self _
  | case3 cs ih | case4 cs ih | case5 c cs _ _ _ ih =>
    obtain ⟨⟨text', rest'⟩, hread, heq⟩ := Option.map_eq_some_iff.mp h
    cases heq
    have := ih hread
    simp only [List.length_cons]
    omega

/-- A paired text is read back, up to the quote that is written after it. -/
theorem readText_escapeChars {cs : List Char} (h : Paired cs) (rest : List Char) :
    readText (escapeChars cs ++ '"' :: rest) = some (cs, rest) := by
  induction cs using pairs.induct with
  | case1 cs ih =>
    have hread := ih (paired_cons_cons.mp h)
    change (readText (escapeChars cs ++ '"' :: rest)).map _ = _
    rw [hread]
    rfl
  | case2 cs => exact absurd h (not_paired_quote cs)
  | case3 => exact absurd h not_paired_singleton
  | case4 c cs hslash hquote hend ih =>
    have halone := alone_of_not hslash hquote hend
    rw [readText_escapeChars_cons halone, ih ((paired_cons halone).mp h)]
    rfl
  | case5 => rfl

/-- A text that is read back is paired, and so is one at the end of which the reading ends. -/
theorem paired_of_readText {cs text rest rest' : List Char}
    (h : readText (escapeChars cs ++ '"' :: rest) = some (text, rest'))
    (hsame : text = cs ∨ rest' = rest) : Paired cs := by
  induction cs using pairs.induct generalizing text with
  | case1 cs ih =>
    change (readText (escapeChars cs ++ '"' :: rest)).map _ = _ at h
    obtain ⟨⟨text', rest'⟩, hread, heq⟩ := Option.map_eq_some_iff.mp h
    cases heq
    refine paired_cons_cons.mpr (ih hread (hsame.imp_left fun heq => ?_))
    cases heq
    rfl
  | case2 cs =>
    -- The backslash makes a pair with the one that is written before the quote, which closes the text.
    cases h
    rcases hsame with heq | heq
    · cases heq
    · have hlength : (escapeChars cs ++ '"' :: rest).length = rest.length := congrArg List.length heq
      rw [List.length_append, List.length_cons] at hlength
      omega
  | case3 =>
    -- The backslash makes a pair with the quote that is written after the text.
    change (readText rest).map _ = _ at h
    obtain ⟨⟨text', rest''⟩, hread, heq⟩ := Option.map_eq_some_iff.mp h
    cases heq
    rcases hsame with heq | rfl
    · cases heq
    · exact absurd (length_lt_of_readText hread) (Nat.lt_irrefl _)
  | case4 c cs hslash hquote hend ih =>
    have halone := alone_of_not hslash hquote hend
    rw [readText_escapeChars_cons halone] at h
    obtain ⟨⟨text', rest'⟩, hread, heq⟩ := Option.map_eq_some_iff.mp h
    cases heq
    refine (paired_cons halone).mpr (ih hread (hsame.imp_left fun heq => ?_))
    cases heq
    rfl
  | case5 => exact paired_nil

/-! ## Texts in quotes -/

section
variable {s : String} {rest rest' : List Char}

/-- A quoted text is read as the reader of escaped texts reads what is between its quotes. -/
theorem readQuoted_quote (s : String) (rest : List Char) :
    readQuoted ((quote s).toList ++ rest) =
      (readText (escapeChars s.toList ++ '"' :: rest)).map fun (text, rest) =>
        (String.ofList text, rest) := by
  rw [toList_quote, List.cons_append, List.append_assoc]
  rfl

/-- A text is read back just if it is paired, and then up to its closing quote. -/
theorem readQuoted_quote_iff :
    readQuoted ((quote s).toList ++ rest) = some (s, rest') ↔ Paired s.toList ∧ rest' = rest := by
  rw [readQuoted_quote, Option.map_eq_some_iff]
  constructor
  · rintro ⟨⟨text, more⟩, hread, heq⟩
    obtain ⟨rfl, rfl⟩ := Prod.mk.inj heq
    have hpaired := paired_of_readText hread (.inl String.toList_ofList.symm)
    rw [readText_escapeChars hpaired] at hread
    exact ⟨hpaired, (Prod.mk.inj (Option.some.inj hread)).2.symm⟩
  · rintro ⟨hpaired, rfl⟩
    exact ⟨_, readText_escapeChars hpaired _, Prod.ext String.ofList_toList rfl⟩

/-- The reading of a text ends at its closing quote just if the text is paired. -/
theorem exists_readQuoted_quote_iff :
    (∃ text, readQuoted ((quote s).toList ++ rest) = some (text, rest)) ↔ Paired s.toList := by
  constructor
  · rintro ⟨text, h⟩
    rw [readQuoted_quote, Option.map_eq_some_iff] at h
    obtain ⟨⟨text', more⟩, hread, heq⟩ := h
    exact paired_of_readText hread (.inr (Prod.mk.inj heq).2)
  · exact fun hpaired => ⟨s, readQuoted_quote_iff.mpr ⟨hpaired, rfl⟩⟩

end

end Dot

end ContextSlice
