import ContextSlice.Proofs.Json.Numbers
import ContextSlice.Proofs.Json.Strings

/-!
# Reading values that have been written

The text of a value is read as that value (`Json.read_print`), if no object in it has two members of one
name, no whole number in it has too many digits, and the text of every double in it is read as that double.
Within a text the value is read up to its end, which a comma or a line follows (`Json.Recovered`); the
proof goes by the way in which the value is made.
-/

namespace ContextSlice.Json

/-- A leaf that can be written is read as that leaf, if the text of a double is read as that double. -/
def Legible (leaf : Json) : Prop :=
  leaf.Brief ∧ ∀ x, leaf = .real x → Json.read (Json.print leaf) = .ok leaf

/-- A value is read wherever its text stands, and no further than its text reaches. -/
def Recovered (value : Json) : Prop :=
  ∀ fuel level rest, (chars level value).length < fuel → Breaks rest →
    readValue fuel (chars level value ++ rest) = .ok (value, rest)

section
variable {fuel level : Nat} {cs rest : List Char} {value item : Json}

/-! ## Blanks -/

/-- The start of a new line is skipped as space. -/
theorem skipSpace_lineStart (level : Nat) (cs : List Char) :
    skipSpace (lineStart level ++ cs) = skipSpace cs := by
  refine List.dropWhile_append_of_pos fun c hc => ?_
  rcases List.mem_cons.mp hc with rfl | hc
  · rfl
  · rw [(List.mem_replicate.mp hc).2]
    rfl

theorem skipSpace_blank (cs : List Char) : skipSpace (' ' :: cs) = skipSpace cs := rfl

/-- A value begins with no blank and no closing bracket. -/
theorem exists_head_of_readValue (h : readValue fuel cs = .ok (value, rest)) :
    ∃ c more, cs = c :: more ∧ isSpace c = false ∧ c ≠ ']' ∧ c ≠ '\x7d' := by
  cases fuel with
  | zero => cases h
  | succ fuel =>
    cases cs with
    | nil => cases h
    | cons c more =>
      refine ⟨c, more, rfl, ?_, ?_, ?_⟩
      · by_contra hspace
        simp only [isSpace, Bool.not_eq_false, Bool.or_eq_true, decide_eq_true_eq] at hspace
        rcases hspace with ((rfl | rfl) | rfl) | rfl <;> cases h
      · rintro rfl
        cases h
      · rintro rfl
        cases h

/-- Blanks before a value are passed over, and those alone. -/
theorem skipSpace_of_readValue (h : readValue fuel cs = .ok (value, rest)) : skipSpace cs = cs := by
  obtain ⟨c, more, rfl, hspace, -⟩ := exists_head_of_readValue h
  rw [skipSpace, List.dropWhile_cons, hspace, if_neg Bool.false_ne_true]

/-! ## Leaves -/

/-- Leaves that are no string begin with no quote and no opening bracket. -/
theorem readValue_of_readScalar (h : readScalar cs = .ok (value, rest)) :
    readValue (fuel + 1) cs = .ok (value, rest) := by
  rw [readValue.eq_def]
  dsimp only
  split
  · cases h
  · cases h
  · cases h
  · exact h

/-- A legible value without parts is read back. -/
theorem recovered_leaf (hh : value.hashable = true) (hl : value.Legible) : value.Recovered := by
  intro fuel level rest hfuel hr
  obtain ⟨fuel, rfl⟩ := Nat.exists_eq_add_one.mpr (Nat.zero_lt_of_lt hfuel)
  cases value with
  | list | object => cases hh
  | null => rfl
  | bool b => cases b <;> rfl
  | int n => exact readValue_of_readScalar (readScalar_intChars (hl.1 n rfl) hr)
  | real x => exact readValue_of_readScalar (readScalar_realChars (hl.2 x rfl) hr)
  | text s =>
    rw [chars, stringChars, List.append_assoc, List.cons_append, readValue]
    exact congrArg (· >>= fun found => Except.ok (Json.text found.1, found.2)) (readString_escaped s rest)

/-! ## Lists -/

/-- Whatever follows the items of a list, a number before them has ended. -/
theorem breaks_itemsChars (level : Nat) (items : List Json) (rest : List Char) :
    Breaks (itemsChars level items ++ rest) := by
  cases items with
  | nil => exact Breaks.line _
  | cons item items => exact Breaks.comma _

/-- The items of a list are read, if each of them is. -/
theorem readItems_chars {items : List Json} (hr : ∀ other ∈ item :: items, other.Recovered)
    (hcs : skipSpace cs = chars (level + 1) item ++ (itemsChars level items ++ rest))
    (hfuel : (chars (level + 1) item).length + (itemsChars level items).length < fuel) :
    readItems fuel cs = .ok (item :: items, rest) := by
  induction items generalizing item cs fuel with
  | nil =>
    obtain ⟨fuel, rfl⟩ := Nat.exists_eq_add_one.mpr (Nat.zero_lt_of_lt hfuel)
    rw [itemsChars, List.length_append, List.length_singleton] at hfuel
    have hitem := hr item List.mem_cons_self fuel (level + 1) (itemsChars level [] ++ rest) (by omega)
      (breaks_itemsChars _ _ _)
    have hend : skipSpace (itemsChars level [] ++ rest) = ']' :: rest := by
      rw [itemsChars, List.append_assoc, skipSpace_lineStart]
      rfl
    rw [readItems, hcs, hitem]
    simp only [bind, Except.bind, hend]
    rfl
  | cons next items ih =>
    obtain ⟨fuel, rfl⟩ := Nat.exists_eq_add_one.mpr (Nat.zero_lt_of_lt hfuel)
    obtain ⟨hfirst, hothers⟩ := List.forall_mem_cons.mp hr
    simp only [itemsChars, List.length_append, List.length_cons] at hfuel
    have hitem := hfirst fuel (level + 1) (itemsChars level (next :: items) ++ rest) (by omega)
      (breaks_itemsChars _ _ _)
    have hnext := hothers next List.mem_cons_self fuel (level + 1) (itemsChars level items ++ rest)
      (by omega) (breaks_itemsChars _ _ _)
    have hafter : skipSpace (lineStart (level + 1) ++ chars (level + 1) next ++ itemsChars level items ++
        rest) = chars (level + 1) next ++ (itemsChars level items ++ rest) := by
      rw [List.append_assoc, List.append_assoc, skipSpace_lineStart, skipSpace_of_readValue hnext]
    have hitems : readItems fuel _ = .ok (next :: items, rest) := ih hothers hafter (by omega)
    have hcomma : skipSpace (itemsChars level (next :: items) ++ rest) = ',' :: (lineStart (level + 1) ++
        chars (level + 1) next ++ itemsChars level items ++ rest) := rfl
    rw [readItems, hcs, hitem]
    simp only [bind, Except.bind, hcomma, hitems]
    rfl

/-- A list is read back if its items are. -/
theorem recovered_list {items : List Json} (hr : ∀ item ∈ items, item.Recovered) :
    (Json.list items).Recovered := by
  intro fuel level rest hfuel _
  obtain ⟨fuel, rfl⟩ := Nat.exists_eq_add_one.mpr (Nat.zero_lt_of_lt hfuel)
  cases items with
  | nil => rfl
  | cons item items =>
    simp only [chars, List.length_append, List.length_cons] at hfuel
    have hitem := hr item List.mem_cons_self fuel (level + 1) (itemsChars level items ++ rest) (by omega)
      (breaks_itemsChars _ _ _)
    have hstart := skipSpace_of_readValue hitem
    have hitems : readItems fuel _ = .ok (item :: items, rest) := readItems_chars hr hstart (by omega)
    obtain ⟨c, more, hc, -, hclose, -⟩ := exists_head_of_readValue hitem
    have hafter : skipSpace (lineStart (level + 1) ++ chars (level + 1) item ++ itemsChars level items ++
        rest) = c :: more := by
      rw [List.append_assoc, List.append_assoc, skipSpace_lineStart, hstart, hc]
    rw [hc] at hitems
    have hlist : chars level (.list (item :: items)) ++ rest = '[' :: (lineStart (level + 1) ++
        chars (level + 1) item ++ itemsChars level items ++ rest) := by
      rw [chars]
      rfl
    rw [hlist, readValue, hafter]
    split
    · rename_i hbracket
      exact absurd (List.cons.inj hbracket).1 hclose
    · rw [hitems]
      rfl

/-! ## Objects -/

/-- Whatever follows the members of an object, a number before them has ended. -/
theorem breaks_membersChars (level : Nat) (members : List (String × Json)) (rest : List Char) :
    Breaks (membersChars level members ++ rest) := by
  cases members with
  | nil => exact Breaks.line _
  | cons member members => exact Breaks.comma _

/-- A string begins with no blank. -/
theorem skipSpace_stringChars (s : String) (cs : List Char) :
    skipSpace (stringChars s ++ cs) = stringChars s ++ cs := rfl

/-- The key of a member is read, and its colon. -/
theorem readKey_chars {key : String} (hcs : skipSpace cs = stringChars key ++ ':' :: rest) :
    readKey cs = .ok (key, rest) := by
  have hquote : skipSpace cs = '"' :: (key.toList.flatMap escapeChar ++ '"' :: ':' :: rest) := by
    rw [hcs, stringChars, List.append_assoc]
    rfl
  rw [readKey, hquote]
  simp only [readString_escaped, bind, Except.bind]
  rfl

/-- The members of an object are read, if the value of each of them is. -/
theorem readMembers_chars {key : String} {members : List (String × Json)}
    (hr : ∀ member ∈ (key, value) :: members, member.2.Recovered)
    (hcs : skipSpace cs = stringChars key ++ ':' :: ' ' ::
      (chars (level + 1) value ++ (membersChars level members ++ rest)))
    (hfuel : (chars (level + 1) value).length + (membersChars level members).length < fuel) :
    readMembers fuel cs = .ok ((key, value) :: members, rest) := by
  induction members generalizing key value cs fuel with
  | nil =>
    obtain ⟨fuel, rfl⟩ := Nat.exists_eq_add_one.mpr (Nat.zero_lt_of_lt hfuel)
    rw [membersChars, List.length_append, List.length_singleton] at hfuel
    have hvalue := (List.forall_mem_cons.mp hr).1 fuel (level + 1) (membersChars level [] ++ rest)
      (by dsimp only; omega) (breaks_membersChars _ _ _)
    have hend : skipSpace (membersChars level [] ++ rest) = '\x7d' :: rest := by
      rw [membersChars, List.append_assoc, skipSpace_lineStart]
      rfl
    rw [readMembers, readKey_chars hcs]
    simp only [bind, Except.bind, skipSpace_blank, skipSpace_of_readValue hvalue, hvalue, hend]
    rfl
  | cons next members ih =>
    obtain ⟨other, found⟩ := next
    obtain ⟨fuel, rfl⟩ := Nat.exists_eq_add_one.mpr (Nat.zero_lt_of_lt hfuel)
    obtain ⟨hfirst, hothers⟩ := List.forall_mem_cons.mp hr
    simp only [membersChars, List.length_append, List.length_cons] at hfuel
    have hvalue := hfirst fuel (level + 1) (membersChars level ((other, found) :: members) ++ rest)
      (by dsimp only; omega) (breaks_membersChars _ _ _)
    have hcomma : skipSpace (membersChars level ((other, found) :: members) ++ rest) =
        ',' :: (lineStart (level + 1) ++ (stringChars other ++ ':' :: ' ' ::
          (chars (level + 1) found ++ (membersChars level members ++ rest)))) := by
      rw [membersChars]
      simp only [List.append_assoc, List.cons_append, List.nil_append]
      rfl
    have hmembers : readMembers fuel _ = .ok ((other, found) :: members, rest) :=
      ih hothers ((skipSpace_lineStart (level + 1) _).trans (skipSpace_stringChars _ _)) (by omega)
    rw [readMembers, readKey_chars hcs]
    simp only [bind, Except.bind, skipSpace_blank, skipSpace_of_readValue hvalue, hvalue, hcomma, hmembers]
    rfl

/-- An object is read back if its names are distinct and the values of its members are read back. -/
theorem recovered_object {members : List (String × Json)} (hn : (Assoc.keys members).Nodup)
    (hr : ∀ member ∈ members, member.2.Recovered) : (Json.object members).Recovered := by
  intro fuel level rest hfuel _
  obtain ⟨fuel, rfl⟩ := Nat.exists_eq_add_one.mpr (Nat.zero_lt_of_lt hfuel)
  cases members with
  | nil => rfl
  | cons member members =>
    obtain ⟨key, value⟩ := member
    simp only [chars, List.length_append, List.length_cons] at hfuel
    have hstart := skipSpace_stringChars key (':' :: ' ' ::
      (chars (level + 1) value ++ (membersChars level members ++ rest)))
    have hmembers : readMembers fuel _ = .ok ((key, value) :: members, rest) :=
      readMembers_chars hr hstart (by omega)
    have hafter : skipSpace (lineStart (level + 1) ++ stringChars key ++ [':', ' '] ++
        chars (level + 1) value ++ membersChars level members ++ rest) = stringChars key ++ (':' :: ' ' ::
          (chars (level + 1) value ++ (membersChars level members ++ rest))) := by
      simp only [List.append_assoc, List.cons_append, List.nil_append, skipSpace_lineStart, hstart]
    have hobject : chars level (.object ((key, value) :: members)) ++ rest = '\x7b' ::
        (lineStart (level + 1) ++ stringChars key ++ [':', ' '] ++ chars (level + 1) value ++
          membersChars level members ++ rest) := by
      rw [chars]
      rfl
    rw [hobject, readValue, hafter]
    split
    · rename_i hbracket
      cases hbracket
    · rw [hmembers]
      exact congrArg (fun members => Except.ok (Json.object members, rest)) (Assoc.ofPairs_of_nodup hn)

/-! ## Texts -/

/-- A value that is made of legible leaves is read wherever its text stands. -/
theorem MadeOf.recovered (h : value.MadeOf Legible) : value.Recovered := by
  induction h with
  | leaf hh hl => exact recovered_leaf hh hl
  | list _ ih => exact recovered_list ih
  | object hn _ ih => exact recovered_object hn ih

/-- The text of a value that is made of legible leaves is read as that value. -/
theorem read_print (h : value.MadeOf Legible) : Json.read (Json.print value) = .ok value := by
  have hvalue := h.recovered (2 * (chars 0 value).length + 1) 0 [] (by omega) Breaks.nil
  rw [List.append_nil] at hvalue
  have hstart := skipSpace_of_readValue hvalue
  have hchars : readChars (chars 0 value) = .ok value := by
    unfold readChars
    split
    · rename_i hmark
      rw [hmark] at hvalue
      cases hvalue
    · rw [hstart, hvalue]
      rfl
  rw [Json.read, Json.print, String.toList_ofList, hchars]

end

end ContextSlice.Json
