import ContextSlice.Proofs.Json.Numbers
import ContextSlice.Proofs.Json.Strings

/-!
# Line endings of written values

The lines of a written text end by line feeds alone: there is no carriage return in it
(`Json.return_notMem_chars`), since those of the strings are escaped. So the text is read from a file as it
was written.
-/

namespace ContextSlice.Json

section
variable {P : Json → Prop} {level : Nat} {cs : List Char} {value : Json}

/-- Hexadecimal digits are no carriage returns. -/
theorem return_notMem_hexPadded (width n : Nat) : '\r' ∉ Text.hexPadded width n := by
  have hdigit : ∀ d < 16, '\r' ≠ Text.hexDigit d := by decide
  induction width generalizing n with
  | zero => exact List.not_mem_nil
  | succ width ih =>
    rw [Text.hexPadded, List.mem_append, not_or, List.mem_singleton]
    exact ⟨ih _, hdigit _ (Nat.mod_lt _ (by decide))⟩

/-- A carriage return is escaped, and no escape has one in it. -/
theorem return_notMem_escapeChar (c : Char) : '\r' ∉ escapeChar c := by
  have hunit (n : Nat) : '\r' ∉ escapeUnit n := by simp [escapeUnit, return_notMem_hexPadded]
  by_cases hsimple : c ∈ simplyEscaped
  · have hall : simplyEscaped.all (fun c => !(escapeChar c).contains '\r') = true := by decide
    simpa using List.all_eq_true.mp hall c hsimple
  · rw [escapeChar_eq hsimple]
    split
    · rename_i hprintable
      rw [List.mem_singleton]
      rintro rfl
      exact absurd hprintable (by decide)
    · split
      · exact hunit _
      · simp [hunit]

theorem return_notMem_stringChars (s : String) : '\r' ∉ stringChars s := by
  simp [stringChars, return_notMem_escapeChar]

/-- A new line begins with a line feed and blanks. -/
theorem return_notMem_lineStart (level : Nat) : '\r' ∉ lineStart level := by
  simp [lineStart]

/-- A number has no carriage return in it. -/
theorem return_notMem_of_all (h : cs.all isNumberChar = true) : '\r' ∉ cs := by
  rw [List.all_eq_true] at h
  exact fun hmem => absurd (h _ hmem) (by decide)

/-- A value without parts is written without carriage returns. -/
theorem return_notMem_leaf (hh : value.hashable = true) : '\r' ∉ chars level value := by
  cases value with
  | list | object => cases hh
  | null => rw [chars]; decide
  | bool b => cases b <;> rw [chars] <;> decide
  | int n =>
    rw [chars]
    cases n with
    | ofNat n => exact return_notMem_of_all (isNumberChar_toDigits n)
    | negSucc n => simpa [intChars] using return_notMem_of_all (isNumberChar_toDigits (n + 1))
  | real x =>
    rw [chars, realChars]
    split
    · decide
    · split <;> decide
    · rename_i hshape
      exact return_notMem_of_all (Double.isNumberChar_chars hshape)
  | text s => exact return_notMem_stringChars s

/-- So are the items of a list if each of them is. -/
theorem return_notMem_itemsChars {items : List Json}
    (h : ∀ item ∈ items, ∀ level, '\r' ∉ chars level item) : '\r' ∉ itemsChars level items := by
  induction items with
  | nil => simp [itemsChars, return_notMem_lineStart]
  | cons item items ih =>
    obtain ⟨hitem, hitems⟩ := List.forall_mem_cons.mp h
    simp [itemsChars, return_notMem_lineStart, hitem, ih hitems]

/-- So are the members of an object if the value of each of them is. -/
theorem return_notMem_membersChars {members : List (String × Json)}
    (h : ∀ member ∈ members, ∀ level, '\r' ∉ chars level member.2) :
    '\r' ∉ membersChars level members := by
  induction members with
  | nil => simp [membersChars, return_notMem_lineStart]
  | cons member members ih =>
    obtain ⟨hmember, hmembers⟩ := List.forall_mem_cons.mp h
    simp [membersChars, return_notMem_lineStart, return_notMem_stringChars, hmember, ih hmembers]

/-- A text that is written ends no line by a carriage return. -/
theorem return_notMem_chars (h : value.MadeOf P) (level : Nat) : '\r' ∉ chars level value := by
  induction h generalizing level with
  | leaf hh => exact return_notMem_leaf hh
  | @list items _ ih =>
    cases items with
    | nil => rw [chars]; decide
    | cons item items =>
      obtain ⟨hitem, hitems⟩ := List.forall_mem_cons.mp ih
      simp [chars, return_notMem_lineStart, hitem, return_notMem_itemsChars hitems]
  | @object members _ _ ih =>
    cases members with
    | nil => rw [chars]; decide
    | cons member members =>
      obtain ⟨hmember, hmembers⟩ := List.forall_mem_cons.mp ih
      simp [chars, return_notMem_lineStart, return_notMem_stringChars, hmember,
        return_notMem_membersChars hmembers]

end

end ContextSlice.Json
