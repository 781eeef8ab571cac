/-!
# Lines

Text files may end a line by a carriage return, by a line feed or by both; reading turns each
of them into one line feed (`unifyNewlines`). A place in a text is told as the line and the
column of a character (`linePosition`), both counted from one.
-/

namespace ContextSlice.Text

/-- The text with every line ending turned into one line feed. -/
def unifyNewlines : List Char → List Char
  | [] => []
  | '\r' :: '\n' :: cs => '\n' :: unifyNewlines cs
  | '\r' :: cs => '\n' :: unifyNewlines cs
  | c :: cs => c :: unifyNewlines cs

/-- The line and the column of the character that follows `before`. -/
def linePosition (before : List Char) : Nat × Nat :=
  (before.count '\n' + 1, (before.reverse.takeWhile (· ≠ '\n')).length + 1)

/-- A text without carriage returns is read as it stands. -/
theorem unifyNewlines_eq_self {cs : List Char} (h : '\r' ∉ cs) : unifyNewlines cs = cs := by
  fun_induction unifyNewlines cs with
  | case1 => rfl
  | case2 => simp at h
  | case3 => simp at h
  | case4 c cs _ _ ih => rw [ih (by simp_all)]

end ContextSlice.Text
