import ContextSlice.Shell.Toml.Key

/-!
# Tables in one line of TOML

A table may stand in one line, between braces. It is cut into its entries at the commas
(`inlineEntries`); pieces are put together again until the value of an entry is whole, which is
judged by its first and its last character. A list of such tables is cut at their braces
(`inlineTables`).
-/

namespace ContextSlice.Shell.Toml

/-- Whether a value without blanks at its ends is whole: it stands between quotes, brackets or
braces, it is a truth value, or it begins like a number. -/
def isWholeValue (cs : List Char) : Bool :=
  match cs.head?, cs.getLast? with
  | some first, some last =>
    (first = last && (first = '"' || first = '\'')) || first = '-' || first.isDigit ||
      cs = "true".toList || cs = "false".toList || (first = '[' && last = ']') ||
      (first = '\x7b' && last = '\x7d')
  | _, _ => false

/-- Puts the pieces of a table together as long as the value of an entry is not whole. -/
def joinEntries (piece : List Char) (pieces : List (List Char)) :
    Except Fault (List (List Char)) :=
  match cutAt? '=' 1 piece with
  | none => .error .malformed
  | some (_, value) =>
    let value := Text.trimBy Text.isBlank value
    match pieces with
    | [] =>
      if value.isEmpty then .error .cutShort
      else if isWholeValue value then .ok [piece]
      else .error .malformed
    | next :: pieces =>
      if value.isEmpty then .error .cutShort
      else if isWholeValue value then (joinEntries next pieces).map (piece :: ·)
      else joinEntries (piece ++ ',' :: next) pieces

/-- The entries of a table that stands between braces. -/
def inlineEntries (cs : List Char) : Except Fault (List (List Char)) :=
  match Text.splitChars ',' (strip 1 cs) with
  | [] => .ok []
  | piece :: pieces =>
    if pieces.isEmpty && piece.all Text.isBlank then .ok [] else joinEntries piece pieces

/-- The start of a table in a list: its characters, last one first, the number of braces that are
open, whether a quote is, and whether the next character is escaped by a backslash. -/
structure OpenTable where
  chars : List Char
  depth : Nat
  quoted : Bool
  escaped : Bool

/-- Takes a character of a table in a list. The result is the table, once it is complete. Within
quotes braces do not count; quotes of both kinds are the same. -/
def OpenTable.step (now : OpenTable) (c : Char) : OpenTable ⊕ List Char :=
  let chars := c :: now.chars
  let quoted := if isQuote c && !(now.quoted && now.escaped) then !now.quoted else now.quoted
  let escaped := c = '\\' && !now.escaped
  if quoted then .inl { now with chars, quoted, escaped }
  else if c = '\x7b' then .inl { chars, depth := now.depth + 1, quoted, escaped }
  else if c ≠ '\x7d' then .inl { now with chars, quoted, escaped }
  else if 1 < now.depth then .inl { chars, depth := now.depth - 1, quoted, escaped }
  else .inr chars.reverse

/-- The tables in a list, as they are written. What stands between them means nothing, and the
character after a table is passed over (`skip`). A table that is not closed is left out. -/
def inlineTables : (table : Option OpenTable) → (skip : Bool) → List Char → List (List Char)
  | _, _, [] => []
  | some now, _, c :: cs =>
    match now.step c with
    | .inl next => inlineTables (some next) false cs
    | .inr table => table :: inlineTables none true cs
  | none, true, _ :: cs => inlineTables none false cs
  | none, false, c :: cs =>
    inlineTables (if c = '\x7b' then some ⟨[c], 1, false, false⟩ else none) false cs

end ContextSlice.Shell.Toml
