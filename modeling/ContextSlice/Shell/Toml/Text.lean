import ContextSlice.Text.Hex
import ContextSlice.Text.Search
import ContextSlice.Shell.Toml.Fault

/-!
# Texts in TOML

A text between quotes, with the quotes, is read in three steps (`readText`). First, no part of it
may follow a closing quote (`closesOnce`). Then, between double quotes, the escapes of characters by
their code points are replaced (`decodePoints`), and after them the escapes of one letter
(`unescape`). At last the quotes at both ends are taken off; a second quote at the start makes the
text lose one more character at either end.
-/

namespace ContextSlice.Shell.Toml

/-- Whether a character is a quote. -/
def isQuote (c : Char) : Bool := c = '"' || c = '\''

/-- Whether a list ends with an odd number of backslashes. -/
def endsEscaped (cs : List Char) : Bool := Text.countAtEnd '\\' cs % 2 = 1

/-- Whether a list ends with three quotes of a kind. -/
def endsTriple (quote : Char) (cs : List Char) : Bool :=
  [quote, quote, quote].isSuffixOf cs

/-- Whether a text is closed at most once, given its pieces after the opening quote between
quotes. If it begins with three quotes, then only the third quote of a row closes it; `row` is the
number of empty pieces so far. -/
def closesOnce (triple : Bool) : (closed : Bool) → (row : Nat) → List (List Char) → Bool
  | _, _, [] => true
  | closed, row, piece :: pieces =>
    if piece.isEmpty then
      if triple then closesOnce triple closed (row + 1) pieces
      else closesOnce triple true row pieces
    else if endsEscaped piece then closesOnce triple closed row pieces
    else if closed then false
    else if triple && row ≤ 1 then closesOnce triple false 0 pieces
    else closesOnce triple true row pieces

/-- Whether nothing follows the closing quote of a text that begins with a quote. -/
def isClosed (quote : Char) (cs : List Char) : Bool :=
  match Text.splitChars quote (cs.drop 1) with
  | [] :: [] :: pieces => closesOnce true false 0 pieces
  | pieces => closesOnce false false 0 pieces

/-- The character that an escape of one letter stands for. -/
def simpleEscape? : Char → Option Char
  | '0' => some '\x00'
  | 'b' => some '\x08'
  | 'f' => some '\x0c'
  | 'n' => some '\n'
  | 'r' => some '\r'
  | 't' => some '\t'
  | '"' => some '"'
  | '\\' => some '\\'
  | _ => none

/-- Whether every escape begins with a letter that is known. -/
def knowsEscapes : List Char → Bool
  | '\\' :: c :: cs => ((simpleEscape? c).isSome || c = 'u' || c = 'U') && knowsEscapes cs
  | _ :: cs => knowsEscapes cs
  | [] => true

/-- The character whose code point is written with some hexadecimal digits. Points of surrogates
are refused as soon as the second digit shows them. -/
def pointChar (digits : List Char) : Except Fault Char :=
  match digits.mapM Text.hexValue? with
  | none => .error .malformed
  | some [] => .error .cutShort
  | some [13] => .error .cutShort
  | some values =>
    let point := values.foldl (fun n d => n * 16 + d) 0
    if (values.head? = some 13 ∧ 8 ≤ values[1]?.getD 0) ∨ !point.isValidChar then .error .malformed
    else .ok (Char.ofNat point)

/-- Replaces escapes of characters by their code points: `mark` begins each of them, and there are
`width` digits after it. What is given are the pieces of the text between the marks. A mark after
an odd number of backslashes is none, but only where it follows no other one that was replaced. -/
def replacePoints (mark : List Char) (width : Nat) :
    (skip : Bool) → List (List Char) → Except Fault (List Char)
  | _, [] => .ok []
  | true, piece :: pieces =>
    (replacePoints mark width (endsEscaped piece) pieces).map fun rest => mark ++ piece ++ rest
  | false, piece :: pieces => do
    let c ← pointChar (piece.take width)
    let rest ← replacePoints mark width false pieces
    pure (c :: piece.drop width ++ rest)

/-- The text with the escapes replaced that begin with one mark. -/
def decodeMark (mark : List Char) (width : Nat) (cs : List Char) : Except Fault (List Char) :=
  match Text.splitBlock mark 0 cs with
  | [] => .ok []
  | piece :: pieces => (replacePoints mark width (endsEscaped piece) pieces).map (piece ++ ·)

/-- The text with the escapes of characters by their code points replaced. -/
def decodePoints (cs : List Char) : Except Fault (List Char) := do
  let cs ← decodeMark ['\\', 'u'] 4 cs
  decodeMark ['\\', 'U'] 8 cs

/-- The text with the escapes of one letter replaced; one by a code point stays as it is. -/
def unescape : List Char → Except Fault (List Char)
  | [] => .ok []
  | '\\' :: c :: cs => do
    let rest ← unescape cs
    match simpleEscape? c with
    | some found => pure (found :: rest)
    | none => if c = 'u' ∨ c = 'U' then pure ('\\' :: c :: rest) else .error .malformed
  | c :: cs => (unescape cs).map (c :: ·)

/-- The list without its first `n` and its last `n` characters. -/
def strip (n : Nat) (cs : List Char) : List Char := (cs.take (cs.length - n)).drop n

/-- The text without the quotes at its ends. -/
def takeQuotesOff (quote : Char) (cs : List Char) : List Char :=
  if cs[1]? = some quote ∧ (cs.length < 3 ∨ cs[2]? = some quote) then strip 1 (strip 2 cs)
  else strip 1 cs

/-- Reads a text that begins with a quote. -/
def readText (quote : Char) (cs : List Char) : Except Fault String :=
  if !isClosed quote cs then .error .malformed
  else if quote = '"' then do
    if !knowsEscapes cs then .error .malformed
    let cs ← unescape (← decodePoints cs)
    pure (String.ofList (takeQuotesOff quote cs))
  else .ok (String.ofList (takeQuotesOff quote cs))

end ContextSlice.Shell.Toml
