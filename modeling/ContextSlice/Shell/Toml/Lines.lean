import ContextSlice.Text.Alphanumeric
import ContextSlice.Text.Blank
import ContextSlice.Shell.Toml.Text

/-!
# The lines of a TOML text

The lines of a text as they are read (`logicalLines`): comments are blanked, and a line break is a
blank while a bracket is open. On the way it is checked that every line begins with a key, which an
equals sign ends, unless it begins with the bracket of a header, and that no quote stays open. All
this is found in one pass over the characters (`scan`), which looks back at what it has written and
one character ahead. Before the first character comes the last one (`lookBack`).

Three quotes in a row open or close a text of several lines. As long as it is open, a line does not
begin with a key, and a line break after two quotes is a third one. A header with two brackets ends
with the second of two closing ones.
-/

namespace ContextSlice.Shell.Toml

/-- How far the key of a line has been read: there is none or it is complete, a part of its name
has been read, or blanks after a part. -/
inductive KeyPart where
  | outside
  | name
  | gap
  deriving DecidableEq, Repr

/-- What is known at a character: how far the key has been read and whether it has a point in it,
which quote is open, whether a text of several lines is, with how many brackets a header is (zero if
there is none), how many other brackets are open, whether the line has been blank so far, and
whether a comment has begun. -/
structure Scan where
  key : KeyPart := .outside
  dotted : Bool := false
  quote : Option Char := none
  long : Bool := false
  header : Nat := 0
  depth : Int := 0
  fresh : Bool := true
  comment : Bool := false
  deriving DecidableEq, Repr

/-- What comes before a character, last one first: what has been written, and before the start of
the text its end. Nothing but quotes and backslashes is looked through as far as that. -/
def lookBack (before : List Char) (c : Char) (rest : List Char) : List Char :=
  if before.all fun c => isQuote c || c = '\\' then before ++ rest.reverse ++ c :: before
  else before

namespace Scan

/-- After a part of a key with points, a new part begins with the next character unless this is a
blank or a point. -/
def nextPart (scan : Scan) : List Char → Except Fault Scan
  | [] => .error .cutShort
  | next :: _ =>
    .ok (if Text.isBlank next || next = '.' then scan else { scan with key := .name })

/-- The equals sign ends a key. -/
def endKey (scan : Scan) (c : Char) : Except Fault Scan :=
  if c = '=' then .ok { scan with key := .outside, dotted := false } else .error .malformed

/-- Takes a character of a key, between what has been written, last character first, and what
follows. -/
def keyStep (scan : Scan) (before : List Char) (c : Char) (rest : List Char) :
    Except Fault Scan :=
  if c = '\n' then .error .malformed
  else
    match scan.quote, scan.key with
    | some quote, _ =>
      let closes := c = quote && (before.takeWhile (· = '\\')).length % 2 = 0
      .ok (if closes then { scan with key := .gap, quote := none } else scan)
    | none, .gap =>
      if c = '.' then { scan with dotted := true }.nextPart rest
      else if Text.isBlank c then (if scan.dotted then scan.nextPart rest else .ok scan)
      else scan.endKey c
    | none, _ =>
      if Text.isBlank c then .ok { scan with key := .gap }
      else if c = '.' then .ok { scan with dotted := true }
      else if Text.isAlphanumeric c || c = '_' || c = '-' then .ok scan
      else if scan.dotted && before.head? = some '.' && isQuote c then
        .ok { scan with quote := some c }
      else scan.endKey c

/-- A quote opens or closes a text. -/
def toggle (scan : Scan) (quote : Char) : Scan :=
  { scan with quote := if scan.quote.isSome then none else some quote }

/-- A third quote in a row opens or closes a text of several lines. -/
def toggleLong (scan : Scan) (quote : Char) : Scan :=
  { scan with long := !scan.long, quote := if scan.long then none else some quote }

/-- Takes a quote, given what comes before it. Between quotes of one kind the other kind means
nothing, and a double quote after an odd number of backslashes neither opens nor closes. -/
def quoteStep (scan : Scan) (back : List Char) (quote : Char) : Scan :=
  if scan.quote.any (· ≠ quote) then scan
  else
    let same := min 2 (back.takeWhile (· = quote)).length
    let escaped := quote = '"' ∧ same ≠ 1 ∧
      ((back.drop same).takeWhile (· = '\\')).length % 2 = 1
    if escaped then scan
    else if same = 2 then scan.toggleLong quote
    else scan.toggle quote

/-- Takes a bracket, given what comes before it and after it. Between quotes it means nothing. -/
def bracketStep (scan : Scan) (before : List Char) (c : Char) (rest : List Char) : Scan :=
  if scan.quote.isSome then scan
  else if c = ']' then
    if scan.header = 0 then { scan with depth := scan.depth - 1 }
    else if scan.header = 1 ∨ before.head? = some ']' then { scan with header := 0 }
    else scan
  else if scan.header ≠ 0 then scan
  else if !scan.fresh then { scan with depth := scan.depth + 1 }
  else { scan with header := if rest.head? = some '[' then 2 else 1 }

/-- The first character of a line that is no blank begins a key, unless a header is open. -/
def beginLine (scan : Scan) (c : Char) : Except Fault Scan :=
  if !scan.fresh || c = ' ' || c = '\t' then .ok scan
  else if scan.header ≠ 0 then .ok { scan with fresh := false }
  else if c = '=' then .error .malformed
  else .ok { scan with fresh := false, key := .name }

/-- What is written with a line break in a text of several lines: a third quote after two, and a
blank then for a quote that stands before them. -/
def breakLong (before : List Char) : List Char :=
  match before with
  | a :: b :: c :: cs =>
    if isQuote a && b = a then a :: a :: b :: (if c = a then ' ' else c) :: cs else '\n' :: before
  | _ => '\n' :: before

/-- Takes a line break, and tells what is written then. -/
def breakStep (scan : Scan) (before : List Char) : Except Fault (Scan × List Char) :=
  if scan.long then .ok ({ scan with comment := false }, breakLong before)
  else if scan.quote.isSome then .error .malformed
  else if scan.depth ≠ 0 then .ok ({ scan with comment := false }, ' ' :: before)
  else .ok ({ scan with comment := false, fresh := true }, '\n' :: before)

/-- Takes a character, and tells what is written then. -/
def step (scan : Scan) (before : List Char) (c : Char) (rest : List Char) :
    Except Fault (Scan × List Char) :=
  if scan.key ≠ .outside then (scan.keyStep before c rest).map (·, c :: before)
  else if c = '\n' then scan.breakStep before
  else if scan.comment then .ok (scan, ' ' :: before)
  else if c = '#' ∧ scan.quote = none ∧ scan.header = 0 then
    .ok ({ scan with comment := true }, ' ' :: before)
  else
    let scan := if isQuote c then scan.quoteStep (lookBack before c rest) c
      else if c = '[' || c = ']' then scan.bracketStep before c rest
      else scan
    (scan.beginLine c).map (·, c :: before)

end Scan

/-- The characters as they are read, given what has been written so far, last character first. -/
def scan (now : Scan) (before : List Char) : List Char → Except Fault (List Char)
  | [] =>
    if now.key = .outside ∧ now.quote = none then .ok before.reverse else .error .malformed
  | c :: rest => do
    let (next, written) ← now.step before c rest
    scan next written rest

/-- The lines of a text as they are read. -/
def logicalLines (cs : List Char) : Except Fault (List (List Char)) :=
  (scan {} [] cs).map (Text.splitChars '\n')

end ContextSlice.Shell.Toml
