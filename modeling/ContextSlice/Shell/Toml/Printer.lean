import ContextSlice.Json.Printer
import ContextSlice.Text.Quoted
import ContextSlice.Shell.Toml.Key
import ContextSlice.Shell.Toml.Moment
import ContextSlice.Shell.Toml.Table

/-!
# Writing TOML

The text of a table of settings (`Toml.print`). A table's plain values come first, one line each,
and its lists of tables after them; the tables inside it follow level by level, each under a header
with its path (`levels`). A header is left out if there are only further tables under it, and there
is a blank line before every header but one at the start. Of tables whose keys are written alike
the last one counts.

Texts stand between double quotes. The writer knows no escape for a character that is not printable
and has a code point below 256: its digits are joined to what stands before it (`joinPieces`), and a
text that is nothing but one such character cannot be written at all.
-/

namespace ContextSlice.Shell.Toml

/-- A character as it stands between double quotes. -/
def escapeChar (c : Char) : List Char :=
  if c = '\'' then [c] else if c = '"' then ['\\', c] else Text.escapeBetween '\'' c

/-- A text in which every two backslashes that stand together are one. -/
def halveSlashes : List Char → List Char
  | '\\' :: '\\' :: cs => '\\' :: halveSlashes cs
  | c :: cs => c :: halveSlashes cs
  | [] => []

/-- What stands between a piece of a text and the next one, which begins with the two digits of a
code point. -/
def joint (piece : List Char) : List Char :=
  let slashes := Text.countAtEnd '\\' piece
  if slashes = 0 ∨ min slashes (piece.length - 1) % 2 = 1 then ['x'] else ['u', '0', '0']

/-- Joins a piece of a text with the pieces that follow it. -/
def joinPieces (piece : List Char) : List (List Char) → List Char
  | [] => piece
  | next :: pieces =>
    let piece := halveSlashes piece
    joinPieces (piece ++ joint piece ++ next) pieces

/-- A text between double quotes. -/
def textChars (s : String) : Except PrintFault (List Char) :=
  match Text.splitBlock ['\\', 'x'] 0 (s.toList.flatMap escapeChar) with
  | [[], _] => .error .text
  | [] :: piece :: pieces | piece :: pieces => .ok ('"' :: joinPieces piece pieces ++ ['"'])
  | [] => .ok ['"', '"']

/-- Whether a key is written without quotes; a line feed at its end does not count. -/
def isBareKey (key : String) : Bool :=
  let cs := key.toList
  let name := if cs.getLast? = some '\n' then cs.dropLast else cs
  !name.isEmpty && name.all isBare

/-- A key, in quotes if it needs them. -/
def keyChars (key : String) : Except PrintFault (List Char) :=
  if isBareKey key then .ok key.toList else textChars key

/-- A number without the zero that its exponent begins with. -/
def trimExponent : List Char → List Char
  | 'e' :: sign :: '0' :: digits => 'e' :: sign :: digits
  | c :: cs => c :: trimExponent cs
  | [] => []

/-- The items of a list, as they are written, and its end. -/
def listChars (items : List (List Char)) : List Char :=
  '[' :: items.flatMap (fun item => ' ' :: item ++ [',']) ++ [']']

mutual

/-- How many lists and tables there are at most around each other in a value. -/
def nesting : Datum → Nat
  | .list items => nestingOfItems items + 1
  | .object members => nestingOfMembers members + 1
  | .scalar _ => 0

/-- The greatest nesting of some values. -/
def nestingOfItems : List Datum → Nat
  | [] => 0
  | item :: items => max (nesting item) (nestingOfItems items)

/-- The greatest nesting of the values of some members. -/
def nestingOfMembers : Members → Nat
  | [] => 0
  | (_, value) :: members => max (nesting value) (nestingOfMembers members)

end

mutual

/-- The text of a value in a line. Of a table only the keys are written. -/
def valueChars : Datum → Except PrintFault (List Char)
  | .scalar .null => .ok []
  | .scalar (.bool b) => .ok (if b then "true" else "false").toList
  | .scalar (.int n) => .ok (Json.intChars n)
  | .scalar (.real x) => .ok (trimExponent x.chars)
  | .scalar (.text s) => textChars s
  | .scalar (.moment m) => m.chars
  | .list items => (itemsChars items).map listChars
  | .object members => (members.mapM fun member => textChars member.1).map listChars

/-- The texts of the items of a list. -/
def itemsChars : List Datum → Except PrintFault (List (List Char))
  | [] => .ok []
  | item :: items => do
    let item ← valueChars item
    let rest ← itemsChars items
    pure (item :: rest)

end

/-- Tables under the keys or paths that they are written with. -/
abbrev Tables := List (List Char × Members)

/-- A path, and a key under it. -/
def pathOf (path key : List Char) : List Char := if path.isEmpty then key else path ++ '.' :: key

/-- What stands in a table: the lines of its plain values, its lists of tables, and the tables
inside it, which are written later. -/
structure Body where
  lines : List Char := []
  lists : List Char := []
  tables : Tables := []

/-- The lines of a table. -/
def Body.text (body : Body) : List Char := body.lines ++ body.lists

/-- A function that writes the table with a path. -/
abbrev TablePrinter := (path : List Char) → Members → Except PrintFault Body

/-- Writes some tables, and collects the tables inside them under their paths. -/
def printLevel (print : TablePrinter) (path : List Char) :
    Tables → Tables → Except PrintFault (List (List Char × Body) × Tables)
  | inner, [] => .ok ([], inner)
  | inner, (key, members) :: tables => do
    let here := pathOf path key
    let body ← print here members
    let inner := body.tables.foldl (fun inner table =>
      Assoc.put (pathOf key table.1) table.2 inner) inner
    let (bodies, inner) ← printLevel print path inner tables
    pure ((here, body) :: bodies, inner)

/-- Writes some tables and then all tables inside them, level by level, as far as there are no more
than `fuel` levels. -/
def levels (print : TablePrinter) (path : List Char) :
    (fuel : Nat) → Tables → Except PrintFault (List (List Char × Body))
  | 0, _ | _, [] => .ok []
  | fuel + 1, tables => do
    let (bodies, inner) ← printLevel print path [] tables
    let rest ← levels print path fuel inner
    pure (bodies ++ rest)

/-- A header and the lines under it. -/
def underHeader (path lines : List Char) : List Char := '[' :: path ++ ']' :: '\n' :: lines

/-- A table of a list of tables, with all tables inside it. A blank line follows its plain values;
a table without any has it before its lists. -/
def printItem (print : TablePrinter) (fuel : Nat) (path : List Char) :
    Datum → Except PrintFault (List Char)
  | .object members => do
    let body ← print path members
    let inner ← levels print path fuel body.tables
    let inner := inner.flatMap fun (path, body) =>
      if body.text.isEmpty then [] else underHeader path body.text
    let text := if body.text.head? = some '[' then '\n' :: body.text else body.text ++ ['\n']
    pure (underHeader ('[' :: path ++ [']']) (text ++ inner))
  | .list [] | .scalar (.text "") => .ok (underHeader ('[' :: path ++ [']']) ['\n'])
  | _ => .error .mixedList

/-- The items of a list in which there is a table. -/
def tableItems? : Datum → Option (List Datum)
  | .list items => if items.any fun item => item.members?.isSome then some items else none
  | _ => none

/-- Writes a member of a table. -/
def Body.add (print : TablePrinter) (fuel : Nat) (path : List Char) (body : Body) :
    String × Datum → Except PrintFault Body
  | (_, .scalar .null) => .ok body
  | (key, .object members) => do
    let key ← keyChars key
    pure { body with tables := Assoc.put key members body.tables }
  | (key, value) => do
    let key ← keyChars key
    match tableItems? value with
    | some items => do
      let texts ← items.mapM (printItem print fuel (pathOf path key))
      pure { body with lists := body.lists ++ texts.flatten }
    | none => do
      let value ← valueChars value
      pure { body with lines := body.lines ++ key ++ ' ' :: '=' :: ' ' :: value ++ ['\n'] }

/-- Writes the table with a path. Tables and lists are nested less deeply than `fuel`. -/
def printTable : (fuel : Nat) → TablePrinter
  | 0, _, _ => .ok {}
  | fuel + 1, path, members => members.foldlM (Body.add (printTable fuel) fuel path) {}

/-- The text with a table added. -/
def addTable (text : List Char) : List Char × Body → List Char
  | (path, body) =>
    if body.text.isEmpty && !body.tables.isEmpty then text
    else
      let gap := if text.isEmpty || ['\n', '\n'].isSuffixOf text then [] else ['\n']
      text ++ gap ++ underHeader path body.text

/-- The text of a table of settings. -/
def print (members : Members) : Except PrintFault String := do
  let fuel := nesting (.object members)
  let body ← printTable fuel [] members
  let inner ← levels (printTable fuel) [] fuel body.tables
  pure (String.ofList (inner.foldl addTable body.text))

end ContextSlice.Shell.Toml
