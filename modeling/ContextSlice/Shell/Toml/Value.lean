import ContextSlice.Shell.Toml.Entry
import ContextSlice.Shell.Toml.Inline

/-!
# Values in TOML

Reading a value (`readValue`): a text between quotes, a truth value, a number, a list or a table
between braces. A list is cut into its items at the commas (`listItems`). If its first item is a
list, then commas inside brackets do not count (`splitOutside`); if it is a text, then pieces are
put together again until every quote is closed (`joinTexts`); and if it is a table, then the list is
cut at the braces. All items of a list are of one kind.
-/

namespace ContextSlice.Shell.Toml

/-- The pieces of a list between the commas outside of brackets. -/
def splitOutside (depth : Int) : List Char → List (List Char)
  | [] => [[]]
  | c :: cs =>
    if c = ',' ∧ depth = 0 then [] :: splitOutside depth cs
    else
      let depth := if c = '[' then depth + 1 else if c = ']' then depth - 1 else depth
      match splitOutside depth cs with
      | [] => [[c]]
      | piece :: pieces => (c :: piece) :: pieces

/-- Whether a text that begins with a quote ends with the same one, not escaped by a backslash. -/
def isBounded : List Char → Bool
  | [] => true
  | c :: cs => (c :: cs).getLast? = some c && !endsEscaped cs.dropLast

/-- Whether a piece begins with three equal characters and does not end with them. -/
def opensTriple (cs : List Char) : Bool :=
  match cs with
  | a :: b :: c :: _ =>
    let (second, third) := (cs.reverse[1]?, cs.reverse[2]?)
    a = b && b = c && second ≠ some a && third ≠ some a
  | _ => false

/-- Whether a piece of a list of texts is an item of it. -/
def isWhole (piece : List Char) : Bool :=
  let piece := Text.trimBy Text.isBlank piece
  isBounded piece && !opensTriple piece

/-- Puts the pieces of a list of texts together as long as they are not whole. The last piece is
taken as it is. -/
def joinTexts (piece : List Char) : List (List Char) → Except Fault (List (List Char))
  | [] => if isWhole piece then .ok [piece] else .error .cutShort
  | [last] => if isWhole piece then .ok [piece, last] else joinTexts (piece ++ ',' :: last) []
  | next :: pieces =>
    if isWhole piece then (joinTexts next pieces).map (piece :: ·)
    else joinTexts (piece ++ ',' :: next) pieces

/-- The items of a list as they are written. -/
def listItems (cs : List Char) : Except Fault (List (List Char)) :=
  let body := strip 1 cs
  if body.contains '[' && (body.takeWhile (· ≠ '[')).all Text.isBlank then
    .ok (splitOutside 0 body)
  else if (inside cs).head? = some '\x7b' then .ok (inlineTables none false body)
  else
    match Text.splitChars ',' body with
    | piece :: next :: pieces =>
      if beginsWithText cs then joinTexts piece (next :: pieces) else .ok (piece :: next :: pieces)
    | pieces => .ok pieces

/-- Whether two values are of one kind. -/
def sameKind : Datum → Datum → Bool
  | .scalar (.bool _), .scalar (.bool _) | .scalar (.int _), .scalar (.int _)
  | .scalar (.real _), .scalar (.real _) | .scalar (.text _), .scalar (.text _)
  | .list _, .list _ | .object _, .object _ => true
  | .scalar (.moment m), .scalar (.moment n) => m.isTime = n.isTime
  | _, _ => false

/-- Reads the items of a list; each is of the kind of the first one. -/
def readItems (read : List Char → Except Fault Datum) (first : Option Datum) :
    List (List Char) → Except Fault (List Datum)
  | [] => .ok []
  | item :: items =>
    if item.isEmpty then readItems read first items
    else do
      let value ← read item
      if !first.all (sameKind value) then .error .malformed
      let rest ← readItems read (first <|> some value) items
      pure (value :: rest)

/-- Reads a value without blanks at its ends. Lists and tables are nested less deeply than `fuel`;
`strict` tells whether the zeros and underscores of a number stand where they may. -/
def readNested : (fuel : Nat) → (strict : Bool) → List Char → Except Fault Datum
  | 0, _, _ => .error .malformed
  | fuel + 1, strict, cs =>
    match cs with
    | [] => .error .malformed
    | '"' :: _ => (readText '"' cs).map .text
    | '\'' :: _ => (readText '\'' cs).map .text
    | '[' :: _ => do
      let items ← listItems cs
      let items := items.map (Text.trimBy Text.isBlank)
      (readItems (readNested fuel true) none items).map .list
    | '\x7b' :: _ => do
      let entries ← inlineEntries cs
      addEntries (readNested fuel) entries (.object [])
    | _ =>
      if cs = "true".toList then .ok (.scalar (.bool true))
      else if cs = "false".toList then .ok (.scalar (.bool false))
      else
        match time? cs, date? cs with
        | some time, _ => (checkTime time).map fun time => .scalar (.moment time)
        | none, some date => .ok (.scalar (.moment date))
        | none, none => readNumber strict cs

/-- Reads a value without blanks at its ends. -/
def readValue (strict : Bool) (cs : List Char) : Except Fault Datum :=
  readNested (cs.length + 1) strict cs

end ContextSlice.Shell.Toml
