import ContextSlice.Text.Blank
import ContextSlice.Shell.Toml.Text

/-!
# Keys and headers in TOML

The names in a header (`headerNames`) and the names in front of an equals sign (`keyNames`). Points
stand between names, and a name with other characters than `isBare` admits stands in quotes. Where a
line has to be cut at a bracket or an equals sign, those between quotes do not count; `quoteSplits`
gives the pieces of a line in which every other one is taken to stand between quotes.
-/

namespace ContextSlice.Shell.Toml

/-- Whether a character may stand in a name without quotes. -/
def isBare (c : Char) : Bool := c.isAlphanum || c = '_' || c = '-'

/-- The pieces of a text that begins outside of quotes, given its pieces between single quotes as
far as the first double quote, last one first, and the pieces after it between double quotes. A
double quote between single ones is put back. -/
def mergeSplits : (singles : List (List Char)) → List (List Char) → List (List Char)
  | last :: singles, piece :: pieces =>
    if singles.length % 2 = 1 then
      mergeSplits ((Text.splitChars '\'' (last ++ '"' :: piece)).reverse ++ singles) pieces
    else (last :: singles).reverse ++ Text.splitChars '\'' piece ++ pieces
  | singles, pieces => singles.reverse ++ pieces

/-- The pieces of a line between its quotes. -/
def quoteSplits (cs : List Char) : List (List Char) :=
  match Text.splitChars '"' cs with
  | first :: second :: pieces =>
    if first.contains '\'' then
      mergeSplits (Text.splitChars '\'' first).reverse (second :: pieces)
    else first :: second :: pieces
  | pieces => pieces.flatMap (Text.splitChars '\'')

/-- How often a block comes in a list, when no two of its places overlap. -/
def countBlock (block cs : List Char) : Nat := (Text.splitBlock block 0 cs).length - 1

/-- How often a block comes in some pieces before the first piece outside of quotes that has it. -/
def countQuoted (block : List Char) : (quoted : Bool) → List (List Char) → Nat
  | _, [] => 0
  | quoted, piece :: pieces =>
    if !quoted && Text.hasBlock block piece then 0
    else countBlock block piece + countQuoted block (!quoted) pieces

/-- The number of the first place of a block in a line that is not between quotes, counted from
one. -/
def firstOutside (block cs : List Char) : Nat := countQuoted block false (quoteSplits cs) + 1

/-- What is before and what is after the `n`-th `c` of a list, or its last one if there are fewer;
`none` if there is none at all. -/
def cutAt? (c : Char) : (n : Nat) → List Char → Option (List Char × List Char)
  | _, [] => none
  | n, d :: cs =>
    if d = c ∧ (n ≤ 1 ∨ !cs.contains c) then some ([], cs)
    else (cutAt? c (if d = c then n - 1 else n) cs).map fun (before, after) => (d :: before, after)

/-- Whether a text begins and ends with the same quote. -/
def isEnclosed (cs : List Char) : Bool :=
  cs.length ≠ 1 && cs.head?.any (fun c => c = '"' || c = '\'') && cs.head? = cs.getLast?

/-- The pieces of a header between its points, those together that belong to a name in quotes,
which have been cut at the points in it. Every name is checked. -/
def joinNames (name : List Char) : List (List Char) → Except Fault (List (List Char))
  | [] => do
    let name ← checked name
    pure [name]
  | piece :: pieces =>
    let trimmed := Text.trimBy Text.isBlank name
    if (trimmed.head?.any fun c => c = '"' || c = '\'') && !isEnclosed trimmed then
      joinNames (trimmed ++ '.' :: piece) pieces
    else do
      let name ← checked name
      let rest ← joinNames piece pieces
      pure (name :: rest)
where
  /-- The name that a whole piece stands for. -/
  checked (piece : List Char) : Except Fault (List Char) :=
    let name := Text.trimBy Text.isBlank piece
    if isEnclosed name then .ok (strip 1 name)
    else if !name.isEmpty && name.all isBare then .ok name
    else .error .malformed

/-- Whether a header has two brackets at either end, and the names in it. Nothing may follow its
end. -/
def headerNames (line : List Char) : Except Fault (Bool × List String) :=
  let isList := (line.drop 1).head? = some '['
  let (body, mark) := if isList then (line.drop 2, [']', ']']) else (line.drop 1, [']'])
  let pieces := Text.splitBlock mark 0 body
  let n := firstOutside mark body
  if pieces.length ≤ n ∨ !((mark.intercalate (pieces.drop n)).all Text.isBlank) then
    .error .malformed
  else do
    let names ← match Text.splitChars '.' (mark.intercalate (pieces.take n)) with
      | [] => .ok []
      | name :: names => joinNames name names
    pure (isList, names.map String.ofList)

/-- The names in the pieces of a key with quotes; those between quotes are taken as they are. -/
def quotedNames : (quoted : Bool) → List (List Char) → List (List Char)
  | _, [] => []
  | true, piece :: pieces => piece :: quotedNames false pieces
  | false, piece :: pieces =>
    (Text.splitChars '.' piece).map (Text.trimBy Text.isBlank) ++ quotedNames true pieces

/-- The names of the tables on the way to a key, and the name of the key itself. Empty names on the
way are left out. -/
def keyNames (key : List Char) : Except Fault (List String × String) :=
  if key.contains '.' then
    let names := if key.contains '"' || key.contains '\'' then quotedNames false (quoteSplits key)
      else Text.splitChars '.' key
    match names.reverse.dropWhile List.isEmpty with
    | [] => .error .cutShort
    | last :: before =>
      .ok ((before.reverse.filter (!·.isEmpty)).map String.ofList,
        String.ofList (Text.trimBy Text.isBlank last))
  else if key.isEmpty then .error .cutShort
  else if isEnclosed key ∨ key = ['"'] ∨ key = ['\''] then do
    let name ← unescape (strip 1 key)
    pure ([], String.ofList name)
  else .ok ([], String.ofList key)

end ContextSlice.Shell.Toml
