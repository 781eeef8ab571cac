import ContextSlice.Shell.Toml.Key
import ContextSlice.Shell.Toml.Moment
import ContextSlice.Shell.Toml.Number
import ContextSlice.Shell.Toml.Table

/-!
# Entries of TOML

An entry is a key, an equals sign and a value for the key (`readEntry`). It is taken into a table
under the names of its key (`Entry.addTo`), by whatever reads its value. A value that is a text of
several lines, or a list with one, goes on in the next line (`goesOn`); it is not taken in before it
is closed.
-/

namespace ContextSlice.Shell.Toml

/-- A line with a key and a value: the names of the tables on the way to the key, its own name, the
characters of the value, and whether zeros and underscores stand in them where a number may have
them. -/
structure Entry where
  tables : List String
  name : String
  value : List Char
  strict : Bool
  deriving DecidableEq, Repr

/-- Whether some characters after an equals sign may be a value: they begin with a blank, a quote
or a bracket, or they are a truth value, a number in decimal, a date or a time. -/
def mayBeValue (cs : List Char) : Bool :=
  let cs' := Text.trimBy Text.isBlank cs
  cs.head?.all (fun c => [' ', '\t', '\'', '"', '[', '\x7b'].contains c) ||
    cs' = "true".toList || cs' = "false".toList || isDecimal cs || (date? cs).isSome ||
    (time? cs).isSome

/-- Cuts a line at its first equals sign after which a value may follow, beginning with the `n`-th
one. A number in which underscores stand together counts as one only after the first of these
signs. The result tells also whether zeros and underscores stand where a number may have them. -/
def cutEntry (line : List Char) (first strict : Bool) (n : Nat) :
    (fuel : Nat) → Except Fault (List Char × List Char × Bool)
  | 0 => .error .malformed
  | fuel + 1 =>
    match cutAt? '=' n line with
    | none => .error .malformed
    | some (key, value) =>
      let strict := strict && isStrict value
      let joined := first && value.head?.any Char.isDigit
      if mayBeValue (if joined then value.filter (· ≠ '_') else value) then .ok (key, value, strict)
      else if line.count '=' ≤ n then .error .malformed
      else cutEntry line false strict (n + 1) fuel

/-- Reads a line with an equals sign as an entry. -/
def readEntry (line : List Char) : Except Fault Entry := do
  let (key, value, strict) ← cutEntry line true true (firstOutside ['='] line) line.length
  let (tables, name) ← keyNames (Text.trimBy Text.isBlank key)
  pure { tables, name, value := Text.trimBy Text.isBlank value, strict }

/-- A list without its first and its last character and the blanks at its ends. -/
def inside (cs : List Char) : List Char := Text.trimBy Text.isBlank (strip 1 cs)

/-- Whether the first item of a list is a text. -/
def beginsWithText (cs : List Char) : Bool := (inside cs).head?.any fun c => c = '"' || c = '\''

/-- The last text in a list that nobody has closed: the pieces between its commas, from the last
one back to one that begins with a quote. The pieces are given last one first. -/
def lastText (piece : List Char) : List (List Char) → Except Fault (List Char)
  | [] => .ok piece
  | before :: pieces =>
    match piece.head? with
    | none => .error .cutShort
    | some c => if c = '"' ∨ c = '\'' then .ok piece else lastText (before ++ ',' :: piece) pieces

/-- The part of a value in which a text of several lines may begin: the last text of a list of texts
that is not closed, or the whole value. -/
def lastPart (value : List Char) : Except Fault (List Char) :=
  if value.head? ≠ some '[' ∨ value.getLast? = some ']' ∨ !beginsWithText value then .ok value
  else
    match (Text.splitChars ',' (Text.trimBy Text.isBlank (value.drop 1))).reverse with
    | [] => .ok []
    | piece :: pieces => lastText piece pieces

/-- Whether a text begins with three quotes without ending with three others. -/
def opensLong (cs : List Char) : Except Fault Bool :=
  match cs with
  | [] => .error .cutShort
  | quote :: rest =>
    if !isQuote quote then .ok false
    else
      match rest with
      | [] => .error .cutShort
      | second :: rest =>
        if second ≠ quote then .ok false
        else
          match rest with
          | [] => .error .cutShort
          | third :: _ =>
            .ok (third = quote && !(5 < cs.length && endsTriple quote cs))

/-- Whether a value goes on in the next line. -/
def goesOn (value : List Char) : Except Fault Bool :=
  if value.length < 3 then .ok false else (lastPart value).bind opensLong

/-- Takes an entry into a table: the tables on the way to its key are made, and its value is read
and put there, unless it goes on in the next line. The key must be new, and a value that goes on
has to have a name. -/
def Entry.addTo (read : Bool → List Char → Except Fault Datum) (entry : Entry) (table : Datum) :
    Except Fault Datum := do
  let table ← makeTables entry.tables table
  let steps := entry.tables.map Step.named
  if ← goesOn entry.value then
    let _ ← updateAt (putNew entry.name (.scalar .null)) steps table
    if entry.name.isEmpty then .error .unnamed else pure table
  else
    let value ← read entry.strict entry.value
    updateAt (putNew entry.name value) steps table

/-- Takes entries into a table, up to the first whose value goes on in the next line. -/
def addEntries (read : Bool → List Char → Except Fault Datum) :
    List (List Char) → Datum → Except Fault Datum
  | [], table => .ok table
  | text :: texts, table => do
    let entry ← readEntry text
    let table ← entry.addTo read table
    if ← goesOn entry.value then pure table else addEntries read texts table

end ContextSlice.Shell.Toml
