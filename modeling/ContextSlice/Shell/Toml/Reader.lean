import ContextSlice.Shell.Toml.Lines
import ContextSlice.Shell.Toml.Value

/-!
# Reading TOML

Reading a table of settings from a text (`Toml.read`). Every line that means something is either a
header, which opens a table, or an entry for the table that is open; a line may also hold several
entries between braces. A value that goes on in the next line does so for as many lines as it takes
to close it (`Pending`); one that is never closed is left out.
-/

namespace ContextSlice.Shell.Toml

/-- A value that goes on in the next line: its key, its characters so far, and whether a backslash
at the end of the line joins it to the next one. -/
structure Pending where
  name : String
  value : List Char
  joined : Bool
  deriving DecidableEq, Repr

namespace Pending

/-- A value that goes on, with the end of its line. A backslash at the end is left out, and else
there is a line feed. -/
def ofLine (name : String) (value : List Char) : Pending :=
  if endsEscaped value then { name, value := value.dropLast, joined := true }
  else { name, value := value ++ ['\n'], joined := false }

/-- Whether a line closes the value that it ends. -/
def isClosedBy (value line : List Char) : Except Fault Bool :=
  match value.head? with
  | some '[' => if line.isEmpty then .error .cutShort else .ok (line.getLast? = some ']')
  | some quote => .ok (2 < line.length && endsTriple quote line)
  | none => .ok false

end Pending

/-- What has been read: the table so far, the steps to the table that is open, the names that are
noted of tables that came to be by the way, and the value that goes on in the next line. -/
structure Reading where
  table : Datum := .object []
  here : List Step := []
  noted : List String := []
  pending : Option Pending := none

namespace Reading

variable (reading : Reading)

/-- Takes a header in. -/
def addHeader (line : List Char) : Except Fault Reading := do
  let (isList, names) ← headerNames line
  let ⟨table, here, noted⟩ ← openTable isList ⟨reading.table, [], reading.noted⟩ names
  pure { reading with table, here, noted }

/-- Changes the table that is open. -/
def update (change : Datum → Except Fault Datum) : Except Fault Reading :=
  (updateAt change reading.here reading.table).map ({ reading with table := · })

/-- Takes a line with an equals sign in. -/
def addEntry (line : List Char) : Except Fault Reading := do
  let entry ← readEntry line
  let next ← reading.update (entry.addTo readValue)
  if ← goesOn entry.value then
    pure { next with pending := some (Pending.ofLine entry.name entry.value) }
  else pure next

/-- Takes a line in that begins with a brace. -/
def addInline (line : List Char) : Except Fault Reading := do
  if line.getLast? ≠ some '\x7d' then .error .malformed
  let entries ← inlineEntries line
  reading.update (addEntries readValue entries)

/-- Takes a line in that does not go on with a value. -/
def add (line : List Char) : Except Fault Reading :=
  match line.head? with
  | none => .ok reading
  | some '[' => reading.addHeader line
  | some '\x7b' => reading.addInline line
  | _ => if line.contains '=' then reading.addEntry line else .ok reading

/-- Takes a line in that goes on with a value. Once the value is closed it stands in the table that
is open. -/
def goOn (pending : Pending) (line : List Char) : Except Fault Reading := do
  let value := pending.value ++ line
  if ← Pending.isClosedBy value line then
    let found ← readValue true value
    let next ← reading.update (putOver pending.name found)
    pure { next with pending := none }
  else pure { reading with pending := some (Pending.ofLine pending.name value) }

/-- Takes a line in. Blanks at its ends count only within a text of several lines. -/
def addLine (line : List Char) : Except Fault Reading :=
  let trimmed := Text.trimBy Text.isBlank line
  match reading.pending with
  | none => reading.add trimmed
  | some pending =>
    if !pending.joined then reading.goOn pending line
    else if trimmed.isEmpty then .ok reading
    else reading.goOn pending trimmed

end Reading

/-- Reads a table of settings. -/
def read (s : String) : Except Fault Members := do
  let lines ← logicalLines s.toList
  let reading ← lines.foldlM Reading.addLine {}
  pure (reading.table.members?.getD [])

end ContextSlice.Shell.Toml
