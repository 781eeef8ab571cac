import ContextSlice.Assoc
import ContextSlice.Datum
import ContextSlice.Shell.Toml.Fault

/-!
# Tables of a TOML text

Building the table that a text describes. A value inside it is found by the steps that lead there
(`Step`, `valueAt`, `updateAt`). A header opens a table (`openTable`), which must not have been
opened before, or adds one to a list of tables; the tables on the way come to be as they are needed.
A value is put into the table that is open, or into one inside it (`makeTables`, `putNew`), under a
key that has none.
-/

namespace ContextSlice.Shell.Toml

/-- A step into a value: to the value under a name of a table, or to the last item of a list. -/
inductive Step where
  | named (name : String)
  | last
  deriving DecidableEq, Repr

/-- The value that some steps lead to. -/
def valueAt : List Step → Datum → Except Fault Datum
  | [], value => .ok value
  | .named name :: steps, .object members =>
    (members.lookup name).elim (.error .notTable) (valueAt steps)
  | .last :: steps, .list items => items.getLast?.elim (.error .cutShort) (valueAt steps)
  | _ :: _, _ => .error .notTable

/-- Changes the value that some steps lead to. -/
def updateAt (change : Datum → Except Fault Datum) : List Step → Datum → Except Fault Datum
  | [], value => change value
  | .named name :: steps, .object members =>
    match members.lookup name with
    | none => .error .notTable
    | some value =>
      (updateAt change steps value).map fun value => .object (Assoc.put name value members)
  | .last :: steps, .list items =>
    match items.getLast? with
    | none => .error .cutShort
    | some value => (updateAt change steps value).map fun value => .list (items.dropLast ++ [value])
  | _ :: _, _ => .error .notTable

/-- The value in which the tables that some names lead to have been made as far as they were
missing. -/
def makeTables : List String → Datum → Except Fault Datum
  | [], value => .ok value
  | name :: names, .object members =>
    (makeTables names ((members.lookup name).getD (.object []))).map fun value =>
      .object (Assoc.put name value members)
  | _ :: _, _ => .error .notTable

/-- The table with a value under a name that has none. -/
def putNew (name : String) (value : Datum) : Datum → Except Fault Datum
  | .object members =>
    if Assoc.has members name then .error .malformed
    else .ok (.object (Assoc.put name value members))
  | _ => .error .malformed

/-- The table with a value under a name, whether it is new or not. -/
def putOver (name : String) (value : Datum) : Datum → Except Fault Datum
  | .object members => .ok (.object (Assoc.put name value members))
  | _ => .error .notTable

/-- A table that is being opened: everything that has been read, the steps to where the opening has
come, and the names that are noted of tables that came to be on the way. -/
structure Opening where
  table : Datum
  here : List Step
  noted : List String

namespace Opening

variable (isList isLast : Bool) (opening : Opening)

/-- Changes the value where the opening has come. -/
def update (change : Datum → Except Fault Datum) : Except Fault Opening :=
  (updateAt change opening.here opening.table).map ({ opening with table := · })

/-- What a name stands for that is new: a table, or a list of one table if the header ends with the
name and is of a list. -/
def newValue : Datum := if isList && isLast then .list [.object []] else .object []

/-- Comes to a name whose value is there already. At the end of a header the value must have come to
be on the way, or be the list that the header adds to. A name that is noted may be used once more,
and is no longer noted then. -/
def reuse (name : String) (value : Datum) : Except Fault Opening :=
  if !isLast then .ok opening
  else if opening.noted.contains name then
    if isList then .error .malformed
    else .ok { opening with noted := opening.noted.erase name }
  else if !isList then .error .malformed
  else
    match value with
    | .list items =>
      opening.update (putOver name (.list (items ++ [.object []])))
    | _ => .error .notList

/-- Finds or makes the value under the next name of a header. In a list the name belongs to the last
item, and then it does not matter whether it is new. -/
def find (name : String) : Except Fault Opening := do
  match ← valueAt opening.here opening.table with
  | .object members =>
    match members.lookup name with
    | some value => opening.reuse isList isLast name value
    | none =>
      let made ← opening.update (putNew name (newValue isList isLast))
      pure (if isLast then made else { made with noted := name :: made.noted })
  | .list items =>
    let inside := { opening with here := opening.here ++ [.last] }
    match items.getLast? with
    | none => .error .cutShort
    | some (.object members) =>
      if Assoc.has members name then pure inside
      else inside.update (putNew name (newValue isList isLast))
    | some _ => .error .notTable
  | .scalar (.text "") => .error .cutShort
  | _ => .error .notTable

/-- Enters the value under a name that has been found. The header of a list goes on with the last
item of every list. -/
def enter (name : String) : Except Fault Opening := do
  let inside := { opening with here := opening.here ++ [.named name] }
  if !isList then pure inside
  else
    match ← valueAt inside.here inside.table with
    | .list [] | .scalar (.text "") => .error .cutShort
    | .list _ => pure { inside with here := inside.here ++ [.last] }
    | .object _ | .scalar (.text _) => pure inside
    | _ => .error .notTable

end Opening

/-- Opens the table that the names of a header lead to. -/
def openTable (isList : Bool) (opening : Opening) : List String → Except Fault Opening
  | [] => .ok opening
  | name :: names => do
    if name = "" then .error .malformed
    let found ← opening.find isList names.isEmpty name
    let inside ← found.enter isList name
    openTable isList inside names

end ContextSlice.Shell.Toml
