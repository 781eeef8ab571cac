import ContextSlice.Disk.Basic
import ContextSlice.Json.Reader

/-!
# JSON files

Reading the JSON value in a file (`Disk.readJson`) fails if the file cannot be read, if it is not
UTF-8, or if its text is not JSON (`LoadFault`).
-/

namespace ContextSlice

/-- Why the JSON value in a file cannot be read. -/
inductive LoadFault where
  | unreadable (fault : ReadFault)
  | malformed (fault : Json.Fault)
  deriving DecidableEq, Repr

/-- What a message says about a value that cannot be read. -/
def LoadFault.message : LoadFault → String
  | .unreadable fault => fault.message
  | .malformed fault => fault.message

/-- Reads the JSON value in the file at a path. -/
def Disk.readJson (disk : Disk) (path : FilePath) : Except LoadFault Json :=
  match disk.readText path with
  | .error fault => .error (.unreadable fault)
  | .ok s =>
    match Json.read s with
    | .error fault => .error (.malformed fault)
    | .ok value => .ok value

end ContextSlice
