import ContextSlice.Decimal.Integer
import ContextSlice.Disk.JsonFile
import ContextSlice.Json.Printer
import ContextSlice.Slice.Basic
import ContextSlice.Snapshot.Instant
import ContextSlice.Text.Search

/-!
# Snapshots

The snapshots of a folder are files named by the instant at which they were written
(`Snapshot.name`). A snapshot never replaces anything: while there is something of its name
already, a number counting from one is put after the stamp (`Snapshot.freshPath`). A slice may be
made by hand, and then a whole number in it may have more digits than can be written
(`Snapshot.save`); in a document there is no such number. The names of the snapshots are listed in
their order, the greatest first (`Snapshot.names`).
-/

namespace ContextSlice.Snapshot

/-- How the names of snapshots begin and end. -/
def nameStart : String := "ast-context-"
@[inherit_doc nameStart] def nameEnd : String := ".json"

/-- The name of a snapshot by its stamp and its number; the number zero is not written. -/
def name (stamp : String) : (number : Nat) → String
  | 0 => nameStart ++ stamp ++ nameEnd
  | number + 1 => nameStart ++ stamp ++ "-" ++ toString (number + 1) ++ nameEnd

/-- Whether a file with this name is a snapshot. -/
def isName (name : String) : Bool := Text.startsWith name nameStart && Text.endsWith name nameEnd

/-- The first path that is free in a folder, from the name with a number on, when there are
`more` names to try after it. -/
def firstFree (disk : Disk) (folder : FilePath) (stamp : String) (number : Nat) :
    (more : Nat) → Except DiskFault FilePath
  | 0 => .ok (folder.child (name stamp number))
  | more + 1 =>
    let path := folder.child (name stamp number)
    match disk.has path with
    | .error fault => .error fault
    | .ok false => .ok path
    | .ok true => firstFree disk folder stamp (number + 1) more

/-- The path of a new snapshot in a folder. There are more names to try than files and folders on
the disk, so one of them is free. -/
def freshPath (disk : Disk) (folder : FilePath) (stamp : String) : Except DiskFault FilePath :=
  firstFree disk folder stamp 0 (disk.entries.length + 1)

/-- The text of a snapshot. -/
def text (slice : Slice Json) : String := Json.print (.object slice.payload)

/-- Writes a snapshot into a folder that exists. -/
def writeInto (disk : Disk) (folder : FilePath) (clock : Instant) (slice : Slice Json) :
    Except DiskFault (FilePath × Disk) := do
  let path ← freshPath disk folder clock.stamp
  let disk ← disk.create path (text slice)
  pure (path, disk)

/-- Writes a snapshot into a folder, which is made if it does not exist. The result is the path of
the new file, and the disk afterwards; if the snapshot cannot be written, there may still be new
folders on it. -/
def write (disk : Disk) (folder : FilePath) (clock : Instant) (slice : Slice Json) :
    Except DiskFault FilePath × Disk :=
  match disk.makeFolders folder with
  | (disk, some fault) => (.error fault, disk)
  | (disk, none) =>
    match writeInto disk folder clock slice with
    | .ok (path, disk) => (.ok path, disk)
    | .error fault => (.error fault, disk)

/-- Why a slice cannot be saved: the disk refuses, or a whole number has too many digits. -/
inductive SaveFault where
  | disk (fault : DiskFault)
  | numberTooLong
  deriving DecidableEq, Repr

/-- Whether a value is a whole number that has too many digits to be written. -/
def isTooLong : Json → Bool
  | .int n => digitLimit < (Nat.toDigits 10 n.natAbs).length
  | _ => false

/-- Saves a slice in a folder like `write`. The numbers in it are looked at when the folder has been
made and the path is known, but before the file is created. -/
def save (disk : Disk) (folder : FilePath) (clock : Instant) (slice : Slice Json) :
    Except SaveFault FilePath × Disk :=
  match write disk folder clock slice with
  | (.error fault, later) => (.error (.disk fault), later)
  | (.ok path, later) =>
    if (Json.object slice.payload).leaves.any isTooLong then
      (.error .numberTooLong, (disk.makeFolders folder).1)
    else (.ok path, later)

/-- What a message says about a snapshot that could not be written. -/
def writeFaultMessage (folder : FilePath) (fault : DiskFault) : String :=
  "Failed to write snapshot to " ++ folder.text ++ ": " ++ fault.message

/-- What a message says about a slice that could not be saved. -/
def SaveFault.message (folder : FilePath) : SaveFault → String
  | .disk fault => writeFaultMessage folder fault
  | .numberTooLong =>
    s!"Exceeds the limit ({digitLimit} digits) for integer string conversion; " ++
      "use sys.set_int_max_str_digits() to increase the limit"

/-- The names of the snapshots in a folder, from the last to the first. -/
def names (disk : Disk) (folder : FilePath) : Except DiskFault (List String) :=
  (disk.files folder).map fun found => (found.filter isName).mergeSort fun a b => b ≤ a

/-- The name of the last snapshot in a folder. -/
def latest? (disk : Disk) (folder : FilePath) : Except DiskFault (Option String) :=
  (names disk folder).map List.head?

/-- Why a snapshot cannot be read. -/
inductive Fault where
  | missing (name : String) (folder : FilePath)
  | unreadable (fault : LoadFault)
  deriving DecidableEq, Repr

/-- What a message says about a snapshot that cannot be read. -/
def Fault.message : Fault → String
  | .missing name folder => "Snapshot '" ++ name ++ "' not found in " ++ folder.text
  | .unreadable fault => fault.message

/-- Reads the snapshot with a name, which is a path that begins in the folder. -/
def read (disk : Disk) (folder : FilePath) (name : String) : Except Fault Json :=
  let path := folder.child name
  match disk.isFile path with
  | .error fault => .error (.unreadable (.unreadable (.disk fault)))
  | .ok false => .error (.missing name folder)
  | .ok true =>
    match disk.readJson path with
    | .ok value => .ok value
    | .error fault => .error (.unreadable fault)

end ContextSlice.Snapshot
