import ContextSlice.Assoc
import ContextSlice.Disk.Path
import ContextSlice.Text.Lines
import ContextSlice.Text.Quoted
import ContextSlice.Text.Utf8

/-!
# Disks

A disk is a table of folders and files (`Disk`), each at its place: the names that lead to it from
the working folder, or from `/` for an absolute path. A place outside the working folder begins
with `..`, once for every folder to go up (`Place`). The working folder, the folders around it and
`/` are always there. A path is followed name by name through folders that exist (`Disk.locate`).
Every operation either succeeds or fails with the fault and the path that the operating system
would name (`DiskFault`); the operations that write give back the new disk, and one that takes
several steps gives back the disk that the steps before a fault have left.
-/

namespace ContextSlice

/-- The content of a file: a text, or bytes that are not UTF-8. -/
inductive Content where
  | text (s : String)
  | bytes (data : List UInt8)
  deriving DecidableEq, Repr

/-- The content that consists of some bytes. -/
def Content.ofBytes (data : List UInt8) : Content :=
  match Text.Utf8.decode data with
  | .ok s => .text s
  | .error _ => .bytes data

/-- What is at a place: a folder or a file. -/
inductive Entry where
  | folder
  | file (content : Content)
  deriving DecidableEq, Repr

/-- Whether an entry is a file. -/
def Entry.isFile : Entry → Bool
  | .file _ => true
  | .folder => false

/-- The names that lead to a folder or file; `..` comes at most at the start. -/
abbrev Place := List String

/-- The place of the folder around a place. -/
def Place.up (place : Place) : Place :=
  if place = ["/"] then place
  else if place.all (· = "..") then place ++ [".."]
  else place.dropLast

/-- Folders and files at their places. -/
structure Disk where
  entries : Assoc Place Entry
  deriving DecidableEq, Repr

/-- Why an operation on a disk fails. Only a path with the null character in it is refused before
the operating system is asked. -/
inductive DiskProblem where
  | missing
  | exists
  | notFolder
  | isFolder
  | tooLong
  | nullCharacter
  deriving DecidableEq, Repr

/-- A failed operation: what is wrong, and the path that was asked for. -/
structure DiskFault where
  problem : DiskProblem
  path : FilePath
  deriving DecidableEq, Repr

/-- What a message says about a failed operation: the number and the words of the operating system
for the problem, and the path. -/
def DiskFault.message (fault : DiskFault) : String :=
  let about (words : String) : String := words ++ ": " ++ Text.quoted fault.path.text
  match fault.problem with
  | .missing => about "[Errno 2] No such file or directory"
  | .exists => about "[Errno 17] File exists"
  | .notFolder => about "[Errno 20] Not a directory"
  | .isFolder => about "[Errno 21] Is a directory"
  | .tooLong => about "[Errno 36] File name too long"
  | .nullCharacter => "embedded null byte"

namespace Disk

/-- The disk on which there is nothing. -/
def empty : Disk := ⟨[]⟩

/-- The greatest number of bytes in a name. -/
def nameLimit : Nat := 255

/-- The greatest number of bytes in a path. -/
def pathLimit : Nat := 4095

/-- The place at which following a path begins. -/
def start (path : FilePath) : Place := if path.slashes = 0 then [] else ["/"]

variable (disk : Disk)

/-- What is at a place. -/
def entry? (place : Place) : Option Entry :=
  if place = ["/"] ∨ place.all (· = "..") then some .folder else disk.entries.lookup place

/-- Follows names from a place; only what they lead to need not exist. -/
def locate (here : Place) : List String → Except DiskProblem Place
  | [] => .ok here
  | part :: parts =>
    match disk.entry? here with
    | none => .error .missing
    | some (.file _) => .error .notFolder
    | some .folder =>
      if nameLimit < part.utf8ByteSize then .error .tooLong
      else locate (if part = ".." then here.up else here ++ [part]) parts

/-- The place that a path leads to. -/
def place (path : FilePath) : Except DiskProblem Place :=
  if path.parts.any fun part => part.contains '\x00' then .error .nullCharacter
  else if pathLimit < path.text.utf8ByteSize then .error .tooLong
  else disk.locate (start path) path.parts

/-- What a path leads to, if anything. Whether it leads to something cannot be told if it is too
long. -/
def find? (path : FilePath) : Except DiskFault (Option Entry) :=
  match disk.place path with
  | .ok place => .ok (disk.entry? place)
  | .error .tooLong => .error ⟨.tooLong, path⟩
  | .error _ => .ok none

/-- Whether a path leads to something. -/
def has (path : FilePath) : Except DiskFault Bool := (disk.find? path).map (·.isSome)

/-- Whether a path leads to a file. -/
def isFile (path : FilePath) : Except DiskFault Bool := (disk.find? path).map (·.any Entry.isFile)

/-- Whether a path leads to a folder. -/
def isFolder (path : FilePath) : Except DiskFault Bool :=
  (disk.find? path).map (· = some .folder)

/-- The content of the file at a path. -/
def content (path : FilePath) : Except DiskFault Content :=
  match disk.place path with
  | .error problem => .error ⟨problem, path⟩
  | .ok place =>
    match disk.entry? place with
    | none => .error ⟨.missing, path⟩
    | some .folder => .error ⟨.isFolder, path⟩
    | some (.file content) => .ok content

/-- Writes a text to the file at a path, which is made if it does not exist. -/
def write (path : FilePath) (s : String) : Except DiskFault Disk :=
  match disk.place path with
  | .error problem => .error ⟨problem, path⟩
  | .ok place =>
    match disk.entry? place with
    | some .folder => .error ⟨.isFolder, path⟩
    | _ => .ok ⟨Assoc.put place (.file (.text s)) disk.entries⟩

/-- Writes a text to a file that must not exist yet. -/
def create (path : FilePath) (s : String) : Except DiskFault Disk :=
  match disk.place path with
  | .error problem => .error ⟨problem, path⟩
  | .ok place => if (disk.entry? place).isSome then .error ⟨.exists, path⟩ else disk.write path s

/-- Makes one folder, in a folder that exists. -/
def makeFolder (path : FilePath) : Except DiskFault Disk :=
  match disk.place path with
  | .error problem => .error ⟨problem, path⟩
  | .ok place =>
    if (disk.entry? place).isSome then .error ⟨.exists, path⟩
    else .ok ⟨Assoc.put place .folder disk.entries⟩

/-- Makes one folder unless there is one already. -/
def ensureFolder (path : FilePath) : Except DiskFault Disk :=
  match disk.makeFolder path with
  | .ok disk => .ok disk
  | .error ⟨.nullCharacter, _⟩ => .error ⟨.nullCharacter, path⟩
  | .error fault =>
    match disk.isFolder path with
    | .error fault => .error fault
    | .ok found => if found then .ok disk else .error fault

/-- Makes a folder unless there is one already, and before it the folders around it as far as
they are missing, at most `depth` of them. The result is the disk, whatever has been made on it,
and the fault if there was one. -/
def ensureFolders (disk : Disk) (path : FilePath) : (depth : Nat) → Disk × Option DiskFault
  | 0 => lastStep disk
  | depth + 1 =>
    match disk.makeFolder path with
    | .error ⟨.missing, _⟩ =>
      match ensureFolders disk path.parent depth with
      | (disk, none) => lastStep disk
      | found => found
    | _ => lastStep disk
where
  /-- Makes the folder at the path itself. -/
  lastStep (disk : Disk) : Disk × Option DiskFault :=
    match disk.ensureFolder path with
    | .ok disk => (disk, none)
    | .error fault => (disk, some fault)

/-- Makes a folder with all folders around it, unless there is one already. -/
def makeFolders (path : FilePath) : Disk × Option DiskFault :=
  disk.ensureFolders path path.parts.length

/-- The names of what is in the folder at a place. -/
def children (here : Place) : List String :=
  disk.entries.filterMap fun (place, _) =>
    if place.dropLast = here then place.getLast? else none

/-- The names of the files in the folder at a path; none if it is no folder. -/
def files (path : FilePath) : Except DiskFault (List String) :=
  match disk.place path with
  | .error .tooLong => .error ⟨.tooLong, path⟩
  | .error _ => .ok []
  | .ok here =>
    if disk.entry? here = some .folder then
      (disk.children here).filterM fun name => disk.isFile (path.child name)
    else .ok []

end Disk

/-- Why the text of a file cannot be read. -/
inductive ReadFault where
  | disk (fault : DiskFault)
  | encoding (fault : Text.Utf8.Fault)
  deriving DecidableEq, Repr

/-- What a message says about a text that cannot be read. -/
def ReadFault.message : ReadFault → String
  | .disk fault => fault.message
  | .encoding fault => fault.message

/-- Reads a content as a text, every line ending as one line feed. -/
def Content.read : Content → Except Text.Utf8.Fault String
  | .text s => .ok (String.ofList (Text.unifyNewlines s.toList))
  | .bytes data => (Text.Utf8.decode data).map fun s => String.ofList (Text.unifyNewlines s.toList)

/-- Reads the text of the file at a path. -/
def Disk.readText (disk : Disk) (path : FilePath) : Except ReadFault String :=
  match disk.content path with
  | .error fault => .error (.disk fault)
  | .ok content =>
    match content.read with
    | .error fault => .error (.encoding fault)
    | .ok s => .ok s

end ContextSlice
