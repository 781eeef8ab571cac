import ContextSlice.Disk.JsonFile
import ContextSlice.Document.OfJson
import ContextSlice.Host

/-!
# Documents on a disk

The document of a request is a JSON file whose path the settings name (`loadDocument`). A leading
`~` in the path stands for a home folder. A list in the file is taken for the modules of a
document, and any other value but an object for a document without modules.
-/

namespace ContextSlice

/-- Why a document cannot be loaded: no path is set, there is no file, the file cannot be read, a
whole number in it has too many digits, there is no home folder with which the path could begin, or
the disk cannot tell what the path leads to. -/
inductive DocumentFault where
  | pathNotSet
  | missing (path : FilePath)
  | unreadable (path : FilePath) (fault : LoadFault)
  | numberTooLong (digits : Nat)
  | noHome
  | disk (fault : DiskFault)
  deriving DecidableEq, Repr

namespace DocumentFault

/-- What a message says about a document that cannot be loaded. -/
def message : DocumentFault → String
  | .pathNotSet => "AST_JSON_PATH environment variable is not set"
  | .missing path => "AST file not found at path: " ++ path.text
  | .unreadable path fault => "Could not parse AST file " ++ path.text ++ ": " ++ fault.message
  | .numberTooLong digits => tooLongMessage digits
  | .noHome => "Could not determine home directory."
  | .disk fault => fault.message

/-- Whether a request or a command is refused because of a fault. The other faults end it without
an answer. -/
def refuses : DocumentFault → Bool
  | .pathNotSet | .missing _ | .unreadable .. => true
  | .numberTooLong _ | .noHome | .disk _ => false

end DocumentFault

/-- The path of a document with the home folder that it begins with. An account's name cannot have
the null character in it. -/
def documentPath (host : Host) (path : FilePath) : Except DocumentFault FilePath :=
  match host.expand path with
  | some path => .ok path
  | none =>
    let hasNull := path.parts.head?.any fun part => part.contains '\x00'
    .error (if hasNull then .disk ⟨.nullCharacter, path⟩ else .noHome)

/-- The object that a value read from a file makes as a document. -/
def asDocument : Json → Json
  | .object members => .object members
  | .list items => .object [(modulesField, .list items)]
  | _ => .object [(modulesField, .list [])]

/-- Reads the document in the file at a path. -/
def readDocument (disk : Disk) (path : FilePath) : Except DocumentFault Json :=
  match disk.isFile path with
  | .error fault => .error (.disk fault)
  | .ok false => .error (.missing path)
  | .ok true =>
    match disk.readJson path with
    | .ok value => .ok (asDocument value)
    | .error (.malformed (.tooLong digits)) => .error (.numberTooLong digits)
    | .error fault => .error (.unreadable path fault)

/-- Loads the document at a path. -/
def loadDocument (host : Host) (path? : Option FilePath) : Except DocumentFault Json :=
  match path? with
  | none => .error .pathNotSet
  | some path => do
    let path ← documentPath host path
    readDocument host.disk path

end ContextSlice
