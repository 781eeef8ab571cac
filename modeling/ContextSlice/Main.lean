import ContextSlice.Shell.CommandLine.Run
import ContextSlice.Shell.Libraries
import Std.Time.Format

/-!
# The program

The outer layer of the command line: it reads the files that a command may need, runs the command
on them, and writes what the command has written. The files that it reads are the configuration
file, the document that the configuration or the environment names, every file that a word of the
command line names, and for commands about snapshots every file whose path is a line of the
standard input.
-/

namespace ContextSlice

/-- The path of a place on a disk. -/
def placeText : Place → String
  | "/" :: names => "/" ++ "/".intercalate names
  | names => "/".intercalate names

/-- The disk with a file at a path and the folders around it, as far as they can be made. -/
def placeFile (disk : Disk) (path : FilePath) (content : Content) : Disk :=
  let (disk, _) := disk.makeFolders path.parent
  match disk.place path with
  | .error _ => disk
  | .ok place => ⟨Assoc.put place (.file content) disk.entries⟩

/-- The disk with the file at a path, if there is one. -/
def loadFile (disk : Disk) (path : FilePath) : IO Disk := do
  try
    let bytes ← IO.FS.readBinFile path.text
    pure (placeFile disk path (Content.ofBytes bytes.toList))
  catch _ => pure disk

/-- The disk with the files at some paths. -/
def loadFiles (disk : Disk) (paths : List FilePath) : IO Disk := paths.foldlM loadFile disk

/-- The paths that a word of the command line may name. -/
def wordPaths (word : String) : List FilePath :=
  [FilePath.ofText word, FilePath.ofText (String.ofList (word.toList.drop 2))] ++
    ((Text.splitAt '=' word).drop 1).map FilePath.ofText

/-- The lines of the standard input. -/
partial def inputLines (stream : IO.FS.Stream) : IO (List String) := do
  let line ← stream.getLine
  if line.isEmpty then pure []
  else
    let rest ← inputLines stream
    pure (Text.trim line :: rest)

/-- The reading of the clock. -/
def readClock : IO Instant := do
  let now := Std.Time.DateTime.ofTimestampWithZone (← Std.Time.Timestamp.now) Std.Time.TimeZone.UTC
  pure <| (Instant.ofParts? now.year.toInt.toNat now.month.toNat now.day.toNat now.hour.toNat
    now.minute.toNat now.second.toNat (now.nanosecond.toNat / 1000)).getD default

/-- Writes the files that a run has changed. -/
def saveFiles (before after : Disk) : IO Unit :=
  after.entries.forM fun (place, entry) =>
    match entry with
    | .file (.text s) => do
      if before.entries.lookup place ≠ some entry then
        unless place.dropLast.isEmpty do
          IO.FS.createDirAll (placeText place.dropLast)
        IO.FS.writeFile (placeText place) s
    | _ => pure ()

/-- The accounts in a table of accounts: a line for each, its fields between colons, the name first
and the home folder sixth. -/
def accountsOf (table : String) : List (String × FilePath) :=
  (Text.splitAt '\n' table).filterMap fun line =>
    match Text.splitAt ':' line with
    | name :: _ :: _ :: _ :: _ :: home :: _ => some (name, FilePath.ofText home)
    | _ => none

/-- The accounts of the system. -/
def readAccounts : IO (List (String × FilePath)) := do
  try pure (accountsOf (← IO.FS.readFile "/etc/passwd"))
  catch _ => pure []

/-- The configuration folder: the one that a variable names, or one in the home folder. -/
def configFolderOf (home : FilePath) (given? : Option String) : FilePath :=
  given?.elim (home.child ".astcontext") FilePath.ofText

/-- The surroundings of the program, with the files that some words may need. -/
def readHost (words : List String) : IO Host := do
  let home := FilePath.ofText ((← IO.getEnv "HOME").getD "/")
  let documentVariable ← IO.getEnv "AST_JSON_PATH"
  let outputVariable ← IO.getEnv "AST_CONTEXT_OUTPUT_DIR"
  let configFolder := configFolderOf home (← IO.getEnv "ASTCONTEXT_HOME")
  let workingFolder := FilePath.ofText (toString (← IO.currentDir))
  let accounts ← readAccounts
  let clock ← readClock
  let host : Host ←
    if configNames : ∀ part ∈ configFolder.parts, part.utf8ByteSize ≤ Disk.nameLimit then
      pure { Shell.libraries with
        disk := Disk.empty, workingFolder, home, accounts, configFolder, documentVariable,
        outputVariable, clock, configNames }
    else throw (IO.userError s!"File name too long: {configFolder.text}")
  let host := host.withDisk (← loadFile host.disk host.configPath)
  let configured := match Configuration.settings host [] with
    | .ok settings => settings.documentPath.toList
    | .error _ => []
  let listed ← if words.contains "snapshots" then inputLines (← IO.getStdin) else pure []
  let named := (configured ++ words.flatMap wordPaths).filterMap host.expand
  pure (host.withDisk (← loadFiles host.disk (named ++ listed.map FilePath.ofText)))

end ContextSlice

open ContextSlice.Shell.CommandLine in
/-- Runs the command that the command line asks for. -/
def main (words : List String) : IO UInt32 := do
  if words.contains "--help" then
    (← IO.getStdout).putStr help
    return 0
  let host ← ContextSlice.readHost words
  match run host words with
  | .error fault =>
    (← IO.getStderr).putStrLn ("Error: " ++ fault.message)
    pure 2
  | .ok result =>
    ContextSlice.saveFiles host.disk result.run.disk
    (← IO.getStdout).putStr (String.join (result.run.output.map blockText))
    (← IO.getStderr).putStr result.errorText
    match result.run.fault with
    | some fault => (← IO.getStderr).putStrLn ("Error: " ++ faultMessage fault)
    | none => pure ()
    pure result.run.exitCode.toUInt32
