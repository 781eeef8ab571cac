import ContextSlice.CommandLine.Command
import ContextSlice.CommandLine.Output
import ContextSlice.Dot
import ContextSlice.Tool.Request

/-!
# Running commands

Running a command (`CommandLine.runCommand`) gives what it writes, the disk afterwards, and the
number with which the program ends: two if the command was not used as it should be, one if it
failed, zero otherwise (`Run.exitCode`). A command that needs settings takes them from the
configuration and from its own options; if they are not valid, it is refused like a value that is
mistyped. Of the output there is what the console shows (`Run.shown`).
-/

namespace ContextSlice

namespace CommandLine

/-- Why a command ends before its work is done: a value is refused, something failed, or the console
refuses what it is to show. -/
inductive Fault where
  | badValue (reason : String)
  | configuration (fault : ConfigFault)
  | request (fault : RequestFault)
  | file (fault : LoadFault)
  | console (error : LibraryError)
  deriving DecidableEq, Repr

/-- What a message says about why a command ended. -/
def Fault.message : Fault → String
  | .badValue reason => reason
  | .configuration fault => fault.message
  | .request fault => fault.message
  | .file fault => fault.message
  | .console error => error.message

/-- What comes of running a command: the output, lines for the error output after it, whether the
command gave up on its own, the fault that ended it, the disk, and what was reported. -/
structure Run where
  output : List Block := []
  complaints : List String := []
  refused : Bool := false
  fault : Option Fault := none
  disk : Disk
  notices : List Notice := []

namespace Run

/-- The number with which the program ends. -/
def exitCode (run : Run) : Nat :=
  match run.fault with
  | some (.badValue _) => 2
  | some _ => 1
  | none => if run.refused then 1 else 0

/-- A run that a fault ends at once. -/
def failed (disk : Disk) (fault : Fault) : Run := { disk, fault := some fault }

/-- A run with more reported before it. -/
def after (notices : List Notice) (run : Run) : Run :=
  { run with notices := notices ++ run.notices }

/-- A run as the console shows its output. An error of the console ends the run, whose work is done
by then. -/
def shown (console : String → Except LibraryError String) (run : Run) : Run :=
  match shownBlocks console run.output with
  | (output, none) => { run with output }
  | (output, some error) =>
    { run with output, complaints := [], fault := some (.console error) }

end Run

variable (host : Host)

/-- A run that refuses a value. -/
def refuse (reason : String) : Run := Run.failed host.disk (.badValue reason)

/-- Runs a command that needs settings, some of which are given. -/
def withSettings (overrides : List (String × Json)) (run : Settings → Run) : Run :=
  Run.after (Configuration.notices host) <|
    match Configuration.settings host overrides with
    | .ok settings => run settings
    | .error fault =>
      if fault.refuses then refuse host ("Invalid configuration: " ++ fault.message)
      else Run.failed host.disk (.configuration fault)

/-- Runs a command that needs a session of the document. -/
def withSession (overrides : List (String × Json)) (run : Session → Run) : Run :=
  withSettings host overrides fun settings =>
    match loadDocument host settings.documentPath with
    | .error fault =>
      if fault.refuses then refuse host fault.message
      else Run.failed host.disk (.request (.document fault))
    | .ok document =>
      let document := Document.ofJson document
      Run.after (Session.openingNotices document settings)
        (run (Session.ofDocument document settings))

/-- The first text among some members of an object, or a hyphen. -/
def memberLabel (node : Json) (names : List String) : String :=
  (names.findSome? fun name => (node.member? name).bind Json.text?).getD "-"

/-- The table of the objects of a slice. -/
def nodeTable (settings : Settings) (nodes : List Json) : Table :=
  { title := s!"{nodes.length} nodes"
    columns := ["ID", "Kind", "Name"]
    rows := nodes.map fun node =>
      [memberLabel node ["id"], memberLabel node settings.kindFields, memberLabel node ["name"]] }

/-- Symbols with commas between them. -/
def symbolList (symbols : List Json) : String := ", ".intercalate (symbols.map Json.label)

/-- The output about a slice. -/
def sliceOutput (settings : Settings) (slice : Slice Json) : List Block :=
  let matched := slice.matchedSymbols
  let unmatched := slice.symbols.filter fun symbol => !Json.among matched symbol
  let nodes := Slice.identified slice.nodes slice.nodeIds
  [.line ("Matched: " ++ if matched.isEmpty then "none" else symbolList matched)] ++
    (if unmatched.isEmpty then [] else [.line ("Unmatched: " ++ symbolList unmatched)]) ++
    (if nodes.isEmpty then [.line "No nodes found."] else [.table (nodeTable settings nodes)]) ++
    [.line (s!"Endpoints: {slice.endpoints.length} | Relationships: " ++
      s!"{slice.relationships.length} | Strategy: {slice.metadata.strategy}")] ++
    (slice.savedTo.map fun path => Block.line ("Saved to " ++ path)).toList

/-- Runs the command `context`. -/
def context (symbols : List String) (overrides : List (String × Json)) (asJson : Bool) : Run :=
  withSettings host overrides fun settings =>
    let outcome := Tool.requestWith host settings (symbols.map .text)
    Run.after outcome.notices <|
      match outcome.reply with
      | .error fault => Run.failed outcome.disk (.request fault)
      | .ok (.refused reason) =>
        { disk := outcome.disk, refused := true, complaints := ["❌ " ++ reason] }
      | .ok (.slice slice snapshotFault) =>
        if asJson then
          let payload := (Reply.slice slice snapshotFault).payload
          { disk := outcome.disk, output := [.line (Json.print (.object payload))] }
        else
          { disk := outcome.disk, output := sliceOutput settings slice
            complaints := (snapshotFault.map ("⚠️  " ++ ·)).toList }

/-- The rows about one symbol in the table of the command `resolve`. -/
def resolutionRows (session : Session) (symbol : String) : List (List String) :=
  match session.explain symbol with
  | [] => [[symbol, "[red]no match[/red]", ""]]
  | found => found.map fun (strategy, ids) => [symbol, strategy.name, ", ".intercalate ids]

/-- Runs the command `resolve`. -/
def resolve (symbols : List String) (overrides : List (String × Json)) : Run :=
  withSession host overrides fun session =>
    let table :=
      { title := "Symbol resolution", columns := ["Symbol", "Strategy", "Node IDs"]
        rows := symbols.flatMap (resolutionRows session) }
    { disk := host.disk, output := [.table table] }

/-- A table of numbers, unless it is empty. -/
def frequencyTable (title key value : String) (frequencies : List (String × Nat)) : List Block :=
  if frequencies.isEmpty then []
  else
    let rows := frequencies.map fun (name, count) => [name, toString count]
    [.table { title, columns := [key, value], rows }]

/-- Runs the command `stats`. -/
def stats (overrides : List (String × Json)) : Run :=
  withSession host overrides fun session =>
    let census := session.census
    let line := s!"Nodes: {census.nodes} | Names: {census.names} | Relationships: " ++
      toString census.relationships
    { disk := host.disk
      output := .line line :: frequencyTable "Kinds" "Kind" "Count" census.kinds ++
        frequencyTable "Files" "File" "Nodes" census.files }

/-- A run that ends because the disk cannot tell what is on it. -/
def failOnDisk (fault : DiskFault) : Run :=
  Run.failed host.disk (.file (.unreadable (.disk fault)))

/-- Runs the command `export-graph`. The file that is written if none is named is in the working
folder. -/
def exportGraph (symbols : List String) (overrides : List (String × Json))
    (output : Option String) : Run :=
  withSession host overrides fun session =>
    let symbols := symbols.map Json.text
    let usual := FilePath.ofText "ast_context_graph.dot"
    let path := output.elim usual FilePath.ofText
    let shown := output.elim (host.workingFolder.join usual) FilePath.ofText
    Run.after (session.contextIdsNotices symbols) <|
      match host.disk.write path (session.dotText symbols) with
      | .ok disk =>
        { disk
          output := [.line s!"Exported {session.dotCount symbols} nodes to {shown.text}"] }
      | .error fault =>
        failOnDisk host { fault with path := shown }

/-- Runs the command `snapshots list`. -/
def listSnapshots (overrides : List (String × Json)) (limit : Nat) : Run :=
  withSettings host overrides fun settings =>
    match Snapshot.names host.disk settings.outputFolder with
    | .error fault => failOnDisk host fault
    | .ok [] => { disk := host.disk, output := [.line "No snapshots saved yet."] }
    | .ok names => { disk := host.disk, output := (names.take limit).map Block.line }

/-- Writes the snapshot with a name out. -/
def printSnapshot (folder : FilePath) (name : String) : Run :=
  match Snapshot.read host.disk folder name with
  | .ok value => { disk := host.disk, output := [.line (Json.print value)] }
  | .error (.unreadable (.unreadable fault)) => Run.failed host.disk (.file (.unreadable fault))
  | .error (.unreadable (.malformed (.tooLong digits))) =>
    Run.failed host.disk (.file (.malformed (.tooLong digits)))
  | .error fault => refuse host fault.message

/-- Runs the command `snapshots show`. -/
def showSnapshot (name? : Option String) (overrides : List (String × Json)) : Run :=
  withSettings host overrides fun settings =>
    let folder := settings.outputFolder
    match name? with
    | some name => printSnapshot host folder name
    | none =>
      match Snapshot.latest? host.disk folder with
      | .error fault => failOnDisk host fault
      | .ok none => refuse host "No snapshots saved yet."
      | .ok (some name) => printSnapshot host folder name

/-- A value of a setting as a cell of a table. -/
def settingCell : Json → String
  | .list items => ", ".intercalate (items.map Json.label)
  | value => value.label

/-- Runs the command `show-config`. -/
def showConfig : Run :=
  withSettings host [] fun settings =>
    let rows := settings.members.map fun (name, value) => [name, settingCell value]
    { disk := host.disk
      output := [.line ("Config file: " ++ host.configPath.text),
        .table { title := "Settings", columns := ["Key", "Value"], rows }] }

/-- Runs the command `set-config`. -/
def setConfig (name raw : String) : Run :=
  Run.after (Configuration.saveNotices host name raw) <|
    match Configuration.save host name raw with
    | (.ok value, disk) => { disk, output := [.line s!"Set {name} = {value.label}"] }
    | (.error fault, disk) =>
      Run.failed disk (if fault.refuses then .badValue fault.message else .configuration fault)

/-- Runs the command `reset-config`. -/
def resetConfig : Run :=
  Run.after (Configuration.notices host) <|
    match Configuration.reset host with
    | (.ok true, disk) => { disk, output := [.line "Settings reset to defaults."] }
    | (.ok false, disk) => { disk, output := [.line "No persisted settings to reset."] }
    | (.error fault, disk) => Run.failed disk (.configuration fault)

/-- What a command does, and what it hands to the console. -/
def perform : Command → Run
  | .version => { disk := host.disk, output := [.line "AST Context CLI v0.3.0"] }
  | .context symbols overrides asJson => context host symbols overrides asJson
  | .resolve symbols overrides => resolve host symbols overrides
  | .stats overrides => stats host overrides
  | .exportGraph symbols overrides output => exportGraph host symbols overrides output
  | .listSnapshots overrides limit => listSnapshots host overrides limit
  | .showSnapshot name? overrides => showSnapshot host name? overrides
  | .showConfig => showConfig host
  | .setConfig name raw => setConfig host name raw
  | .resetConfig => resetConfig host

/-- Runs a command. -/
def runCommand (command : Command) : Run := (perform host command).shown host.console

end CommandLine

end ContextSlice
