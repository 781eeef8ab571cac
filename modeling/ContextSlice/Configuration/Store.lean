import ContextSlice.Configuration.Coercion
import ContextSlice.Host
import ContextSlice.Notice

/-!
# The configuration file

Settings are kept in the table `context` of the configuration file; the rest of the file belongs to
others. A file that cannot be read counts as empty, and a notice says so (`Configuration.notices`).
Saving one setting (`Configuration.save`) leaves everything else in the file as it was, and is
refused if the settings in the file would not be valid then; resetting (`Configuration.reset`)
removes the table. The settings of a request (`Configuration.settings`) come from the file, then
from the environment, then from the request itself; what comes later counts.
-/

namespace ContextSlice

namespace Configuration

variable (host : Host)

/-- The key of the table that holds the settings. -/
def contextKey : String := "context"

/-- A result of the disk as a result about the configuration. -/
def onDisk {α : Type} : Except DiskFault α → Except ConfigFault α
  | .ok x => .ok x
  | .error fault => .error (.disk fault)

/-- What is in the configuration file, or why it is ignored. -/
def content : Except ConfigFault (Members ⊕ String) := do
  if ← onDisk (host.disk.has host.configPath) then
    match host.disk.readText host.configPath with
    | .error (.encoding fault) => .error (.encoding fault)
    | .error (.disk fault) => .ok (.inr fault.message)
    | .ok s =>
      match host.toml.read s with
      | .ok table => .ok (.inl table)
      | .error (.malformed message) => .ok (.inr message)
      | .error (.broken error) => .error (.unreadable error)
  else .ok (.inl [])

/-- What is reported about reading the configuration file. -/
def notices : List Notice :=
  match content host with
  | .ok (.inr reason) => [.configurationIgnored host.configPath.text reason]
  | _ => []

/-- The tables and values in the configuration file. -/
def load : Except ConfigFault Members :=
  (content host).map fun found => found.elim id fun _ => []

/-- The settings in the configuration file; none if they are no table. -/
def loadContext : Except ConfigFault Members :=
  (load host).map fun table => ((table.lookup contextKey).bind Datum.members?).getD []

/-- The settings in a table that is to be changed. -/
def contextTable (table : Members) : Except ConfigFault Members :=
  match table.lookup contextKey with
  | none => .ok []
  | some (.object members) => .ok members
  | some _ => .error .contextNotTable

/-- The settings with the given values. -/
def validate (values : Members) : Except ConfigFault Settings :=
  match Settings.ofMembers host.reader values with
  | .ok settings => .ok settings
  | .error faults => .error (.invalid faults (host.reader.report Settings.modelName faults))

/-- Writes the configuration file. The result is the disk, whatever has been written to it, and the
fault if there was one: a table that cannot be written leaves an empty file. -/
def write (table : Members) : Disk × Option ConfigFault :=
  match host.disk.makeFolders host.configFolder with
  | (disk, some fault) => (disk, some (.disk fault))
  | (disk, none) =>
    let (text, unwritable) := match host.toml.print table with
      | .ok text => (text, none)
      | .error error => ("", some (.unwritable error))
    match disk.write host.configPath text with
    | .ok disk => (disk, unwritable)
    | .error fault => (disk, some (.disk fault))

/-- A result together with the disk after the configuration file has been written. -/
def writing {α : Type} (result : α) (table : Members) : Except ConfigFault α × Disk :=
  match write host table with
  | (disk, none) => (.ok result, disk)
  | (disk, some fault) => (.error fault, disk)

/-- The value that a setting has once it is changed, and all that is in the file then. -/
def changed (name raw : String) : Except ConfigFault (Json × Members) := do
  let value ← coerce name raw
  let table ← load host
  let settings ← contextTable table
  let settings := Assoc.put name (.ofJson value) settings
  let _ ← validate host settings
  pure (value, Assoc.put contextKey (.object settings) table)

/-- Saves one setting. The result is the value that it has now, and the disk. -/
def save (name raw : String) : Except ConfigFault Json × Disk :=
  match changed host name raw with
  | .ok (value, table) => writing host value table
  | .error fault => (.error fault, host.disk)

/-- What is reported about saving a setting. -/
def saveNotices (name raw : String) : List Notice :=
  match coerce name raw with
  | .ok _ => notices host
  | .error _ => []

/-- Removes all settings. The result is whether there were any, and the disk. -/
def reset : Except ConfigFault Bool × Disk :=
  match load host with
  | .error fault => (.error fault, host.disk)
  | .ok table =>
    if Assoc.has table contextKey then writing host true (Assoc.erase contextKey table)
    else (.ok false, host.disk)

/-- The value of an environment variable as the value of a setting; an empty one has none. -/
def variableValue (name : String) (value : Option String) : Members :=
  ((value.filter (· ≠ "")).map fun path => (name, Datum.text path)).toList

/-- Values of settings that the environment or a request gives, the latter counting more. -/
def givenValues (overrides : List (String × Json)) : Members :=
  variableValue Settings.documentPathName host.documentVariable ++
    variableValue Settings.outputFolderName host.outputVariable ++
    (overrides.filter fun value => value.2 ≠ .null).map fun (name, value) => (name, .ofJson value)

/-- The settings of a request that gives some of them itself; null leaves a setting open. -/
def settings (overrides : List (String × Json)) : Except ConfigFault Settings := do
  let values ← loadContext host
  validate host ((givenValues host overrides).foldl
    (fun values value => Assoc.put value.1 value.2 values) values)

end Configuration

end ContextSlice
