import ContextSlice.Json.Display

/-!
# Notices

What a request reports besides its answer (`Notice`): how serious it is (`Notice.level`), which
part of the program reports it (`Notice.channel`), and in what words (`Notice.message`).
-/

namespace ContextSlice

/-- How serious a notice is. -/
inductive Level where
  | debug
  | info
  | warning
  | error
  deriving DecidableEq, Repr

/-- The name of a level. -/
def Level.name : Level → String
  | .debug => "DEBUG"
  | .info => "INFO"
  | .warning => "WARNING"
  | .error => "ERROR"

/-- Whether a notice of this level is reported to those who did not ask for details. -/
def Level.isGrave : Level → Bool
  | .debug | .info => false
  | .warning | .error => true

/-- Something worth reporting. -/
inductive Notice where
  | duplicateId (id : String)
  | indexed (nodes names kinds files : Nat)
  | unmatched (symbol : Json)
  | closed (seeds ids related : Nat)
  | notTable (label kind : String)
  | dropped (ids : Nat)
  | notList (field : String)
  | notMapping (field : String)
  | toolCalled
  | found (nodes : Nat) (symbols : List Json)
  | requestFailed (reason : String)
  | badConfiguration (reason : String)
  | snapshotFailed (reason : String)
  | snapshotSaved (path : String)
  | configurationIgnored (path reason : String)
  deriving DecidableEq, Repr

namespace Notice

/-- The name under which the request tool is offered. -/
def toolName : String := "getASTContext"

/-- The level of a notice. -/
def level : Notice → Level
  | .duplicateId _ | .indexed .. | .unmatched _ | .closed .. | .dropped _ => .debug
  | .toolCalled | .found .. | .snapshotSaved _ => .info
  | .notTable .. | .notList _ | .notMapping _ | .configurationIgnored .. => .warning
  | .requestFailed _ | .badConfiguration _ | .snapshotFailed _ => .error

/-- The part of the program that a notice comes from. -/
def channel : Notice → String
  | .duplicateId _ | .indexed .. => "astcontext_cli.indexer"
  | .unmatched _ => "astcontext_cli.resolver"
  | .closed .. => "astcontext_cli.closure"
  | .notTable .. => "astcontext_cli.models"
  | .dropped _ | .notList _ | .notMapping _ => "astcontext_cli.assembler"
  | .toolCalled | .found .. | .requestFailed _ | .badConfiguration _ | .snapshotFailed _ =>
    "astcontext_cli.tool"
  | .snapshotSaved _ => "astcontext_cli.storage"
  | .configurationIgnored .. => "astcontext_cli.config_manager"

/-- The words of a notice. -/
def message : Notice → String
  | .duplicateId id =>
    "Duplicate node id " ++ (Json.text id).display ++ "; keeping the later node"
  | .indexed nodes names kinds files =>
    s!"Indexed {nodes} nodes ({names} names, {kinds} kinds, {files} files)"
  | .unmatched symbol => "Symbol " ++ symbol.display ++ " matched no nodes"
  | .closed seeds ids related =>
    s!"Closure: {seeds} seeds -> {ids} ids ({related} via relationships)"
  | .notTable label kind => s!"Ignoring {label} of unexpected type {kind}"
  | .dropped ids => s!"Dropped {ids} unresolvable ids"
  | .notList field => s!"Metadata field '{field}' is not a list; using []"
  | .notMapping field => s!"Metadata field '{field}' is not a mapping; using " ++ "\x7b\x7d"
  | .toolCalled => "TOOL CALLED: " ++ toolName
  | .found nodes symbols => s!"Found {nodes} nodes for symbols: " ++ (Json.list symbols).display
  | .requestFailed reason => reason
  | .badConfiguration reason => "Invalid configuration: " ++ reason
  | .snapshotFailed reason => "Snapshot not saved: " ++ reason
  | .snapshotSaved path => "Context saved to " ++ path
  | .configurationIgnored path reason => s!"Ignoring unreadable config {path}: {reason}"

end Notice

end ContextSlice
