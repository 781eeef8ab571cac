import ContextSlice.Configuration.Store
import ContextSlice.Document.File
import ContextSlice.Session.Assembly
import ContextSlice.Snapshot.Store
import ContextSlice.Tool.Description

/-!
# Requests

A request names symbols; its answer is the slice of the document for them (`Tool.request`). The
document is loaded anew for every request, and the slice is saved as a snapshot if the settings
ask for it. A caller gets a payload (`Reply.payload`): one with the only member `error` if the
settings or the document cannot be used, and the slice otherwise, even if its snapshot could not be
written. Some faults are left to the caller to deal with (`RequestFault`): those that are not about
what the settings and the document say, a folder for snapshots that no disk can have, and a symbol
that is a list or an object.
-/

namespace ContextSlice

/-- What a caller gets: why the request is refused, or the slice, with the reason if its snapshot
could not be written. -/
inductive Reply where
  | refused (reason : String)
  | slice (slice : Slice Json) (snapshotFault : Option String)
  deriving DecidableEq, Repr

/-- The members of a reply as it is handed out. -/
def Reply.payload : Reply → List (String × Json)
  | .refused reason => [("error", .text reason)]
  | .slice found snapshotFault =>
    let fault := snapshotFault.map fun reason => ("snapshotError", Json.text reason)
    found.fullPayload ++ fault.toList

/-- Why a request gets no reply. -/
inductive RequestFault where
  | configuration (fault : ConfigFault)
  | document (fault : DocumentFault)
  | snapshot (fault : DiskFault)
  | notHashable (value : Json)
  deriving DecidableEq, Repr

/-- What a message says about a request without a reply. -/
def RequestFault.message : RequestFault → String
  | .configuration fault => fault.message
  | .document fault => fault.message
  | .snapshot fault => fault.message
  | .notHashable value => "no symbol: " ++ value.display

/-- What comes of a request: the reply or why there is none, the disk, and what is reported. -/
structure Outcome where
  reply : Except RequestFault Reply
  disk : Disk
  notices : List Notice

/-- The outcome with more reported before it. -/
def Outcome.after (notices : List Notice) (outcome : Outcome) : Outcome :=
  { outcome with notices := notices ++ outcome.notices }

namespace Tool

/-- Saves a slice. -/
def saveSlice (host : Host) (folder : FilePath) (slice : Slice Json) : Outcome :=
  match Snapshot.write host.disk folder host.clock slice with
  | (.ok path, disk) =>
    { reply := .ok (.slice { slice with savedTo := some path.text } none), disk
      notices := [.snapshotSaved path.text] }
  | (.error fault, disk) =>
    if fault.problem = .nullCharacter then
      { reply := .error (.snapshot fault), disk, notices := [] }
    else
      let reason := Snapshot.writeFaultMessage folder fault
      { reply := .ok (.slice slice (some reason)), disk, notices := [.snapshotFailed reason] }

/-- Answers a request from a document. -/
def answer (host : Host) (settings : Settings) (symbols : List Json) (document : Json) : Outcome :=
  let document := Document.ofJson document
  let session := Session.ofDocument document settings
  let before := Session.openingNotices document settings ++ session.contextNotices symbols
  match session.context symbols with
  | .error fault =>
    { reply := .error (.notHashable fault.value), disk := host.disk, notices := before }
  | .ok slice =>
    let slice := session.writeOut slice
    let found := [.toolCalled, .found slice.nodes.length symbols]
    if settings.saveSnapshots then
      (saveSlice host settings.outputFolder slice).after (before ++ found)
    else { reply := .ok (.slice slice none), disk := host.disk, notices := before ++ found }

/-- The outcome of a request that is refused. -/
def refused (host : Host) (reason : String) (notices : List Notice) : Outcome :=
  { reply := .ok (.refused reason), disk := host.disk, notices }

/-- The outcome of a request that gets no reply. -/
def failed (host : Host) (fault : RequestFault) : Outcome :=
  { reply := .error fault, disk := host.disk, notices := [] }

/-- Answers a request under some settings. -/
def requestWith (host : Host) (settings : Settings) (symbols : List Json) : Outcome :=
  match loadDocument host settings.documentPath with
  | .ok document => answer host settings symbols document
  | .error fault =>
    if fault.refuses then refused host fault.message [.requestFailed fault.message]
    else failed host (.document fault)

/-- Answers a request under the given settings or else under those of the configuration. -/
def request (host : Host) (settings? : Option Settings) (symbols : List Json) : Outcome :=
  match settings? with
  | some settings => requestWith host settings symbols
  | none =>
    Outcome.after (Configuration.notices host) <|
      match Configuration.settings host [] with
      | .ok settings => requestWith host settings symbols
      | .error fault =>
        if fault.refuses then refused host fault.message [.badConfiguration fault.message]
        else failed host (.configuration fault)

/-- Answers a request whose arguments come as one value. -/
def run (host : Host) (settings? : Option Settings) (arguments : Json) : Outcome :=
  match host.arguments.read argumentsName symbolsField arguments with
  | .ok symbols => request host settings? (symbols.map .text)
  | .error faults => refused host (badArguments faults) []

end Tool

end ContextSlice
