import ContextSlice.Session.Closure
import ContextSlice.Session.Resolution
import ContextSlice.Slice.Basic

/-!
# Assembling slices

`Session.assemble` makes a slice from the ids of a context: their objects in the order of the
index, the endpoints that are tied to a matched symbol or to an object of the context, the
relationships of which an end touches it, and the metadata of the document. `Session.context`
answers a whole request: it resolves the symbols, closes the seeds, and assembles the slice. A
request is of one of three kinds by how many of its symbols are names of files (`RequestKind`).
-/

namespace ContextSlice

/-- What the symbols of a request are: none of them the name of a file, all of them, or some. -/
inductive RequestKind where
  | symbol
  | file
  | mixed
  deriving DecidableEq, Repr

namespace RequestKind

/-- The name of a kind of request. -/
def name : RequestKind → String
  | .symbol => "symbol"
  | .file => "file"
  | .mixed => "mixed"

/-- The kind of a request some of whose symbols are names of files. -/
def ofSymbols (symbols fileSymbols : List Json) : Except NotHashable RequestKind := do
  let files ← Json.asSet fileSymbols
  if files.isEmpty then pure .symbol
  else
    let onlyFiles ← Json.allIn files symbols
    pure (if onlyFiles then .file else .mixed)

end RequestKind

namespace Document

variable (doc : Document)

/-- A member of one of the objects under the first one. -/
def sectionMember? (name field : String) : Option Value :=
  ((doc.rootMember? name).bind doc.object?).bind (doc.member? · field)

/-- The value that should list the imports of a document. -/
def importsValue : Value :=
  (doc.sectionMember? "ast" "imports" <|> doc.sectionMember? "project_structure" "imports").getD
    (.leaf .null)

/-- A member of the object `project_structure`; null if there is none. -/
def structureValue (field : String) : Value :=
  (doc.sectionMember? "project_structure" field).getD (.leaf .null)

/-- The items of a value that should be a list. -/
def itemsOf (value : Value) : List Value := (doc.items? value).getD []

/-- The members of a value that should be an object. -/
def membersOf (value : Value) : List (String × Value) :=
  (doc.object? value).elim [] doc.members

/-- What is reported about a value that should be a list. -/
def itemsNotices (field : String) (value : Value) : List Notice :=
  if value = .leaf .null ∨ (doc.items? value).isSome then [] else [.notList field]

/-- What is reported about a value that should be an object. -/
def membersNotices (field : String) (value : Value) : List Notice :=
  if value = .leaf .null ∨ (doc.object? value).isSome then [] else [.notMapping field]

/-- The metadata of a slice with some objects. -/
def metadata (totalNodes : Nat) (strategy : String) : Metadata Value :=
  { sourceFiles := doc.itemsOf (doc.structureValue "source_files")
    imports := doc.itemsOf doc.importsValue
    dependencies := doc.membersOf (doc.structureValue "dependencies")
    totalNodes, strategy }

/-- What is reported about the metadata of a document. -/
def metadataNotices : List Notice :=
  doc.itemsNotices "source_files" (doc.structureValue "source_files") ++
    doc.itemsNotices "imports" doc.importsValue ++
    doc.membersNotices "dependencies" (doc.structureValue "dependencies")

end Document

namespace Session

variable (session : Session)

/-- Whether an endpoint is tied to one of the matched symbols or to an id of the context. -/
def endpointTouches (context : List String) (matched : List Json) (endpoint : Endpoint) : Bool :=
  Json.among matched (endpoint.entity.elim .null .text) ||
    endpoint.operations.any (fun operation => Json.among matched (.text operation)) ||
    context.contains endpoint.id

/-- Whether a reference is an id of the context or the name of an object that is in it. -/
def refTouches (context : List String) (ref : String) : Bool :=
  context.contains ref || (session.index.idsNamed ref).any context.contains

/-- Whether one of the ends of a relationship touches the context. -/
def relationshipTouches (context : List String) (relationship : Relationship) : Bool :=
  relationship.source.any (session.refTouches context) ||
    relationship.target.any (session.refTouches context)

/-- The slice with the ids of a context for a request some of whose symbols matched. -/
def assemble (context : List String) (matched symbols : List Json) (strategy : String) :
    Slice Value :=
  let ids := session.index.sortIds (distinct context)
  { symbols, matchedSymbols := matched
    nodes := ids.map fun id => (session.index.node? id).elim [] session.document.members
    nodeIds := ids
    endpoints := (session.document.endpoints.filter (endpointTouches context matched)).map
      fun endpoint => (endpoint.key, .ref endpoint.record)
    relationships := (session.document.relationships.filter
        (session.relationshipTouches context)).map
      fun relationship => (relationship.key, .ref relationship.record)
    metadata := session.document.metadata ids.length strategy }

/-- What is reported about assembling a slice. -/
def assemblyNotices (context : List String) : List Notice :=
  let all := distinct context
  let ids := session.index.sortIds all
  (if ids.length ≠ all.length then [.dropped (all.length - ids.length)] else []) ++
    session.document.registryNotices endpointsField ++
    session.document.registryNotices relationshipsField ++
    session.document.metadataNotices

/-- The ids of the context of a request. -/
def contextIds (symbols : List Json) : List String := session.close (session.seeds symbols)

/-- The kind of a request. -/
def requestKind (symbols : List Json) : Except NotHashable RequestKind :=
  RequestKind.ofSymbols symbols (symbols.filter fun symbol =>
    symbol.text?.any session.isFileSymbol)

/-- The slice that answers a request. -/
def context (symbols : List Json) : Except NotHashable (Slice Value) := do
  let kind ← session.requestKind symbols
  pure (session.assemble (session.contextIds symbols) (session.matchedSymbols symbols) symbols
    kind.name)

/-- What is reported about finding the context of a request. -/
def contextIdsNotices (symbols : List Json) : List Notice :=
  session.resolutionNotices symbols ++ session.closureNotices (session.seeds symbols)

/-- What is reported about answering a request. -/
def contextNotices (symbols : List Json) : List Notice :=
  session.contextIdsNotices symbols ++
    match session.requestKind symbols with
    | .ok _ => session.assemblyNotices (session.contextIds symbols)
    | .error _ => []

/-- A slice of a session with its values written out. -/
def writeOut (slice : Slice Value) : Slice Json := slice.map session.document.toJson

end Session

end ContextSlice
