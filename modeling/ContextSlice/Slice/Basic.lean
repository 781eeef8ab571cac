import ContextSlice.Json.Lookup

/-!
# Slices

A slice is the answer to one request (`Slice`): the symbols that were asked for and those that
stood for something, the objects of the context with their ids, the endpoints and relationships
that touch them, and some data about the document (`Metadata`). `Slice.payload` is the form in
which it is handed out and saved: every object carries the id that it is known by, and endpoints
and relationships are left out where there are none.
-/

namespace ContextSlice

/-- What a slice tells about its document and its request. -/
structure Metadata (ν : Type) where
  sourceFiles : List ν := []
  imports : List ν := []
  dependencies : List (String × ν) := []
  totalNodes : Int := 0
  strategy : String := "symbol"
  deriving DecidableEq, Repr

/-- The answer to a request. The values inside objects are of the type `ν`. -/
structure Slice (ν : Type) where
  symbols : List Json := []
  matchedSymbols : List Json := []
  nodes : List (List (String × ν)) := []
  nodeIds : List String := []
  endpoints : List (String × ν) := []
  relationships : List (String × ν) := []
  metadata : Metadata ν := {}
  savedTo : Option String := none
  deriving DecidableEq, Repr

/-- Members with a function applied to their values. -/
def mapMembers {ν μ : Type} (f : ν → μ) (members : List (String × ν)) : List (String × μ) :=
  members.map fun member => (member.1, f member.2)

namespace Slice

/-- A slice with a function applied to all values inside objects. -/
def map {ν μ : Type} (f : ν → μ) (slice : Slice ν) : Slice μ :=
  { symbols := slice.symbols
    matchedSymbols := slice.matchedSymbols
    nodes := slice.nodes.map (mapMembers f)
    nodeIds := slice.nodeIds
    endpoints := mapMembers f slice.endpoints
    relationships := mapMembers f slice.relationships
    metadata :=
      { sourceFiles := slice.metadata.sourceFiles.map f
        imports := slice.metadata.imports.map f
        dependencies := mapMembers f slice.metadata.dependencies
        totalNodes := slice.metadata.totalNodes
        strategy := slice.metadata.strategy }
    savedTo := slice.savedTo }

variable {ν : Type}

/-- The symbols that stood for nothing, as often as they were asked for. -/
def unmatchedSymbols (slice : Slice ν) : Except NotHashable (List Json) := do
  let matched ← Json.asSet slice.matchedSymbols
  Json.notIn matched slice.symbols

/-- The objects of a slice, each with the id that it is known by. -/
def identified (nodes : List (List (String × Json))) (ids : List String) : List Json :=
  match nodes, ids with
  | [], _ => []
  | node :: nodes, [] => .object node :: identified nodes []
  | node :: nodes, id :: ids => .object (Assoc.put "id" (.text id) node) :: identified nodes ids

/-- A member that is left out if it is empty. -/
def unlessEmpty (name : String) (members : List (String × Json)) : List (String × Json) :=
  if members.isEmpty then [] else [(name, .object members)]

/-- The form in which metadata is handed out. -/
def metadataPayload (metadata : Metadata Json) : List (String × Json) :=
  [("source_files", .list metadata.sourceFiles), ("imports", .list metadata.imports),
    ("dependencies", .object metadata.dependencies), ("total_nodes", .int metadata.totalNodes),
    ("strategy", .text metadata.strategy)]

/-- The form in which a slice is handed out and saved. -/
def payload (slice : Slice Json) : List (String × Json) :=
  [("symbols", .list slice.symbols), ("matchedSymbols", .list slice.matchedSymbols),
    ("nodes", .list (identified slice.nodes slice.nodeIds))] ++
    unlessEmpty "endpoints" slice.endpoints ++
    unlessEmpty "relationships" slice.relationships ++
    [("metadata", .object (metadataPayload slice.metadata))]

/-- Where a slice was saved, as its payload tells it. -/
def savedMember (savedTo : Option String) : List (String × Json) :=
  [("savedTo", savedTo.elim .null .text)]

/-- The payload of a slice together with where it was saved. -/
def fullPayload (slice : Slice Json) : List (String × Json) :=
  slice.payload ++ savedMember slice.savedTo

end Slice

end ContextSlice
