import ContextSlice.Document.Display
import ContextSlice.Notice

/-!
# Registries

The object `dependency_graph` of a document holds two registries, each an object whose members are
records or a list of records (`Document.table`). In a list, a record's key is the reference that
its member `id` makes, or else its position. One registry lists the relationships between objects
(`Document.relationships`), the other one the endpoints (`Document.endpoints`). Either end of a
relationship is a reference: an id or a name.
-/

namespace ContextSlice

/-- The reference that a value makes: a text that is not empty, or a number as it is written. A whole
number is written whatever its length; one of more than `digitLimit` digits, which no document that
was read has, is not refused here. -/
def Value.reference? : Value → Option String
  | .leaf (.text s) => if s = "" then none else some s
  | .leaf (.int n) => some (Json.int n).display
  | .leaf (.real x) => some x.text
  | _ => none

/-- A directed relationship: its key, the references at its two ends, its kind, and the object
that records it. -/
structure Relationship where
  key : String
  source : Option String
  target : Option String
  kind : String
  record : Nat
  deriving DecidableEq, Repr

/-- An endpoint: its key, the entity and the operations that it is tied to, its id, and the object
that records it. -/
structure Endpoint where
  key : String
  entity : Option String
  operations : List String
  id : String
  record : Nat
  deriving DecidableEq, Repr

/-- The member of the first object that holds the registries. -/
def graphField : String := "dependency_graph"

/-- The names of the two registries. -/
def relationshipsField : String := "relationships"
@[inherit_doc relationshipsField] def endpointsField : String := "endpoints"

namespace Document

variable (doc : Document)

/-- The reference that a member of an object makes. -/
def referenceMember? (node : Nat) (name : String) : Option String :=
  (doc.member? node name).bind Value.reference?

/-- The records among the items of a list, each under its key. -/
def listedRecords (items : List Value) : List (String × Nat) :=
  items.zipIdx.filterMap fun (item, position) =>
    (doc.object? item).map fun record =>
      ((doc.referenceMember? record "id").getD (toString position), record)

/-- The records among the members of an object, each under its key. -/
def memberRecords (members : List (String × Value)) : List (String × Nat) :=
  members.filterMap fun (key, value) => (doc.object? value).map (key, ·)

/-- The records that a value holds, each under its key; of records with one key the last counts,
at the place of the first. -/
def table (value : Value) : Assoc String Nat :=
  match doc.container? value with
  | some (.object members) => Assoc.ofPairs (doc.memberRecords members)
  | some (.sequence items) => Assoc.ofPairs (doc.listedRecords items)
  | none => []

/-- What is reported about a value that should hold the records of a registry. -/
def tableNotices (label : String) (value : Value) : List Notice :=
  if doc.variant value = .leaf ∧ value ≠ .leaf .null then [.notTable label (doc.kindName value)]
  else []

/-- The value that should hold the records of a registry; null if there is none. -/
def registry (name : String) : Value :=
  (((doc.rootMember? graphField).bind doc.object?).bind (doc.member? · name)).getD (.leaf .null)

/-- The kind of a relationship: what its record says, or nothing if it says nothing. -/
def relationshipKind (record : Nat) : String :=
  ((doc.member? record "type").filter doc.truthy).elim "" doc.label

/-- The relationships of a document in the order of their registry. -/
def relationships : List Relationship :=
  (doc.table (doc.registry relationshipsField)).map fun (key, record) =>
    { key, record
      source := doc.referenceMember? record "from"
      target := doc.referenceMember? record "to"
      kind := doc.relationshipKind record }

/-- The operations that an endpoint's record lists. -/
def endpointOperations (record : Nat) : List String :=
  (((doc.member? record "operations").bind doc.items?).getD []).filterMap Value.text?

/-- The endpoints of a document in the order of their registry. -/
def endpoints : List Endpoint :=
  (doc.table (doc.registry endpointsField)).map fun (key, record) =>
    { key, record
      entity := doc.referenceMember? record "entity"
      operations := doc.endpointOperations record
      id := (doc.referenceMember? record "id").getD key }

/-- What is reported about one of the two registries. -/
def registryNotices (name : String) : List Notice := doc.tableNotices name (doc.registry name)

end Document

end ContextSlice
