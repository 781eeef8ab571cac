import ContextSlice.Index.Build
import ContextSlice.Registry

/-!
# Sessions

A session is a document made ready for requests: its index and the relationships of its registry
under some settings (`Session.ofDocument`). Resolution, closure and assembly are functions of a
session, and none of them changes it.
-/

namespace ContextSlice

/-- A document with its settings, its index and its relationships. -/
structure Session where
  document : Document
  settings : Settings
  index : Index
  relationships : List Relationship
  deriving DecidableEq, Repr

/-- How many objects, names and relationships a session knows, and how many objects there are of
each kind and in each file. -/
structure Census where
  nodes : Nat
  names : Nat
  relationships : Nat
  kinds : List (String × Nat)
  files : List (String × Nat)
  deriving DecidableEq, Repr

namespace Session

/-- The session of a document. -/
def ofDocument (document : Document) (settings : Settings) : Session :=
  { document, settings
    index := Index.ofDocument document settings
    relationships := document.relationships }

/-- What is reported when a document is opened. -/
def openingNotices (document : Document) (settings : Settings) : List Notice :=
  Index.notices document settings ++ document.registryNotices relationshipsField

/-- How many objects there are under each key of a table, the most frequent keys first; of keys
with the same number the one that came first is first. -/
def frequencies (table : Assoc String (List Nat)) : List (String × Nat) :=
  (table.map fun (key, nodes) => (key, nodes.length)).mergeSort fun a b => b.2 ≤ a.2

/-- The numbers of a session. -/
def census (session : Session) : Census :=
  { nodes := session.index.size
    names := session.index.names.length
    relationships := session.relationships.length
    kinds := frequencies session.index.kinds
    files := frequencies session.index.files }

end Session

end ContextSlice
