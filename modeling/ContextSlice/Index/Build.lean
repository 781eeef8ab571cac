import ContextSlice.Document.Walk
import ContextSlice.Index.Basic
import ContextSlice.Notice
import ContextSlice.Settings.Basic

/-!
# The index of a document

A document is indexed in the order of one walk (`Index.ofDocument`): through the sequence
`modules` if it begins with an object that has one, and through the whole document but for its
registries otherwise. Every object visited is registered. Its id is the one that it states itself
or else the path to it from the nearest object around it, after that object's id; its file is the
one that it names or else the file of the object around it.
-/

namespace ContextSlice

/-- The id that stands for where a document begins. -/
def rootId : String := "$"

/-- Members of the first object that hold registries of the document. -/
def registryFields : List String := ["dependency_graph", "project_structure", "ast"]

namespace Document

variable (doc : Document)

/-- The objects of a document that are to be indexed. -/
def nodes : List Visit :=
  match (doc.rootMember? modulesField).filter fun value => (doc.items? value).isSome with
  | some modules => doc.walk modules [.member modulesField] []
  | none => doc.walk doc.root [] registryFields

/-- The id that an object states: a text that is not empty, or a whole number. The number is written
whatever its length; one of more than `digitLimit` digits, which no document that was read has, is not
refused here. -/
def statedId? (node : Nat) : Option String :=
  match doc.member? node "id" with
  | some (.leaf (.text s)) => if s = "" then none else some s
  | some (.leaf (.int n)) => some (toString n)
  | _ => none

end Document

namespace Index

variable (doc : Document) (settings : Settings)

/-- The id of an object by its path from the object around it. -/
def pathId (index : Index) (visit : Visit) : String :=
  let base := (visit.parent.bind index.idOf?).getD rootId
  renderPath base visit.path

/-- How an object is registered after those before it. -/
def registration (index : Index) (visit : Visit) : Registration :=
  { node := visit.node
    id := (doc.statedId? visit.node).getD (index.pathId visit)
    name := doc.textMember? visit.node ["name"]
    kind := doc.textMember? visit.node settings.kindFields
    file := doc.textMember? visit.node settings.fileFields <|>
      visit.parent.bind index.sourceOf? }

/-- The index with the objects of some visits registered one after another. -/
def extend (index : Index) (visits : List Visit) : Index :=
  visits.foldl (fun index visit => index.register (registration doc settings index visit)) index

/-- The ids that are taken from another object while the objects of some visits are
registered. -/
def takenIds (index : Index) : List Visit → List String
  | [] => []
  | visit :: visits =>
    let entry := registration doc settings index visit
    (if index.clashes entry then [entry.id] else []) ++ takenIds (index.register entry) visits

/-- The index of a document. -/
def ofDocument : Index := extend doc settings {} doc.nodes

/-- What is reported about indexing a document. -/
def notices : List Notice :=
  let index := ofDocument doc settings
  (takenIds doc settings {} doc.nodes).map .duplicateId ++
    [.indexed index.size index.names.length index.kinds.length index.files.length]

end Index

end ContextSlice
