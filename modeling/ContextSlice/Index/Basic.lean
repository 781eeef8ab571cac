import ContextSlice.Assoc
import ContextSlice.Distinct
import ContextSlice.Text.LowerCase

/-!
# Indexes

An index finds the objects of a document by id, name, kind and file (`Index`). It is filled by
registering objects one after another (`Index.register`): the last object registered under an id
is the one found there, while the id keeps the number of its first registration, by which ids are
sorted (`Index.sortIds`); an object's own id and file are those of its last registration. A name is
found in its own spelling and in lower case. Objects are known by their places in the document.
-/

namespace ContextSlice

/-- One object as it is registered: its id and, where it has them, its name, kind and file. -/
structure Registration where
  node : Nat
  id : String
  name : Option String := none
  kind : Option String := none
  file : Option String := none
  deriving DecidableEq, Repr

/-- The tables of an index: objects by id, name, kind and file, of every object its id and its
file, and of every id its number. The ids are numbered in the order of the table of objects by id;
each registration keeps the two tables in step. -/
structure Index where
  nodes : Assoc String Nat := []
  names : Assoc String (List Nat) := []
  kinds : Assoc String (List Nat) := []
  files : Assoc String (List Nat) := []
  ids : Assoc Nat String := []
  sources : Assoc Nat String := []
  order : Assoc String Nat := []
  nodup_keys : (Assoc.keys nodes).Nodup := by exact List.nodup_nil
  order_eq : order = (Assoc.keys nodes).zipIdx := by exact Assoc.nil_eq_zipIdx_keys
  deriving DecidableEq, Repr

namespace Index

/-- The spellings under which a name is found. -/
def spellings (name : String) : List String :=
  if Text.lower name = name then [name] else [name, Text.lower name]

/-- The table with an object added under each of some keys. -/
def addUnder (keys : List String) (node : Nat) (table : Assoc String (List Nat)) :
    Assoc String (List Nat) :=
  keys.foldl (fun table key => Assoc.append key node table) table

/-- The keys that an entry without a value or with an empty one has none of. -/
def filled (entry : Option String) : List String := (entry.filter (· ≠ "")).toList

/-- The index with one more object registered. -/
def register (index : Index) (entry : Registration) : Index :=
  { nodes := Assoc.put entry.id entry.node index.nodes
    ids := Assoc.put entry.node entry.id index.ids
    names := addUnder ((filled entry.name).flatMap spellings) entry.node index.names
    kinds := addUnder (filled entry.kind) entry.node index.kinds
    files := addUnder (filled entry.file) entry.node index.files
    sources := (filled entry.file).foldl (fun table file => Assoc.put entry.node file table)
      index.sources
    order := Assoc.setDefault entry.id index.order.length index.order
    nodup_keys := Assoc.nodup_keys_put index.nodup_keys entry.id entry.node
    order_eq := by rw [index.order_eq, Assoc.setDefault_zipIdx, Assoc.keys_put] }

variable (index : Index)

/-- The number of ids. -/
def size : Nat := index.nodes.length

/-- The ids in the order of their first registration. -/
def keys : List String := Assoc.keys index.nodes

/-- Whether an id is known. -/
def has (id : String) : Bool := Assoc.has index.nodes id

/-- The object with an id. -/
def node? (id : String) : Option Nat := index.nodes.lookup id

/-- The id of an object. -/
def idOf? (node : Nat) : Option String := index.ids.lookup node

/-- The file of an object. -/
def sourceOf? (node : Nat) : Option String := index.sources.lookup node

/-- The file of the object with an id. -/
def fileOf? (id : String) : Option String := (index.node? id).bind index.sourceOf?

/-- The ids of some objects, each id once. -/
def idsOf (nodes : List Nat) : List String := distinct (nodes.filterMap index.idOf?)

/-- The ids of the objects with a name. -/
def idsNamed (name : String) : List String := index.idsOf (Assoc.collected index.names name)

/-- The ids of the objects in a file. -/
def idsInFile (file : String) : List String := index.idsOf (Assoc.collected index.files file)

/-- The number of an id. -/
def rank (id : String) : Nat := (index.order.lookup id).getD 0

/-- The known ones of some ids in the order of their first registration. -/
def sortIds (ids : List String) : List String :=
  (ids.filter (Assoc.has index.order)).mergeSort fun a b => index.rank a ≤ index.rank b

/-- Whether registering an object would take an id from another one. -/
def clashes (entry : Registration) : Bool :=
  (index.node? entry.id).any (· ≠ entry.node)

end Index

end ContextSlice
