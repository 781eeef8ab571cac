import ContextSlice.Document.Basic

/-!
# Documents from JSON values

A JSON value becomes a document in which every list and every object is a container of its own
(`Document.ofJson`). `Document.link` does the same for several values at once, some of whose parts
name one of the values instead of standing for themselves, and so makes shared and cyclic
documents.
-/

namespace ContextSlice.Document

variable (target : Json → Option Nat)

mutual

/-- Adds a value to the containers: the parts of a container come before it, and a value with a
target is a reference to that place. -/
def addValue (table : Array Container) : Json → Value × Array Container
  | .list items =>
    match target (.list items) with
    | some place => (.ref place, table)
    | none =>
      let (values, table) := addItems table items
      (.ref table.size, table.push (.sequence values))
  | .object members =>
    match target (.object members) with
    | some place => (.ref place, table)
    | none =>
      let (values, table) := addMembers table members
      (.ref table.size, table.push (.object values))
  | leaf => (.leaf leaf, table)

/-- Adds the items of a list. -/
def addItems (table : Array Container) : List Json → List Value × Array Container
  | [] => ([], table)
  | item :: items =>
    let (value, table) := addValue table item
    let (values, table) := addItems table items
    (value :: values, table)

/-- Adds the values of an object's members. -/
def addMembers (table : Array Container) :
    List (String × Json) → List (String × Value) × Array Container
  | [] => ([], table)
  | (name, member) :: members =>
    let (value, table) := addValue table member
    let (values, table) := addMembers table members
    ((name, value) :: values, table)

end

/-- Adds the parts of some containers and puts each of these at its place from `place` on. -/
def addAt (table : Array Container) (place : Nat) : List Json → Array Container
  | [] => table
  | .list items :: rest =>
    let (values, table) := addItems target table items
    addAt (table.setIfInBounds place (.sequence values)) (place + 1) rest
  | .object members :: rest =>
    let (values, table) := addMembers target table members
    addAt (table.setIfInBounds place (.object values)) (place + 1) rest
  | _ :: rest => addAt table (place + 1) rest

/-- The document that begins with `root` and whose first containers are `shared`; a part for which
`target` gives a place is the container there. -/
def link (shared : List Json) (root : Json) : Document :=
  let table := addAt target (Array.replicate shared.length (.sequence [])) 0 shared
  let (value, table) := addValue target table root
  { containers := table, root := value }

/-- The document of a JSON value. -/
def ofJson (value : Json) : Document := link (fun _ => none) [] value

end ContextSlice.Document
