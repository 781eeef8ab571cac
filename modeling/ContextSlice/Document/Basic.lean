import ContextSlice.Json.Display
import ContextSlice.Text.Search

/-!
# Documents

A document is a graph of containers: objects with named members and sequences of items
(`Container`), each known by its place in a table. A value of a document is a leaf or a reference
to a container (`Value`), so that two equal containers are still told apart, and a container may
be shared or may contain itself. Nothing is assumed of the references: one that points nowhere
counts as a leaf.
-/

namespace ContextSlice

/-- A value of a document: a JSON value without parts, or the container at a place. -/
inductive Value where
  | leaf (value : Json)
  | ref (place : Nat)
  deriving DecidableEq, Repr

/-- A container: an object or a sequence. -/
inductive Container where
  | object (members : List (String × Value))
  | sequence (items : List Value)
  deriving DecidableEq, Repr

/-- A document: its containers, each at its place, and the value that it begins with. -/
structure Document where
  containers : Array Container
  root : Value
  deriving DecidableEq, Repr

/-- What a value of a document is. -/
inductive Variant where
  | leaf
  | object
  | sequence
  deriving DecidableEq, Repr

/-- The name of a variant. -/
def Variant.name : Variant → String
  | .leaf => "leaf"
  | .object => "object"
  | .sequence => "sequence"

/-- The member whose items are the modules of the document. -/
def modulesField : String := "modules"

/-- Members whose names begin with an underscore hold bookkeeping. -/
def isInternal (name : String) : Bool := Text.startsWith name "_"

/-- The text that a value is. -/
def Value.text? : Value → Option String
  | .leaf (.text s) => some s
  | _ => none

/-- The text that a value is, unless it is empty. -/
def Value.nonempty? (value : Value) : Option String := value.text?.filter (· ≠ "")

namespace Document

variable (doc : Document)

/-- The container that a value refers to. -/
def container? : Value → Option Container
  | .leaf _ => none
  | .ref place => doc.containers[place]?

/-- The variant of a value. -/
def variant (value : Value) : Variant :=
  match doc.container? value with
  | none => .leaf
  | some (.object _) => .object
  | some (.sequence _) => .sequence

/-- The members of the object at a place; none if it is no object. -/
def members (place : Nat) : List (String × Value) :=
  match doc.containers[place]? with
  | some (.object members) => members
  | _ => []

/-- The place of the object that a value refers to. -/
def object? : Value → Option Nat
  | .ref place =>
    match doc.containers[place]? with
    | some (.object _) => some place
    | _ => none
  | .leaf _ => none

/-- The items of the sequence that a value refers to. -/
def items? (value : Value) : Option (List Value) :=
  match doc.container? value with
  | some (.sequence items) => some items
  | _ => none

/-- A member of the object at a place. -/
def member? (place : Nat) (name : String) : Option Value := (doc.members place).lookup name

/-- A member of the object that the document begins with. -/
def rootMember? (name : String) : Option Value :=
  (doc.object? doc.root).bind (doc.member? · name)

/-- The first text that is not empty among some members of the object at a place. -/
def textMember? (place : Nat) (names : List String) : Option String :=
  names.findSome? fun name => (doc.member? place name).bind Value.nonempty?

/-- The texts that a value holds: the text that it is, or those among the items of the
sequence. -/
def heldTexts (value : Value) : List String :=
  match value.text? with
  | some s => [s]
  | none => ((doc.items? value).getD []).filterMap Value.text?

/-- The name of a value's kind. -/
def kindName (value : Value) : String :=
  match value, doc.container? value with
  | .leaf leaf, _ => leaf.kindName
  | .ref _, some (.object _) => (Json.object []).kindName
  | .ref _, some (.sequence _) => (Json.list []).kindName
  | .ref _, none => Json.null.kindName

/-- The JSON value that a value stands for when every reference is replaced by what it refers to,
as deep as `fuel` references; null stands for what is deeper. -/
def unfold : (fuel : Nat) → Value → Json
  | _, .leaf leaf => leaf
  | 0, .ref _ => .null
  | fuel + 1, .ref place =>
    match doc.containers[place]? with
    | none => .null
    | some (.sequence items) => .list (items.map (unfold fuel))
    | some (.object members) =>
      .object (members.map fun member => (member.1, unfold fuel member.2))

/-- The JSON value that a value stands for. A chain of references is longer than the table only if
some container contains itself, so in every other document nothing is cut off. -/
def toJson (value : Value) : Json := doc.unfold doc.containers.size value

end Document

end ContextSlice
