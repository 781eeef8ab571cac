import ContextSlice.Document.Basic

/-!
# Values of a document in messages

How a value of a document is shown (`Document.label`): as the JSON value that it stands for, with
dots in place of a container inside itself. Shared containers that do not contain each other are
shown wherever they stand.
-/

namespace ContextSlice.Document

variable (doc : Document)

/-- The characters that show a value that stands inside the containers `around`; what is deeper than
`fuel` containers is left out. -/
def shownChars : (fuel : Nat) → (around : List Nat) → Value → List Char
  | _, _, .leaf leaf => leaf.displayChars
  | 0, _, .ref _ => []
  | fuel + 1, around, .ref place =>
    let inner := shownChars fuel (place :: around)
    match doc.containers[place]? with
    | none => Json.null.displayChars
    | some (.sequence items) =>
      if place ∈ around then "[...]".toList
      else '[' :: Json.commaChars (items.map inner) ++ [']']
    | some (.object members) =>
      let shown (member : String × Value) : List Char :=
        Text.quotedChars member.1.toList ++ ':' :: ' ' :: inner member.2
      if place ∈ around then "\x7b...\x7d".toList
      else '\x7b' :: Json.commaChars (members.map shown) ++ ['\x7d']

/-- A value as a message shows it. The containers around a value are all different, so nothing is
deeper than there are containers. -/
def display (value : Value) : String :=
  String.ofList (doc.shownChars (doc.containers.size + 1) [] value)

/-- A value as a label: a text stands for itself, and every other value is shown. -/
def label (value : Value) : String := value.text?.getD (doc.display value)

/-- Whether a value counts as true; a container does if it is not empty. -/
def truthy (value : Value) : Bool :=
  match value, doc.container? value with
  | .leaf leaf, _ => leaf.truthy
  | .ref _, some (.object members) => !members.isEmpty
  | .ref _, some (.sequence items) => !items.isEmpty
  | .ref _, none => false

end ContextSlice.Document
