import ContextSlice.Json.Display

/-!
# Paths

The way from an object to one inside it: names of members and positions in sequences
(`PathPart`). `renderPath` writes a path after a text that stands for where it begins, so
`functions` and `2` under `$.modules[0]` give `$.modules[0].functions[2]`.
-/

namespace ContextSlice

/-- A step of a path: a member's name, a position, or any other value that a path handed in from
outside may hold. -/
inductive PathPart where
  | member (name : String)
  | position (n : Nat)
  | other (value : Json)
  deriving DecidableEq, Repr

namespace PathPart

/-- The text of a step: whole numbers and truth values stand in brackets, all else after a
point. -/
def render : PathPart → String
  | .member name => "." ++ name
  | .position n => "[" ++ toString n ++ "]"
  | .other (.int n) => "[" ++ (Json.int n).display ++ "]"
  | .other (.bool b) => "[" ++ (Json.bool b).display ++ "]"
  | .other value => "." ++ value.label

/-- The step that a JSON value names. -/
def ofJson : Json → PathPart
  | .text name => .member name
  | .int (.ofNat n) => .position n
  | value => .other value

/-- The JSON value that names a step. -/
def toJson : PathPart → Json
  | .member name => .text name
  | .position n => .int n
  | .other value => value

end PathPart

/-- The text of a path that begins at `base`. -/
def renderPath (base : String) (path : List PathPart) : String :=
  base ++ String.join (path.map PathPart.render)

end ContextSlice
