import ContextSlice.Session.Assembly
import ContextSlice.Session.Edges

/-!
# Graphs in DOT

The context of a request as a directed graph in the DOT language (`Session.dotText`): a line for
every object of the context, those that the symbols stand for in bold, and a line for every edge.
Ids and labels stand between double quotes, in which a double quote is escaped by a backslash
(`Dot.escape`).
-/

namespace ContextSlice

namespace Dot

/-- A text as it stands between double quotes. -/
def escape (s : String) : String := Text.replaceChar '"' "\\\"" s

/-- A text between double quotes. -/
def quote (s : String) : String := "\"" ++ escape s ++ "\""

/-- The line of an object. -/
def nodeLine (id label : String) (bold : Bool) : String :=
  "  " ++ quote id ++ " [label=" ++ quote label ++ (if bold then ", style=bold" else "") ++ "];"

/-- The line of an edge. -/
def edgeLine (edge : Edge) : String :=
  "  " ++ quote edge.source ++ " -> " ++ quote edge.target ++ " [label=" ++ quote edge.label ++ "];"

/-- The text of a graph with the given lines. -/
def graph (lines : List String) : String :=
  "\n".intercalate (["digraph ASTContext \x7b", "  rankdir=LR;"] ++ lines ++ ["\x7d"])

end Dot

namespace Session

variable (session : Session)

/-- The first text among some members of the object at a place. -/
def firstText? (node : Nat) (names : List String) : Option String :=
  names.findSome? fun name => (session.document.member? node name).bind Value.text?

/-- The label of an object: its kind and its name on two lines. -/
def dotLabel (id : String) (node : Nat) : String :=
  (session.firstText? node session.settings.kindFields).getD "node" ++ "\\n" ++
    (session.firstText? node ["name"]).getD id

/-- The lines of the objects of a context. -/
def nodeLines (context seeds : List String) : List String :=
  (session.index.sortIds context).filterMap fun id =>
    (session.index.node? id).map fun node =>
      Dot.nodeLine id (session.dotLabel id node) (seeds.contains id)

/-- The graph of a request's context. -/
def dotText (symbols : List Json) : String :=
  let context := session.contextIds symbols
  Dot.graph (session.nodeLines context (session.seeds symbols) ++
    (session.edges context).map Dot.edgeLine)

/-- The number of objects in the graph of a request. -/
def dotCount (symbols : List Json) : Nat := (session.contextIds symbols).length

end Session

end ContextSlice
