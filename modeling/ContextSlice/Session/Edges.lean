import ContextSlice.Session.Closure

/-!
# Edges of a slice

The edges between the ids of a context (`Session.edges`): one for every reference that an object
holds itself, labelled by the member that holds it, and one for every relationship, labelled by
its kind. No edge leads back to where it begins, and none comes twice.
-/

namespace ContextSlice

/-- A labelled edge between two ids. -/
structure Edge where
  source : String
  target : String
  label : String
  deriving DecidableEq, Repr

namespace Session

variable (session : Session)

/-- The edges from an id by the references that its object holds itself. -/
def referenceEdges (context : List String) (id : String) : List Edge :=
  match session.index.node? id with
  | none => []
  | some node =>
    session.settings.dependencyKeys.flatMap fun key =>
      let held := (session.document.member? node key).elim [] session.document.heldTexts
      (held.filter context.contains).map fun target => ⟨id, target, key⟩

/-- The label of a relationship's edges. -/
def relationshipLabel (relationship : Relationship) : String :=
  if relationship.kind = "" then "related" else relationship.kind

/-- The edges that a relationship stands for. -/
def relationshipEdges (context : List String) (relationship : Relationship) : List Edge :=
  match relationship.source, relationship.target with
  | some source, some target =>
    let sources := (session.candidates source).filter context.contains
    let targets := (session.candidates target).filter context.contains
    sources.flatMap fun a => targets.map fun b => ⟨a, b, relationshipLabel relationship⟩
  | _, _ => []

/-- The edges between the ids of a context. -/
def edges (context : List String) : List Edge :=
  distinct (((session.index.sortIds (distinct context)).flatMap (session.referenceEdges context) ++
      session.relationships.flatMap (session.relationshipEdges context)).filter
    fun edge => edge.source ≠ edge.target)

end Session

end ContextSlice
