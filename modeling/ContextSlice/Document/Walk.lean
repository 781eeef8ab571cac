import ContextSlice.Document.Basic
import ContextSlice.Document.Path

/-!
# Walking through a document

`Document.walk` lists the objects that can be reached from a value, every object once, in the
order of a search that goes into a container's parts before it goes on (`Visit`). Members with
internal names are not followed, nor are the members of the starting object that are to be
skipped. The walk keeps a stack of the values that are still to be looked at (`Pending`) and the
places that it has been to. It ends because every step either goes to a new place
(`unseen_cons_lt`) or takes a value off the stack.
-/

namespace ContextSlice

/-- One object reached by a walk: its place, the nearest object around it, and the path from
that one to it. -/
structure Visit where
  node : Nat
  parent : Option Nat
  path : List PathPart
  deriving DecidableEq, Repr

/-- A value still to be looked at, with the nearest object around it and the path from there. -/
structure Pending where
  value : Value
  parent : Option Nat
  path : List PathPart
  deriving DecidableEq, Repr

namespace Document

variable (doc : Document)

/-- The number of places that a walk has not been to. -/
def unseen (seen : List Nat) : Nat :=
  ((List.range doc.containers.size).filter (· ∉ seen)).length

/-- Going to a new place leaves fewer places. -/
theorem unseen_cons_lt {seen : List Nat} {place : Nat} (hp : place < doc.containers.size)
    (hs : place ∉ seen) : doc.unseen (place :: seen) < doc.unseen seen := by
  have hsub : (List.range doc.containers.size).filter (· ∉ place :: seen) =
      ((List.range doc.containers.size).filter (· ∉ seen)).filter (· ≠ place) := by
    rw [List.filter_filter]
    congr 1
    funext n
    simp [not_or]
  rw [unseen, unseen, hsub]
  apply List.length_filter_lt_length_iff_exists.mpr
  exact ⟨place, by simp [hp, hs], by simp⟩

/-- The members of the object at `place` that a walk follows. -/
def followed (skipped : List String) (place : Nat) (members : List (String × Value)) :
    List Pending :=
  (members.filter fun member => !isInternal member.1 && !skipped.contains member.1).map
    fun member => ⟨member.2, some place, [.member member.1]⟩

/-- The items of a sequence that was reached from `parent` by `path`. -/
def positioned (parent : Option Nat) (path : List PathPart) (items : List Value) : List Pending :=
  items.zipIdx.map fun item => ⟨item.1, parent, path ++ [.position item.2]⟩

/-- The walk with a stack, after the places `seen`. The members in `skip` are passed over at the
starting value only. -/
def walkFrom (start : Value) (skip : List String) (stack : List Pending) (seen : List Nat) :
    List Visit :=
  match stack with
  | [] => []
  | ⟨.leaf _, _, _⟩ :: stack => walkFrom start skip stack seen
  | ⟨.ref place, parent, path⟩ :: stack =>
    if _hs : place ∈ seen then walkFrom start skip stack seen
    else
      match _hc : doc.containers[place]? with
      | none => walkFrom start skip stack seen
      | some (.object members) =>
        let skipped := if .ref place = start then skip else []
        ⟨place, parent, path⟩ ::
          walkFrom start skip (followed skipped place members ++ stack) (place :: seen)
      | some (.sequence items) =>
        walkFrom start skip (positioned parent path items ++ stack) (place :: seen)
termination_by (doc.unseen seen, stack.length)
decreasing_by
  · exact Prod.Lex.right _ (Nat.lt_succ_self _)
  · exact Prod.Lex.right _ (Nat.lt_succ_self _)
  · exact Prod.Lex.right _ (Nat.lt_succ_self _)
  · exact Prod.Lex.left _ _
      (doc.unseen_cons_lt (Array.getElem?_eq_some_iff.mp _hc).1 _hs)
  · exact Prod.Lex.left _ _
      (doc.unseen_cons_lt (Array.getElem?_eq_some_iff.mp _hc).1 _hs)

/-- The objects that can be reached from `start`, which is itself reached by `path`. -/
def walk (start : Value) (path : List PathPart) (skip : List String) : List Visit :=
  doc.walkFrom start skip [⟨start, none, path⟩] []

end Document

end ContextSlice
