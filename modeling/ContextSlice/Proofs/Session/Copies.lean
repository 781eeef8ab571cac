import ContextSlice.Proofs.Document.Copies
import ContextSlice.Proofs.Session.Correspondence
import Mathlib

/-!
# Sessions of copies

What is answered about a document does not depend on the places of its containers
(`Session.same_of_copiedBy`): a copy has the same ids in the same order, names and files stand for the
same ids, and the contexts of requests are the same. Objects are told apart by their places only, and
different ones have different places in a copy, however they are shared or lead back to each other.
-/

namespace ContextSlice

namespace Session

/-- The index of a copy has the same ids in the same order, and under each of them the copy of the object.
Names and files stand for the same ids, the objects have the same files, and for the symbols of a request
the seeds, those that match and the context are the same. -/
theorem same_of_copiedBy {left right : Document} {f : Nat → Nat} (h : Document.CopiedBy f left right)
    (settings : Settings) :
    let first := ofDocument left settings
    let second := ofDocument right settings
    first.index.keys = second.index.keys ∧
      (∀ id, (first.index.node? id).map f = second.index.node? id) ∧
      (∀ name, first.index.idsNamed name = second.index.idsNamed name) ∧
      (∀ file, first.index.idsInFile file = second.index.idsInFile file) ∧
      (∀ id, first.index.fileOf? id = second.index.fileOf? id) ∧
      ∀ symbols, first.seeds symbols = second.seeds symbols ∧
        first.matchedSymbols symbols = second.matchedSymbols symbols ∧
        first.contextIds symbols = second.contextIds symbols := by
  intro first second
  have hd := h.corresponds
  have hpass (start : Value) (skip : List String) : left.PassesBy (fun _ _ => False) start skip :=
    fun _ _ _ hn => hn.elim
  have halike : first.Alike (left.CopiedTo f) second :=
    hd.alike ⟨fun _ _ => hpass _ _, hpass _ _, fun _ _ _ => id⟩ fun _ _ _ _ => id
  refine ⟨halike.index.keys_eq, fun id => ?_, halike.index.idsNamed_eq hd.unique,
    halike.index.idsInFile_eq hd.unique, halike.index.fileOf?_eq hd.unique, fun symbols =>
      ⟨halike.seeds_eq symbols, halike.matchedSymbols_eq symbols, halike.contextIds_eq ?_ ?_ symbols⟩⟩
  · have hfound := halike.index.node? id
    generalize first.index.node? id = node, second.index.node? id = node' at hfound ⊢
    cases hfound with
    | none => rfl
    | some hn => exact congrArg some hn.2
  · exact fun entry _ other ht => hd.ownReferences_eq ht fun _ _ => id
  · exact fun entry _ other ht => hd.references_eq ht (hpass _ _) fun _ _ _ _ => id

/-- A document in which an object is shared and two objects lead to each other. -/
def tangled : Document where
  containers := #[.object [("modules", .ref 1)], .sequence [.ref 2, .ref 3, .ref 2],
    .object [("name", .leaf (.text "f")), ("file", .leaf (.text "a.py")), ("next", .ref 3)],
    .object [("id", .leaf (.text "b")), ("back", .ref 2), ("calls", .leaf (.text "$.modules[0]"))]]
  root := .ref 0

/-- The document with its containers the other way round. -/
def tangledBack : Document where
  containers := #[
    .object [("id", .leaf (.text "b")), ("back", .ref 1), ("calls", .leaf (.text "$.modules[0]"))],
    .object [("name", .leaf (.text "f")), ("file", .leaf (.text "a.py")), ("next", .ref 0)],
    .sequence [.ref 1, .ref 0, .ref 1], .object [("modules", .ref 2)]]
  root := .ref 3

/-- The place of a container of `tangled` when they are the other way round. -/
def turned (place : Nat) : Nat := if place < 4 then 3 - place else place

theorem copiedBy_turned : Document.CopiedBy turned tangled tangledBack where
  injective := by
    intro place _ place' _ h
    simp only [turned] at h
    split at h <;> split at h <;> omega
  root := rfl
  container place _ := by
    have hinside : ∀ place < 4, tangledBack.containers[turned place]? =
        tangled.containers[place]?.map (Container.rename turned) := by decide
    by_cases hp : place < 4
    · exact hinside place hp
    · have hleft : tangled.containers[place]? = none := Array.getElem?_eq_none (Nat.le_of_not_lt hp)
      have hright : tangledBack.containers[place]? = none :=
        Array.getElem?_eq_none (Nat.le_of_not_lt hp)
      rw [turned, if_neg hp, hleft, hright]
      rfl

theorem nodes_tangled : tangled.nodes =
    [⟨2, none, [.member "modules", .position 0]⟩, ⟨3, some 2, [.member "next"]⟩] := by
  cbv

/-- The other way round, the shared object keeps the id that begins where it is first met. -/
theorem same_of_copiedBy_turned : Document.CopiedBy turned tangled tangledBack ∧
    (ofDocument tangledBack {}).index.keys = ["$.modules[0]", "b"] ∧
    (ofDocument tangledBack {}).contextIds [.text "b"] = (ofDocument tangled {}).contextIds [.text "b"] := by
  obtain ⟨hkeys, -, -, -, -, hsymbols⟩ := same_of_copiedBy copiedBy_turned {}
  refine ⟨copiedBy_turned, hkeys.symm.trans ?_, (hsymbols _).2.2.symm⟩
  simp only [ofDocument, Index.ofDocument, nodes_tangled]
  decide

end Session

end ContextSlice
