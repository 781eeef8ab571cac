import ContextSlice.Proofs.Document.Parts

/-!
# Documents that differ in their bookkeeping

Internal members hold bookkeeping, unless they are inside the dependency graph of a document
(`Document.Bookkeeping`). Two documents that correspond but for these look the same
(`Document.LooksLike`): bookkeeping may be added or removed or be anything else, be it ids, names or
references back to objects that are seen. It is overlooked where a document is indexed and where its
relationships are read (`Document.overlooked_bookkeeping`).
-/

namespace ContextSlice

namespace Document

section
variable (doc : Document)

/-- A place is in the dependency graph of a document if it is inside the member of the first object that
holds the registries. -/
def InGraph (place : Nat) : Prop :=
  ∃ graph, doc.rootMember? graphField = some graph ∧ doc.Inside graph place

/-- The members of an object that hold bookkeeping: the internal ones, unless the object is in the
dependency graph. -/
def Bookkeeping (place : Nat) (name : String) : Prop :=
  isInternal name = true ∧ ¬doc.InGraph place

/-- Two documents look alike if they correspond and nothing is hidden but bookkeeping. -/
def LooksLike (other : Document) : Prop := ∃ twin, doc.Corresponds other twin doc.Bookkeeping

end

section
variable {doc : Document}

theorem not_bookkeeping {name : String} (hn : isInternal name = false) (place : Nat) :
    ¬doc.Bookkeeping place name :=
  fun h => Bool.noConfusion (hn.symm.trans h.1)

/-- Every walk passes by the bookkeeping, since it follows no internal member. -/
theorem passesBy_bookkeeping (start : Value) (skip : List String) :
    doc.PassesBy doc.Bookkeeping start skip :=
  fun _ _ _ hn => .inl hn.1

/-- The container that holds the relationships is in the dependency graph. -/
theorem inGraph_of_registry {name : String} {place : Nat} (h : doc.registry name = .ref place) :
    doc.InGraph place := by
  unfold registry at h
  cases hfound : ((doc.rootMember? graphField).bind doc.object?).bind (doc.member? · name) with
  | none =>
    rw [hfound] at h
    cases h
  | some value =>
    rw [hfound, Option.getD_some] at h
    obtain ⟨holder, hholder, hm⟩ := Option.bind_eq_some_iff.mp hfound
    obtain ⟨graph, hgraph, hobj⟩ := Option.bind_eq_some_iff.mp hholder
    have hinside : doc.Inside graph holder := eq_ref_of_object?_eq_some hobj ▸ inside_self
    exact ⟨graph, hgraph, hinside.member? (h ▸ hm)⟩

/-- Bookkeeping is overlooked where a document is indexed and where its relationships are read. -/
theorem overlooked_bookkeeping : doc.Overlooked doc.Bookkeeping where
  modules _ _ := passesBy_bookkeeping _ _
  whole := passesBy_bookkeeping _ _
  relationships _ hp _ hn := hn.2 (inGraph_of_registry hp)

end

end Document

end ContextSlice
