import ContextSlice.Proofs.Index.Anchors
import ContextSlice.Proofs.Session.Closure
import ContextSlice.Proofs.Session.Matching

/-!
# Ids of the index

Whatever a symbol stands for is an id of the index (`Session.has_of_mem_resolve`), and closing ids of
the index leads to no others (`Session.has_of_mem_close`). So all ids of a context are ids of the index
(`Session.has_of_mem_contextIds`), and every one of these is in the context that it is the symbol of
(`Session.mem_contextIds_self`).
-/

namespace ContextSlice

namespace Session

section
variable {document : Document} {settings : Settings} {id : String}

/-- What a symbol stands for is an id of the index. -/
theorem has_of_mem_resolve {symbol : String} (h : id ∈ (ofDocument document settings).resolve symbol) :
    (ofDocument document settings).index.has id = true := by
  obtain ⟨-, strategy, hid⟩ := mem_resolve.mp h
  by_cases hs : strategy = .id
  · subst hs
    obtain ⟨rfl, hhas⟩ := mem_id_hits.mp hid
    exact hhas
  · obtain ⟨visit, hv, hvisit, -⟩ := exists_mem_hits_iff.mp ⟨strategy, hs, hid⟩
    exact Index.has_ofDocument_iff.mpr ⟨visit, hv, hvisit⟩

/-- The seeds of a request are ids of the index. -/
theorem has_of_mem_seeds {symbols : List Json}
    (h : id ∈ (ofDocument document settings).seeds symbols) :
    (ofDocument document settings).index.has id = true := by
  obtain ⟨symbol, -, hid⟩ := mem_seeds.mp h
  unfold resolveValue at hid
  cases ht : symbol.text? with
  | none =>
    rw [ht] at hid
    cases hid
  | some s =>
    rw [ht] at hid
    exact has_of_mem_resolve hid

/-- What an end of a relationship may stand for is an id of the index. -/
theorem has_of_mem_candidates {ref : String}
    (h : id ∈ (ofDocument document settings).candidates ref) :
    (ofDocument document settings).index.has id = true := by
  unfold candidates at h
  split at h
  · rename_i href
    rwa [List.mem_singleton.mp h]
  · obtain ⟨visit, hv, hvisit, -⟩ := Index.mem_idsNamed_iff.mp h
    exact Index.has_ofDocument_iff.mpr ⟨visit, hv, hvisit⟩

end

section
variable {session : Session} {id : String}

/-- The policy picks among the candidates. -/
theorem pick_subset (ref : String) (anchors : List String) :
    session.pick ref anchors ⊆ session.candidates ref := by
  unfold pick
  split
  · exact List.Subset.refl _
  · exact List.take_subset 1 _
  · dsimp only
    split
    · rename_i found hf
      exact List.cons_subset.mpr ⟨List.mem_of_find?_eq_some hf, List.nil_subset _⟩
    · exact List.take_subset 1 _

/-- What is at the other end of a relationship that touches a seed is a candidate of this end. -/
theorem exists_candidates_of_mem_reverse {seeds : List String} (h : id ∈ session.reverse seeds) :
    ∃ ref, id ∈ session.candidates ref := by
  obtain ⟨relationship, -, hid⟩ := mem_reverse.mp h
  obtain ⟨source, target, -, -, hid | hid⟩ := mem_related.mp hid
  · exact ⟨source, pick_subset _ _ (mem_across.mp hid).2⟩
  · exact ⟨target, pick_subset _ _ (mem_across.mp hid).2⟩

/-- References lead only to ids of the index. -/
theorem has_of_mem_forward {seeds : List String} (hs : ∀ id ∈ seeds, session.index.has id = true)
    (h : id ∈ session.forward seeds) : session.index.has id = true := by
  have hclosed : session.ReferenceClosed {id | session.index.has id = true} :=
    fun _ _ _ _ _ _ href => href
  exact forward_subset hclosed hs id h

/-- Objects that refer back are objects of the index. -/
theorem has_of_mem_backReferences {seeds : List String} (h : id ∈ session.backReferences seeds) :
    session.index.has id = true := by
  obtain ⟨node, hm, -⟩ := mem_backReferences.mp h
  exact Index.has_iff.mpr (List.mem_map_of_mem (f := Prod.fst) hm)

end

section
variable {document : Document} {settings : Settings} {id : String}

/-- Closing ids of the index leads to no others. -/
theorem has_of_mem_close {seeds : List String}
    (hs : ∀ id ∈ seeds, (ofDocument document settings).index.has id = true)
    (h : id ∈ (ofDocument document settings).close seeds) :
    (ofDocument document settings).index.has id = true := by
  rcases mem_close.mp h with h | h | ⟨-, h⟩
  · exact has_of_mem_forward hs h
  · obtain ⟨ref, hid⟩ := exists_candidates_of_mem_reverse h
    exact has_of_mem_candidates hid
  · exact has_of_mem_backReferences h

/-- The ids of a context are ids of the index. -/
theorem has_of_mem_contextIds {symbols : List Json}
    (h : id ∈ (ofDocument document settings).contextIds symbols) :
    (ofDocument document settings).index.has id = true :=
  has_of_mem_close (fun _ hs => has_of_mem_seeds hs) h

/-- An id of the index is in the context that it is the symbol of. -/
theorem mem_contextIds_self (h : (ofDocument document settings).index.has id = true) :
    id ∈ (ofDocument document settings).contextIds [.text id] := by
  have hresolve : id ∈ (ofDocument document settings).resolve id :=
    mem_resolve.mpr ⟨Index.ne_empty_of_has h, .id, mem_id_hits.mpr ⟨rfl, h⟩⟩
  exact subset_close _ (mem_seeds.mpr ⟨.text id, List.mem_cons_self, hresolve⟩)

end

end Session

end ContextSlice
