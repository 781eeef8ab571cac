import ContextSlice.Document.OfJson
import ContextSlice.Proofs.Document.Reachability
import ContextSlice.Proofs.Session.Closure
import ContextSlice.Proofs.Session.Resolution
import Mathlib

/-!
# Direct references

What an object refers to itself is in the context of its name, provided that the object keeps its
id (`Index.Keeps`), which it does unless an object after it is given the same one
(`Index.keeps_iff`). That no two objects state the same id is not enough, for an object may state
the id that another one gets by its path.
-/

namespace ContextSlice

namespace Session

section
variable {session : Session} {node : Nat} {id ref : String} {seeds : List String}

/-- What an object refers to itself is among all that it refers to. -/
theorem ownReferences_subset (h : session.document.variant (.ref node) = .object) :
    session.ownReferences node ⊆ session.references node := by
  intro ref hr
  have hnode : node ∈ (session.document.walk (.ref node) [] []).map Visit.node :=
    Document.mem_walk_iff.mpr ⟨h, node, rfl, .refl⟩
  obtain ⟨visit, hv, hnode⟩ := List.mem_map.mp hnode
  exact List.mem_flatMap.mpr ⟨visit, hv, hnode ▸ hr⟩

/-- A closure has what the objects of its seeds refer to. -/
theorem mem_close_of_mem_references (hs : id ∈ seeds) (hn : session.index.node? id = some node)
    (hr : ref ∈ session.references node) (hi : session.index.has ref = true) :
    ref ∈ session.close seeds :=
  mem_close.mpr (.inl (referenceClosed_forward seeds id (subset_forward seeds hs) node hn ref hr hi))

end

/-- An object keeps its id if no object after it is given the same one, and not otherwise. If it
does, then all ids of the index that it refers to itself are in the context of its name. -/
theorem mem_contextIds_of_mem_ownReferences (document : Document) (settings : Settings)
    {before after : List Visit} {visit : Visit} (hv : document.nodes = before ++ visit :: after)
    {name : String} (hn : document.textMember? visit.node ["name"] = some name) :
    let session := ofDocument document settings
    (session.index.Keeps visit.node ↔
        ∀ later ∈ after, session.index.idOf? later.node ≠ session.index.idOf? visit.node) ∧
      (session.index.Keeps visit.node →
        ∀ ref ∈ session.ownReferences visit.node, session.index.has ref = true →
          ref ∈ session.contextIds [.text name]) := by
  intro session
  refine ⟨Index.keeps_iff document settings hv, fun hkeeps ref hr hi => ?_⟩
  obtain ⟨id, hid, hnode⟩ := Option.bind_eq_some_iff.mp hkeeps
  have hmem : visit ∈ document.nodes := hv ▸ List.mem_append_right _ List.mem_cons_self
  have hseed : id ∈ session.seeds [.text name] :=
    mem_seeds.mpr ⟨.text name, List.mem_cons_self, mem_resolve_of_name hmem hn hid⟩
  exact mem_close_of_mem_references hseed hnode
    (ownReferences_subset (Document.variant_of_mem_nodes hmem) hr) hi

/-- An object of the name `alpha` that calls `x`, one that states some id, and one that states the
id `x`. -/
def caller (id : String) : Document := .ofJson <| .object
  [("modules", .list
    [.object [("name", .text "alpha"), ("calls", .list [.text "x"])],
      .object [("id", .text id)],
      .object [("id", .text "x")]])]

theorem nodes_caller (id : String) : (caller id).nodes =
    [⟨1, none, [.member "modules", .position 0]⟩, ⟨2, none, [.member "modules", .position 1]⟩,
      ⟨3, none, [.member "modules", .position 2]⟩] := by
  cbv

/-- If all ids are different, then what the first object calls is in the context of its name. -/
theorem mem_contextIds_caller : "x" ∈ (ofDocument (caller "y") {}).contextIds [.text "alpha"] := by
  have hn : (caller "y").textMember? 1 ["name"] = some "alpha" := by decide
  obtain ⟨hkeeps, href⟩ := @mem_contextIds_of_mem_ownReferences (caller "y") {} [] _ _
    (nodes_caller "y") _ hn
  simp only [ofDocument, Index.ofDocument, nodes_caller] at hkeeps href ⊢
  exact href (hkeeps.mpr (by decide)) "x" (by decide) (by decide)

/-- If the second object states the id that the first one gets by its path, then the first one does
not keep it, and what it calls is not in the context of its name. -/
theorem not_mem_contextIds_caller :
    "x" ∉ (ofDocument (caller "$.modules[0]") {}).contextIds [.text "alpha"] := by
  have hwalk : (caller "$.modules[0]").walk (.ref 2) [] [] = [⟨2, none, []⟩] := by cbv
  generalize hs : ofDocument (caller "$.modules[0]") {} = session
  simp only [ofDocument, Index.ofDocument, nodes_caller] at hs
  have hseeds : session.seeds [.text "alpha"] = ["$.modules[0]"] := by
    subst hs
    decide
  have hnode : session.index.node? "$.modules[0]" = some 2 := by
    subst hs
    decide
  have hown : session.ownReferences 2 = [] := by
    subst hs
    decide
  have hclosed : session.ReferenceClosed {id | id = "$.modules[0]"} := by
    rintro _ rfl node hn ref hr -
    rw [hnode, Option.some_inj] at hn
    subst hn hs
    simp [references, hwalk, hown] at hr
  rw [contextIds, hseeds, mem_close]
  rintro (h | h | ⟨h, -⟩)
  · have hx : "x" = "$.modules[0]" :=
      forward_subset hclosed (fun _ h => List.mem_singleton.mp h) "x" h
    exact absurd hx (by decide)
  · subst hs
    revert h
    decide
  · subst hs
    cases h

/-- That no two objects state the same id is not enough. -/
theorem not_forall_mem_contextIds :
    ¬ ∀ (document : Document) (settings : Settings),
      (document.nodes.filterMap fun visit => document.statedId? visit.node).Nodup →
      ∀ visit ∈ document.nodes, ∀ name, document.textMember? visit.node ["name"] = some name →
        ∀ ref ∈ (ofDocument document settings).ownReferences visit.node,
          (ofDocument document settings).index.has ref = true →
          ref ∈ (ofDocument document settings).contextIds [.text name] := by
  intro h
  refine not_mem_contextIds_caller
    (h (caller "$.modules[0]") {} ?_ ⟨1, none, [.member "modules", .position 0]⟩ ?_ "alpha"
      (by decide) "x" (by decide) ?_)
  · rw [nodes_caller]
    decide
  · rw [nodes_caller]
    exact List.mem_cons_self
  · simp only [ofDocument, Index.ofDocument, nodes_caller]
    decide

end Session

end ContextSlice
