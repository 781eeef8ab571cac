import ContextSlice.Proofs.Index.Identity
import ContextSlice.Proofs.Session.DirectReferences
import ContextSlice.Proofs.Session.Indexed
import ContextSlice.Session.Edges

/-!
# Which edges a slice has

An edge leads from an id of the index to another id of the context, because the object of the first one
holds the second one itself (`Session.mem_referenceEdges`), or because a relationship has both among the
candidates of its ends (`Session.mem_relationshipEdges`). The references that are followed when seeds are
closed are those of an object and of all that is inside it, and the edges of an object are its own
references only; so every reference of an object in the forward part is an edge of the closure
(`Session.mem_edges_close`).
-/

namespace ContextSlice

/-- A value is a text if it is the leaf with this text. -/
theorem Value.text?_eq_some_iff {value : Value} {s : String} :
    value.text? = some s ↔ value = .leaf (.text s) := by
  unfold Value.text?
  split <;> simp_all

namespace Document

variable {doc : Document}

/-- A value holds a text if it is the text, or a sequence that has the text as an item. -/
theorem mem_heldTexts {value : Value} {s : String} :
    s ∈ doc.heldTexts value ↔ value = .leaf (.text s) ∨
      ∃ items, doc.items? value = some items ∧ .leaf (.text s) ∈ items := by
  unfold heldTexts
  split
  · rename_i t ht
    rw [Value.text?_eq_some_iff] at ht
    subst ht
    simp [items?, container?, eq_comm]
  · rename_i hnone
    have hne : value ≠ .leaf (.text s) := fun h => by
      rw [Value.text?_eq_some_iff.mpr h] at hnone
      cases hnone
    simp only [List.mem_filterMap, Value.text?_eq_some_iff, hne, false_or]
    cases doc.items? value <;> simp

/-- A member holds a text if it is there and its value holds the text. -/
theorem mem_elim_heldTexts {member : Option Value} {s : String} :
    s ∈ member.elim [] doc.heldTexts ↔ ∃ value, member = some value ∧ s ∈ doc.heldTexts value := by
  cases member <;> simp

end Document

namespace Session

section
variable {session : Session} {context : List String} {edge : Edge}

/-- The edges from an id are the references that its object holds itself to the ids of the context. -/
theorem mem_referenceEdges {id : String} :
    edge ∈ session.referenceEdges context id ↔
      edge.source = id ∧ edge.target ∈ context ∧ ∃ node, session.index.node? id = some node ∧
        edge.label ∈ session.settings.dependencyKeys ∧
        ∃ value, session.document.member? node edge.label = some value ∧
          edge.target ∈ session.document.heldTexts value := by
  unfold referenceEdges
  split
  · rename_i hnone
    simp [hnone]
  · rename_i node hnode
    simp only [List.mem_flatMap, List.mem_map, List.mem_filter, List.contains_eq_mem,
      decide_eq_true_eq, Document.mem_elim_heldTexts, hnode, Option.some_inj, exists_eq_left']
    constructor
    · rintro ⟨key, hkey, target, ⟨hheld, hcontext⟩, rfl⟩
      exact ⟨rfl, hcontext, hkey, hheld⟩
    · rintro ⟨rfl, hcontext, hkey, hheld⟩
      exact ⟨edge.label, hkey, edge.target, ⟨hheld, hcontext⟩, rfl⟩

/-- The edges of a relationship lead from every candidate of the one end in the context to every
candidate of the other end there. -/
theorem mem_relationshipEdges {relationship : Relationship} :
    edge ∈ session.relationshipEdges context relationship ↔
      edge.source ∈ context ∧ edge.target ∈ context ∧ ∃ source target,
        relationship.source = some source ∧ relationship.target = some target ∧
        edge.source ∈ session.candidates source ∧ edge.target ∈ session.candidates target ∧
        edge.label = relationshipLabel relationship := by
  unfold relationshipEdges
  split
  · rename_i source target hs ht
    simp only [List.mem_flatMap, List.mem_map, List.mem_filter, List.contains_eq_mem,
      decide_eq_true_eq, hs, ht, Option.some_inj, exists_eq_left', exists_and_left]
    constructor
    · rintro ⟨a, ⟨ha, hca⟩, b, ⟨hb, hcb⟩, rfl⟩
      exact ⟨hca, hcb, ha, hb, rfl⟩
    · rintro ⟨hca, hcb, ha, hb, hlabel⟩
      exact ⟨edge.source, ⟨ha, hca⟩, edge.target, ⟨hb, hcb⟩, hlabel ▸ rfl⟩
  · rename_i hnone
    constructor
    · exact fun h => absurd h List.not_mem_nil
    · rintro ⟨-, -, source, target, hs, ht, -⟩
      exact absurd ht (hnone source target hs)

/-- The edges of a context are those of its ids and of the relationships that lead to another id. -/
theorem mem_edges :
    edge ∈ session.edges context ↔ edge.source ≠ edge.target ∧
      (edge.source ∈ context ∧ session.index.has edge.source = true ∧
          edge ∈ session.referenceEdges context edge.source ∨
        ∃ relationship ∈ session.relationships, edge ∈ session.relationshipEdges context relationship) := by
  simp only [edges, mem_distinct, List.mem_filter, List.mem_append, List.mem_flatMap,
    Index.mem_sortIds, decide_eq_true_eq]
  rw [and_comm]
  refine and_congr_right fun _ => or_congr_left ?_
  constructor
  · rintro ⟨id, ⟨hc, hi⟩, he⟩
    cases (mem_referenceEdges.mp he).1
    exact ⟨hc, hi, he⟩
  · rintro ⟨hc, hi, he⟩
    exact ⟨_, ⟨hc, hi⟩, he⟩

end

/-- What an object of the forward part holds itself in a dependency member is an edge of the closure, if it
is another id of the index. -/
theorem mem_edges_close {session : Session} {seeds : List String} {id ref key : String} {node : Nat}
    {value : Value} (hid : id ∈ session.forward seeds) (hn : session.index.node? id = some node)
    (hobject : session.document.variant (.ref node) = .object)
    (hkey : key ∈ session.settings.dependencyKeys)
    (hm : session.document.member? node key = some value)
    (hr : ref ∈ session.document.heldTexts value) (hi : session.index.has ref = true) (hne : id ≠ ref) :
    ⟨id, ref, key⟩ ∈ session.edges (session.close seeds) := by
  have hown : ref ∈ session.ownReferences node :=
    List.mem_flatMap.mpr ⟨key, hkey, Document.mem_elim_heldTexts.mpr ⟨value, hm, hr⟩⟩
  have hforward : ref ∈ session.forward seeds :=
    referenceClosed_forward seeds id hid node hn ref (ownReferences_subset hobject hown) hi
  have hhas : session.index.has id = true :=
    Index.node?_isSome_iff.mp (Option.isSome_iff_exists.mpr ⟨node, hn⟩)
  exact mem_edges.mpr ⟨hne, .inl ⟨mem_close.mpr (.inl hid), hhas, mem_referenceEdges.mpr
    ⟨rfl, mem_close.mpr (.inl hforward), node, hn, hkey, value, hm, hr⟩⟩⟩

/-- What is found under an id of a document's index is an object. -/
theorem variant_of_node? {document : Document} {settings : Settings} {id : String} {node : Nat}
    (h : (ofDocument document settings).index.node? id = some node) :
    document.variant (.ref node) = .object := by
  obtain ⟨visit, hv, rfl⟩ := List.mem_map.mp (Index.idOf?_of_node?_eq_some h).1
  exact Document.variant_of_mem_nodes hv

/-- No edge of a slice comes twice, and none leads back to where it begins. From one id to another there is
an edge of some label just if both are in the context, the first one is in the index, and either its object
holds the second one itself in the dependency member of this name, or a relationship of this kind has them
among the candidates of its ends. Whatever an object of the forward part of a closure refers to itself is
an edge of the closure, if it is another id of the index. -/
theorem mem_edges_iff_reference_or_relationship (document : Document) (settings : Settings) :
    let session := ofDocument document settings
    (∀ context : List String,
      (session.edges context).Nodup ∧ (∀ edge ∈ session.edges context, edge.source ≠ edge.target) ∧
      ∀ a b label : String, a ≠ b → (⟨a, b, label⟩ ∈ session.edges context ↔
        a ∈ context ∧ b ∈ context ∧ session.index.has a = true ∧
          ((label ∈ settings.dependencyKeys ∧ ∃ node value, session.index.node? a = some node ∧
              document.member? node label = some value ∧ (value = .leaf (.text b) ∨
                ∃ items, document.items? value = some items ∧ .leaf (.text b) ∈ items)) ∨
            ∃ relationship ∈ document.relationships, ∃ source target,
              relationship.source = some source ∧ relationship.target = some target ∧
              a ∈ session.candidates source ∧ b ∈ session.candidates target ∧
              label = if relationship.kind = "" then "related" else relationship.kind))) ∧
      ∀ (seeds : List String), ∀ id ∈ session.forward seeds, ∀ node,
        session.index.node? id = some node → ∀ key ∈ settings.dependencyKeys, ∀ value,
          document.member? node key = some value → ∀ ref ∈ document.heldTexts value,
            session.index.has ref = true → id ≠ ref →
              ⟨id, ref, key⟩ ∈ session.edges (session.close seeds) := by
  intro session
  refine ⟨fun context => ⟨nodup_distinct _, fun edge he => (mem_edges.mp he).1,
    fun a b label hne => ?_⟩, fun seeds id hid node hn key hkey value hm ref hr hi hne =>
      mem_edges_close hid hn (variant_of_node? hn) hkey hm hr hi hne⟩
  rw [mem_edges]
  constructor
  · rintro ⟨-, ⟨ha, hi, he⟩ | ⟨relationship, hr, he⟩⟩
    · obtain ⟨-, hb, node, hn, hkey, value, hm, hheld⟩ := mem_referenceEdges.mp he
      exact ⟨ha, hb, hi, .inl ⟨hkey, node, value, hn, hm, Document.mem_heldTexts.mp hheld⟩⟩
    · obtain ⟨ha, hb, source, target, hs, ht, hca, hcb, hlabel⟩ := mem_relationshipEdges.mp he
      exact ⟨ha, hb, has_of_mem_candidates hca,
        .inr ⟨relationship, hr, source, target, hs, ht, hca, hcb, hlabel⟩⟩
  · rintro ⟨ha, hb, hi, ⟨hkey, node, value, hn, hm, hheld⟩ |
      ⟨relationship, hr, source, target, hs, ht, hca, hcb, hlabel⟩⟩
    · exact ⟨hne, .inl ⟨ha, hi, mem_referenceEdges.mpr
        ⟨rfl, hb, node, hn, hkey, value, hm, Document.mem_heldTexts.mpr hheld⟩⟩⟩
    · exact ⟨hne, .inr ⟨relationship, hr, mem_relationshipEdges.mpr
        ⟨ha, hb, source, target, hs, ht, hca, hcb, hlabel⟩⟩⟩

end Session

end ContextSlice
