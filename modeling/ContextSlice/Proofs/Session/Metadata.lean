import ContextSlice.Proofs.Document.RootApart
import ContextSlice.Proofs.Index.Identity
import ContextSlice.Proofs.Session.Closure
import ContextSlice.Proofs.Session.Correspondence

/-!
# Contexts and the metadata

The metadata of a document has no part in the contexts of requests if the document lists its modules
(`Session.contextIds_eq_of_modules`). Otherwise the first object is itself an object of the index, and
what is inside it is looked through for references, the metadata too. This is the only way in which the
metadata can make a difference, if the settings take neither files nor references from its members
themselves (`Settings.SparesMetadata`): an id that is in the context of a request for one document and not
for another one, which differs from it in the metadata only, is found by following references from the
metadata (`Session.ThroughMetadata`).
-/

namespace ContextSlice

open Relator

/-- Settings spare the metadata if neither the file of an object nor references are taken from the members
that hold it. -/
def Settings.SparesMetadata (settings : Settings) : Prop :=
  ∀ name ∈ metadataFields, name ∉ settings.fileFields ∧ name ∉ settings.dependencyKeys

instance (settings : Settings) : Decidable settings.SparesMetadata :=
  inferInstanceAs (Decidable (∀ name ∈ metadataFields, _))

namespace Session

/-- The object of an id is looked through as far as the first object. -/
def ScansRoot (session : Session) (id : String) : Prop :=
  ∃ node, session.index.node? id = some node ∧
    ∃ visit ∈ session.document.walk (.ref node) [] [], .ref visit.node = session.document.root

/-- The texts in the dependency members of all objects inside the metadata. -/
def metadataReferences (session : Session) : List String :=
  ((session.document.membersOf session.document.root).filter (·.1 ∈ metadataFields)).flatMap
    fun member => (session.document.walk member.2 [] []).flatMap
      fun visit => session.ownReferences visit.node

/-- The metadata may bring an id into a context: an object of the context is looked through as far as the
first object, and references lead to the id from an id of the index that is inside the metadata. -/
def ThroughMetadata (session : Session) (context : List String) (id : String) : Prop :=
  (∃ scanning ∈ context, session.ScansRoot scanning) ∧
    id ∈ session.forward (session.metadataReferences.filter session.index.has)

/-- What leads through the metadata does so from a larger context. -/
theorem ThroughMetadata.mono {session : Session} {context more : List String} {id : String}
    (hc : context ⊆ more) (h : session.ThroughMetadata context id) :
    session.ThroughMetadata more id := by
  obtain ⟨⟨scanning, hs, hroot⟩, hid⟩ := h
  exact ⟨⟨scanning, hc hs, hroot⟩, hid⟩

section
variable {session : Session} {node inner : Nat} {ref : String}

/-- An object refers to what the objects refer to that can be reached from it. -/
theorem mem_references_iff :
    ref ∈ session.references node ↔ ∃ inner, session.document.variant (.ref inner) = .object ∧
      session.document.Reachable (.ref node) [] inner ∧ ref ∈ session.ownReferences inner := by
  rw [references, List.mem_flatMap]
  constructor
  · rintro ⟨visit, hv, hr⟩
    exact ⟨visit.node, Document.variant_of_mem_walk hv, Document.reachable_of_mem_walk hv, hr⟩
  · rintro ⟨inner, hobj, hreach, hr⟩
    obtain ⟨visit, hv, rfl⟩ := Document.exists_visit_of_reachable [] hobj hreach
    exact ⟨visit, hv, hr⟩

/-- The references of an object in the metadata are references of the metadata. -/
theorem mem_metadataReferences (hin : session.document.InMetadata inner)
    (hobj : session.document.variant (.ref inner) = .object)
    (hr : ref ∈ session.ownReferences inner) : ref ∈ session.metadataReferences := by
  obtain ⟨root, name, value, hroot, hm, hn, hreach⟩ := hin
  obtain ⟨members, hc, -⟩ := Document.mem_members_iff.mp hm
  have hmembers : session.document.membersOf session.document.root =
      session.document.members root := by
    rw [Document.membersOf, hroot, Document.object?, hc]
    rfl
  obtain ⟨visit, hv, rfl⟩ := Document.exists_visit_of_reachable [] hobj hreach
  rw [metadataReferences, hmembers]
  exact List.mem_flatMap.mpr ⟨(name, value), List.mem_filter.mpr ⟨hm, decide_eq_true hn⟩,
    List.mem_flatMap.mpr ⟨visit, hv, hr⟩⟩

/-- Only an object has metadata. -/
theorem variant_root_of_inMetadata {doc : Document} (hin : doc.InMetadata inner) :
    doc.variant doc.root = .object := by
  obtain ⟨root, name, value, hroot, hm, -⟩ := hin
  obtain ⟨members, hc, -⟩ := Document.mem_members_iff.mp hm
  exact hroot ▸ Document.variant_eq_object_iff.mpr ⟨members, hc⟩

/-- An object from which the first one can be reached is looked through as far as this. -/
theorem scansRoot_of_reachable {id : String} {root : Nat} (hn : session.index.node? id = some node)
    (hroot : session.document.root = .ref root)
    (hobj : session.document.variant (.ref root) = .object)
    (hr : session.document.Reachable (.ref node) [] root) : session.ScansRoot id := by
  obtain ⟨visit, hv, rfl⟩ := Document.exists_visit_of_reachable [] hobj hr
  exact ⟨node, hn, visit, hv, hroot.symm⟩

end

section
variable {left right : Document} {twin : Nat → Nat → Prop} (h : left.Twins right twin)
variable {settings : Settings} {place other : Nat}
include h

/-! ## Documents that list their modules -/

/-- If a document lists its modules, then the metadata makes no difference to the context of any
request. -/
theorem contextIds_eq_of_modules (ha : left.RootApart) (hm : left.modules?.isSome)
    (symbols : List Json) :
    (ofDocument left settings).contextIds symbols =
      (ofDocument right settings).contextIds symbols := by
  obtain ⟨modules, hmodules⟩ := Option.isSome_iff_exists.mp hm
  have hapart := ha.modules modules hmodules
  have hreach : ∀ visit ∈ left.nodes, left.Reachable modules [] visit.node := by
    intro visit hv
    rw [Document.nodes_of_modules hmodules] at hv
    exact Document.reachable_of_mem_walk hv
  have hexempt : ∀ visit ∈ left.nodes, left.exempt visit.node = [] := fun visit hv =>
    Document.exempt_of_ne (hapart visit.node (hreach visit hv))
  have hnode : ∀ entry ∈ (Index.ofDocument left settings).nodes,
      ∃ visit ∈ left.nodes, visit.node = entry.2 := by
    intro entry he
    have hfound : (Index.ofDocument left settings).node? entry.1 = some entry.2 :=
      (Assoc.lookup_eq_some_iff_mem (Index.nodup_keys _)).mpr he
    exact List.mem_map.mp (Index.idOf?_of_node?_eq_some hfound).1
  have halike : (ofDocument left settings).Alike twin (ofDocument right settings) :=
    h.corresponds.alike ha.overlooked fun visit hv name _ => hexempt visit hv ▸ List.not_mem_nil
  refine halike.contextIds_eq (fun entry he other ht => ?_) (fun entry he other ht => ?_) symbols
  · obtain ⟨visit, hv, hv'⟩ := hnode entry he
    rw [← hv'] at ht ⊢
    exact h.corresponds.ownReferences_eq ht fun key _ => hexempt visit hv ▸ List.not_mem_nil
  · obtain ⟨visit, hv, hv'⟩ := hnode entry he
    rw [← hv'] at ht ⊢
    have hinner : ∀ place, left.Reachable (.ref visit.node) [] place → .ref place ≠ left.root :=
      fun place hp => hapart place ((hreach visit hv).trans hp)
    refine h.corresponds.references_eq ht (Document.overlooks_nil_iff.mpr hinner).passesBy
      fun place hp key _ => ?_
    rw [Document.exempt_of_ne (hinner place hp)]
    exact List.not_mem_nil

/-! ## All documents -/

variable (ha : left.RootApart) (hs : settings.SparesMetadata)
include ha hs

/-- If settings spare the metadata, then the sessions are alike. -/
theorem alike_of_sparesMetadata :
    (ofDocument left settings).Alike twin (ofDocument right settings) :=
  h.corresponds.alike ha.overlooked fun _ _ name hn =>
    Document.notMem_exempt_of_notMem fun hm => (hs name hm).1 hn

omit ha in
/-- If settings spare the metadata, then twins refer to the same themselves. -/
theorem ownReferences_eq_of_sparesMetadata (ht : twin place other) :
    (ofDocument left settings).ownReferences place =
      (ofDocument right settings).ownReferences other :=
  h.corresponds.ownReferences_eq ht fun key hk =>
    Document.notMem_exempt_of_notMem fun hm => (hs key hm).2 hk

omit ha in
/-- What an object refers to its twin refers to as well, or it is inside the metadata and the object is
looked through as far as the first one. -/
theorem mem_references_or {id ref : String} (ht : twin place other)
    (hn : (ofDocument left settings).index.node? id = some place)
    (hr : ref ∈ (ofDocument left settings).references place) :
    ref ∈ (ofDocument right settings).references other ∨
      (ofDocument left settings).ScansRoot id ∧
        ref ∈ (ofDocument left settings).metadataReferences := by
  obtain ⟨inner, hobj, hreach, hown⟩ := mem_references_iff.mp hr
  rcases h.reachable ht hreach with ⟨inner', ht', hreach'⟩ | ⟨⟨root, hroot, hrr⟩, hin⟩
  · rw [ownReferences_eq_of_sparesMetadata h hs ht'] at hown
    have hobj' : right.variant (.ref inner') = .object := h.corresponds.variant_eq (.ref ht') ▸ hobj
    exact .inl (mem_references_iff.mpr ⟨inner', hobj', hreach', hown⟩)
  · have hobj' : left.variant (.ref root) = .object := hroot ▸ variant_root_of_inMetadata hin
    exact .inr ⟨scansRoot_of_reachable hn hroot hobj' hrr, mem_metadataReferences hin hobj hown⟩

/-- What is found for one document only by following references from some seeds is found through the
metadata. -/
theorem mem_forward_or_throughMetadata {seeds : List String} {id : String}
    (hid : id ∈ (ofDocument left settings).forward seeds) :
    id ∈ (ofDocument right settings).forward seeds ∨
      (ofDocument left settings).ThroughMetadata ((ofDocument left settings).forward seeds) id := by
  have halike := alike_of_sparesMetadata h ha hs
  -- What is to be shown holds of a closed set of ids.
  have hclosed : (ofDocument left settings).ReferenceClosed
      {id | id ∈ (ofDocument left settings).forward seeds ∧
        (id ∈ (ofDocument right settings).forward seeds ∨
          (ofDocument left settings).ThroughMetadata
            ((ofDocument left settings).forward seeds) id)} := by
    rintro id ⟨hleft, hor⟩ node hn ref hr hi
    refine ⟨referenceClosed_forward seeds id hleft node hn ref hr hi, ?_⟩
    rcases hor with hright | ⟨hscan, hthrough⟩
    · obtain ⟨other, hn', ht⟩ := exists_of_optionRel_some (hn ▸ halike.index.node? id)
      rcases mem_references_or h hs ht hn hr with hr' | ⟨hscan, hr'⟩
      · exact .inl (referenceClosed_forward seeds id hright other hn' ref hr'
          (halike.index.has_eq ref ▸ hi))
      · exact .inr ⟨⟨id, hleft, hscan⟩, subset_forward _ (List.mem_filter.mpr ⟨hr', hi⟩)⟩
    · exact .inr ⟨hscan, referenceClosed_forward _ id hthrough node hn ref hr hi⟩
  have hseeds : ∀ id ∈ seeds, id ∈ (ofDocument left settings).forward seeds ∧
      (id ∈ (ofDocument right settings).forward seeds ∨ (ofDocument left settings).ThroughMetadata
        ((ofDocument left settings).forward seeds) id) :=
    fun id hs => ⟨subset_forward seeds hs, .inl (subset_forward seeds hs)⟩
  exact (forward_subset hclosed hseeds id hid).2

/-- What is in the context of a request for one document only is there through the metadata. -/
theorem mem_contextIds_or_throughMetadata {symbols : List Json} {id : String}
    (hid : id ∈ (ofDocument left settings).contextIds symbols) :
    id ∈ (ofDocument right settings).contextIds symbols ∨
      (ofDocument left settings).ThroughMetadata
        ((ofDocument left settings).contextIds symbols) id := by
  have halike := alike_of_sparesMetadata h ha hs
  have hforward : (ofDocument left settings).forward ((ofDocument left settings).seeds symbols) ⊆
      (ofDocument left settings).contextIds symbols := fun _ hid => mem_close.mpr (.inl hid)
  rcases mem_close.mp hid with hid | hid | ⟨hscan, hid⟩
  · rcases mem_forward_or_throughMetadata h ha hs hid with hid | hid
    · rw [halike.seeds_eq] at hid
      exact .inl (mem_close.mpr (.inl hid))
    · exact .inr (hid.mono hforward)
  · rw [halike.reverse_eq, halike.seeds_eq] at hid
    exact .inl (mem_close.mpr (.inr (.inl hid)))
  · rw [halike.backReferences_eq _ fun entry _ other ht =>
      ownReferences_eq_of_sparesMetadata h hs ht, halike.seeds_eq] at hid
    exact .inl (mem_close.mpr (.inr (.inr ⟨hscan, hid⟩)))

end

end Session

end ContextSlice
