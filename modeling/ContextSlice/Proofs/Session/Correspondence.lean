import ContextSlice.Proofs.Document.CorrespondingRegistry
import ContextSlice.Proofs.Index.Correspondence
import ContextSlice.Proofs.Session.Forward
import ContextSlice.Session.Assembly

/-!
# Sessions of documents that correspond

If the indexes of two sessions are alike and their relationships have the same ends
(`Session.Alike`), then symbols stand for the same ids (`Session.Alike.seeds_eq`) and relationships add
the same ones (`Session.Alike.reverse_eq`). What objects refer to is not part of this; if twins refer to
the same, then the contexts are the same too (`Session.Alike.contextIds_eq`). All this is so of documents
that correspond if what is hidden is passed by (`Document.Corresponds.alike`,
`Document.Corresponds.references_eq`).
-/

namespace ContextSlice

open Relator

/-- Two sessions are alike if they have the same settings, indexes that are alike, and relationships
with the same ends. -/
structure Session.Alike (twin : Nat → Nat → Prop) (left right : Session) : Prop where
  unique : BiUnique twin
  settings : left.settings = right.settings
  index : left.index.Alike twin right.index
  relationships : List.Forall₂ (fun relationship other => relationship.source = other.source ∧
    relationship.target = other.target) left.relationships right.relationships

namespace Session

section
variable {twin : Nat → Nat → Prop} {left right : Session} (h : left.Alike twin right)
include h

/-! ## Symbols -/

/-- A symbol finds the same ids by files. -/
theorem Alike.fileHits_eq (symbol : String) : left.fileHits symbol = right.fileHits symbol := by
  have hkeys : Assoc.keys left.index.files = Assoc.keys right.index.files := h.index.files.keys_eq
  have hfile : left.index.idsInFile = right.index.idsInFile :=
    funext (h.index.idsInFile_eq h.unique)
  rw [fileHits, fileHits, hkeys, hfile]

theorem Alike.substringHits_eq (symbol : String) :
    left.substringHits symbol = right.substringHits symbol := by
  have hkeys : Assoc.keys left.index.names = Assoc.keys right.index.names := h.index.names.keys_eq
  have hnamed : left.index.idsNamed = right.index.idsNamed :=
    funext (h.index.idsNamed_eq h.unique)
  rw [substringHits, substringHits, hkeys, hnamed, h.settings]

/-- It finds the same ids by every strategy. -/
theorem Alike.hits_eq (symbol : String) (strategy : Strategy) :
    left.hits symbol strategy = right.hits symbol strategy := by
  cases strategy with
  | file => rw [hits, hits, isFileSymbol, isFileSymbol, h.settings, h.fileHits_eq]
  | exact | lowercase => exact h.index.idsNamed_eq h.unique _
  | substring => exact h.substringHits_eq symbol
  | id => rw [hits, hits, h.index.has_eq]

/-- It is resolved to the same ids. -/
theorem Alike.resolve_eq (symbol : String) : left.resolve symbol = right.resolve symbol := by
  simp only [resolve, explain, h.hits_eq]

/-- The symbols of a request stand for the same ids. -/
theorem Alike.seeds_eq (symbols : List Json) : left.seeds symbols = right.seeds symbols := by
  have hresolve : left.resolve = right.resolve := funext h.resolve_eq
  have hvalue : left.resolveValue = right.resolveValue := by
    funext symbol
    rw [resolveValue, resolveValue, hresolve]
  rw [seeds, seeds, hvalue]

/-- The same symbols of a request stand for something. -/
theorem Alike.matchedSymbols_eq (symbols : List Json) :
    left.matchedSymbols symbols = right.matchedSymbols symbols := by
  have hresolve : left.resolve = right.resolve := funext h.resolve_eq
  simp only [matchedSymbols, resolveValue, hresolve]

theorem Alike.requestKind_eq (symbols : List Json) :
    left.requestKind symbols = right.requestKind symbols := by
  have hfile : left.isFileSymbol = right.isFileSymbol := by
    funext symbol
    rw [isFileSymbol, isFileSymbol, h.settings]
  rw [requestKind, requestKind, hfile]

/-! ## Relationships -/

/-- An end of a relationship has the same candidates. -/
theorem Alike.candidates_eq (ref : String) : left.candidates ref = right.candidates ref := by
  rw [candidates, candidates, h.index.has_eq, h.index.idsNamed_eq h.unique]

/-- The policy chooses the same ones. -/
theorem Alike.pick_eq (ref : String) (anchors : List String) :
    left.pick ref anchors = right.pick ref anchors := by
  have hfile : left.index.fileOf? = right.index.fileOf? := funext (h.index.fileOf?_eq h.unique)
  rw [pick, pick, h.candidates_eq, h.settings, hfile]

theorem Alike.across_eq (seeds : List String) (ref anchor : String) :
    left.across seeds ref anchor = right.across seeds ref anchor := by
  simp only [across, h.candidates_eq, h.pick_eq]

/-- Relationships add the same ids. -/
theorem Alike.reverse_eq (seeds : List String) : left.reverse seeds = right.reverse seeds := by
  rw [reverse, reverse]
  refine congrArg distinct (flatMap_eq_of_forall₂ h.relationships ?_)
  rintro relationship - other ⟨hsource, htarget⟩
  rw [related, related, hsource, htarget]
  simp only [h.across_eq]

/-! ## References -/

/-- If twins refer to the same themselves, then the same objects refer to some seeds. -/
theorem Alike.backReferences_eq (seeds : List String)
    (hown : ∀ entry ∈ left.index.nodes, ∀ other, twin entry.2 other →
      left.ownReferences entry.2 = right.ownReferences other) :
    left.backReferences seeds = right.backReferences seeds := by
  rw [backReferences, backReferences, ← List.filterMap_eq_map, List.filterMap_filter, List.filterMap_filter]
  refine filterMap_eq_of_forall₂ h.index.nodes ?_
  rintro ⟨id, node⟩ hm ⟨_, other⟩ ⟨rfl, ht⟩
  simp only [hown _ hm other ht, Function.comp_apply]

/-- If twins refer to the same, then so do ids. -/
theorem Alike.referencesOf_eq
    (href : ∀ entry ∈ left.index.nodes, ∀ other, twin entry.2 other →
      left.references entry.2 = right.references other) (id : String) :
    left.referencesOf id = right.referencesOf id := by
  rw [referencesOf, referencesOf]
  cases hl : left.index.node? id with
  | none =>
    have hr : right.index.node? id = none := eq_none_of_optionRel (hl ▸ h.index.node? id)
    rw [hr]
    rfl
  | some node =>
    obtain ⟨other, hr, ht⟩ := exists_of_optionRel_some (hl ▸ h.index.node? id)
    rw [hr]
    exact href _ (Assoc.mem_of_lookup_eq_some hl) _ ht

/-- If ids refer to the same, then the forward parts are the same, and they are found in the same
steps. -/
theorem Alike.forwardRun_eq (href : ∀ id, left.referencesOf id = right.referencesOf id)
    (seeds : List String) : left.forwardRun seeds = right.forwardRun seeds := by
  rw [forwardRun, forwardRun, h.index.sortIds_eq, spread_congr h.index.has_eq href]

/-- References lead to the same ids. -/
theorem Alike.forward_eq (href : ∀ id, left.referencesOf id = right.referencesOf id)
    (seeds : List String) : left.forward seeds = right.forward seeds := by
  rw [forward, forward, h.forwardRun_eq href]

/-- If twins refer to the same, both themselves and with all that is inside them, then the closures are
the same. -/
theorem Alike.close_eq
    (hown : ∀ entry ∈ left.index.nodes, ∀ other, twin entry.2 other →
      left.ownReferences entry.2 = right.ownReferences other)
    (href : ∀ entry ∈ left.index.nodes, ∀ other, twin entry.2 other →
      left.references entry.2 = right.references other) (seeds : List String) :
    left.close seeds = right.close seeds := by
  rw [close, close, h.forward_eq (h.referencesOf_eq href), h.reverse_eq, h.backReferences_eq _ hown,
    h.settings]

/-- If twins refer to the same, both themselves and with all that is inside them, then the contexts are
the same. -/
theorem Alike.contextIds_eq
    (hown : ∀ entry ∈ left.index.nodes, ∀ other, twin entry.2 other →
      left.ownReferences entry.2 = right.ownReferences other)
    (href : ∀ entry ∈ left.index.nodes, ∀ other, twin entry.2 other →
      left.references entry.2 = right.references other) (symbols : List Json) :
    left.contextIds symbols = right.contextIds symbols := by
  rw [contextIds, contextIds, h.seeds_eq, h.close_eq hown href]

/-- If the contexts are the same, then so are the ids of the slices. -/
theorem Alike.nodeIds_eq {symbols : List Json}
    (hcontext : left.contextIds symbols = right.contextIds symbols) :
    (left.context symbols).map (·.nodeIds) = (right.context symbols).map (·.nodeIds) := by
  rw [context, context, h.requestKind_eq]
  cases right.requestKind symbols with
  | error _ => simp only [bind, Except.bind, Except.map]
  | ok kind =>
    have hids : left.index.sortIds (distinct (left.contextIds symbols)) =
        right.index.sortIds (distinct (right.contextIds symbols)) := by
      rw [hcontext, h.index.sortIds_eq]
    exact congrArg Except.ok hids

end

end Session

/-! ## Documents that correspond -/

namespace Document

section
variable {left right : Document} {twin : Nat → Nat → Prop} {hidden : Nat → String → Prop}
variable (h : left.Corresponds right twin hidden) {settings : Settings} {place other : Nat}
include h

/-- Twins refer to the same themselves, unless references are taken from hidden members. -/
theorem Corresponds.ownReferences_eq (ht : twin place other)
    (hk : ∀ key ∈ settings.dependencyKeys, ¬hidden place key) :
    (Session.ofDocument left settings).ownReferences place =
      (Session.ofDocument right settings).ownReferences other := by
  refine List.flatMap_congr fun key hkey => ?_
  have hm := (h.alikeAt ht).member? (hk key hkey)
  change (left.member? place key).elim [] left.heldTexts =
    (right.member? other key).elim [] right.heldTexts
  generalize left.member? place key = value, right.member? other key = value' at hm ⊢
  cases hm with
  | none => rfl
  | some hv => exact h.heldTexts_eq hv

/-- Twins refer to the same if the walk through them passes by what is hidden. -/
theorem Corresponds.references_eq (ht : twin place other) (hpass : left.PassesBy hidden (.ref place) [])
    (hk : ∀ inner, left.Reachable (.ref place) [] inner →
      ∀ key ∈ settings.dependencyKeys, ¬hidden inner key) :
    (Session.ofDocument left settings).references place =
      (Session.ofDocument right settings).references other :=
  flatMap_eq_of_forall₂ (h.walk (.ref ht) hpass []) fun visit hv _ hvisit =>
    h.ownReferences_eq hvisit.node (hk visit.node (reachable_of_mem_walk hv))

/-- The same is read of twins, unless files are taken from hidden members. -/
theorem Corresponds.readsAlike (ht : twin place other)
    (hf : ∀ name ∈ settings.fileFields, ¬hidden place name) :
    left.ReadsAlike right settings place other :=
  (h.alikeAt ht).readsAlike (fun hh => h.spares place _ hh (by decide))
    (fun hh => h.spares place _ hh (by decide)) hf

/-- The sessions are alike, unless an object's file is taken from a hidden member. -/
theorem Corresponds.alike (ho : left.Overlooked hidden)
    (hf : ∀ visit ∈ left.nodes, ∀ name ∈ settings.fileFields, ¬hidden visit.node name) :
    (Session.ofDocument left settings).Alike twin (Session.ofDocument right settings) where
  unique := h.unique
  settings := rfl
  index := Index.ofDocument_alike h.unique (h.nodes ho) fun visit hv _ ht => h.readsAlike ht (hf visit hv)
  relationships := h.relationships ho

end

end Document

end ContextSlice
