import ContextSlice.Proofs.Session.Assembly

/-!
# Matched and unmatched symbols

The symbols of a request that stand for something are matched, in the order in which they first come,
and the others are unmatched (`Session.context_matched`). Both are known from a slice alone: what is
unmatched is found by looking the symbols up among the matched ones (`Session.unmatchedSymbols_assemble`).
As a closure has its seeds and nothing closes to more than nothing, a slice has objects exactly if a
symbol is matched (`Session.nodes_ne_nil_iff`).
-/

namespace ContextSlice

namespace Json

theorem text_injective : Function.Injective Json.text := fun _ _ => Json.text.inj

end Json

namespace Session

section
variable {session : Session} {symbols : List String}

/-- The matched symbols of a request for texts are those that stand for something. -/
theorem matchedSymbols_texts :
    session.matchedSymbols (symbols.map .text) =
      ((distinct symbols).filter fun s => !(session.resolve s).isEmpty).map .text := by
  rw [matchedSymbols, List.filter_map, distinct_map Json.text_injective, distinct_filter]
  rfl

/-- A symbol is among the matched ones if it stands for something. -/
theorem among_matchedSymbols {s : String} (hs : s ∈ symbols) :
    Json.among (session.matchedSymbols (symbols.map .text)) (.text s) =
      !(session.resolve s).isEmpty := by
  rw [Bool.eq_iff_iff, Json.among_text, matchedSymbols_texts,
    List.mem_map_of_injective Json.text_injective, List.mem_filter, mem_distinct]
  exact and_iff_right hs

/-- The unmatched symbols of a slice for a request for texts are those that stand for nothing. -/
theorem unmatchedSymbols_assemble (context : List String) (strategy : String) :
    (session.assemble context (session.matchedSymbols (symbols.map .text)) (symbols.map .text)
        strategy).unmatchedSymbols =
      .ok ((symbols.filter fun s => (session.resolve s).isEmpty).map .text) := by
  have hmatched : ∀ value ∈ session.matchedSymbols (symbols.map .text), value.hashable = true := by
    rw [matchedSymbols_texts]
    exact Json.hashable_of_mem_texts
  have hunmatched : (symbols.map Json.text).filter (fun value =>
      !Json.among (session.matchedSymbols (symbols.map .text)) value) =
        (symbols.filter fun s => (session.resolve s).isEmpty).map .text := by
    rw [List.filter_map]
    congr 1
    refine List.filter_congr fun s hs => ?_
    rw [Function.comp_apply, among_matchedSymbols hs, Bool.not_not]
  rw [Slice.unmatchedSymbols, assemble]
  dsimp only
  rw [Json.asSet_of_hashable hmatched, ← hunmatched]
  exact Json.notIn_eq_filter _ Json.hashable_of_mem_texts

end

section
variable {document : Document} {settings : Settings} {symbols : List Json}

/-- A context has ids exactly if a symbol stands for something. -/
theorem contextIds_ne_nil_iff {session : Session} :
    session.contextIds symbols ≠ [] ↔ session.matchedSymbols symbols ≠ [] := by
  constructor
  · intro h hnone
    have hseeds : session.seeds symbols = [] := by
      refine List.eq_nil_iff_forall_not_mem.mpr fun id hid => ?_
      obtain ⟨symbol, hs, hresolve⟩ := mem_seeds.mp hid
      have hmem : symbol ∈ session.matchedSymbols symbols :=
        mem_distinct.mpr (List.mem_filter.mpr ⟨hs, by simp [List.ne_nil_of_mem hresolve]⟩)
      rw [hnone] at hmem
      cases hmem
    obtain ⟨id, hid⟩ := List.exists_mem_of_ne_nil _ h
    rw [contextIds, hseeds] at hid
    exact not_mem_close_nil hid
  · intro h
    obtain ⟨symbol, hmem⟩ := List.exists_mem_of_ne_nil _ h
    obtain ⟨hs, hresolve⟩ := List.mem_filter.mp (mem_distinct.mp hmem)
    obtain ⟨id, hid⟩ := List.exists_mem_of_ne_nil (session.resolveValue symbol) (by simpa using hresolve)
    exact List.ne_nil_of_mem (subset_close _ (mem_seeds.mpr ⟨symbol, hs, hid⟩))

/-- A slice has objects exactly if a symbol of its request is matched. -/
theorem nodes_ne_nil_iff (kind : String) :
    ((ofDocument document settings).assemble ((ofDocument document settings).contextIds symbols)
        ((ofDocument document settings).matchedSymbols symbols) symbols kind).nodes ≠ [] ↔
      (ofDocument document settings).matchedSymbols symbols ≠ [] := by
  have hperm : ((ofDocument document settings).assemble
      ((ofDocument document settings).contextIds symbols)
      ((ofDocument document settings).matchedSymbols symbols) symbols kind).nodeIds.Perm
        ((ofDocument document settings).contextIds symbols) :=
    nodeIds_assemble_perm (nodup_contextIds symbols) fun _ hid => has_of_mem_contextIds hid
  rw [← contextIds_ne_nil_iff, ← List.length_pos_iff, ← List.length_pos_iff,
    length_nodes_assemble, hperm.length_eq]

end

/-- A request for texts is answered by a slice that repeats its symbols. The matched ones are those
that stand for something, each once and in the order in which they first come; the unmatched ones are
the others, as often as they were asked for. So every symbol is either matched or unmatched, and the
slice has objects exactly if a symbol is matched. -/
theorem context_matched (document : Document) (settings : Settings) (symbols : List String) :
    let session := ofDocument document settings
    ∃ (slice : Slice Value) (matched unmatched : List String),
      session.context (symbols.map .text) = .ok slice ∧ slice.symbols = symbols.map .text ∧
      slice.matchedSymbols = matched.map .text ∧
      slice.unmatchedSymbols = .ok (unmatched.map .text) ∧
      (∀ s, s ∈ matched ↔ s ∈ symbols ∧ session.resolve s ≠ []) ∧
      matched.Pairwise (fun s other => symbols.idxOf s < symbols.idxOf other) ∧
      unmatched = symbols.filter (fun s => session.resolve s = []) ∧
      (∀ s ∈ symbols, s ∈ matched ∧ s ∉ unmatched ∨ s ∉ matched ∧ s ∈ unmatched) ∧
      (slice.nodes ≠ [] ↔ matched ≠ []) := by
  intro session
  obtain ⟨kind, hslice⟩ : ∃ kind : RequestKind, session.context (symbols.map .text) = _ :=
    exists_context_eq_ok Json.hashable_of_mem_texts
  have hmem : ∀ s, s ∈ (distinct symbols).filter (fun s => !(session.resolve s).isEmpty) ↔
      s ∈ symbols ∧ session.resolve s ≠ [] := by
    intro s
    simp
  refine ⟨_, (distinct symbols).filter fun s => !(session.resolve s).isEmpty,
    symbols.filter fun s => (session.resolve s).isEmpty, hslice, rfl, matchedSymbols_texts,
    unmatchedSymbols_assemble _ _, hmem, (pairwise_idxOf_distinct symbols).filter _, ?_, ?_, ?_⟩
  · refine List.filter_congr fun s _ => ?_
    rw [Bool.eq_iff_iff, List.isEmpty_iff, decide_eq_true_iff]
  · intro s hs
    rw [hmem, List.mem_filter, List.isEmpty_iff]
    by_cases h : session.resolve s = [] <;> simp [h, hs]
  · rw [nodes_ne_nil_iff, matchedSymbols_texts, ne_eq, List.map_eq_nil_iff]

end Session

end ContextSlice
