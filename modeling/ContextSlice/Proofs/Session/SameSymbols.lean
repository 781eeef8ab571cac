import ContextSlice.Proofs.Session.Assembly
import ContextSlice.Proofs.Session.SameFile

/-!
# The same symbols again

The answer to a request depends on which symbols it has, and not on how often or in which order it has
them (`Session.context_same_symbols`). Every stage is shown to depend on the members of its list alone:
the seeds (`Session.mem_seeds_congr`), the parts of a closure (`Session.mem_close_congr`), what is taken
from the document for a context (`Session.assemble_congr`) and the kind of the request
(`Session.requestKind_congr`).
-/

namespace ContextSlice

/-- Lists with the same members contain the same. -/
theorem contains_congr {ids more : List String} (h : ∀ id, id ∈ ids ↔ id ∈ more) :
    ids.contains = more.contains := by
  funext id
  rw [Bool.eq_iff_iff, List.contains_iff_mem, List.contains_iff_mem]
  exact h id

namespace Session

section
variable {session : Session} {seeds more : List String}

/-! ## The closure -/

/-- The reverse part depends on the members of the seeds alone. -/
theorem reverse_congr (h : ∀ id, id ∈ seeds ↔ id ∈ more) :
    session.reverse seeds = session.reverse more := by
  have hacross : session.across seeds = session.across more := by
    funext ref anchor
    rw [across, across, contains_congr h]
  have hrelated : session.related seeds = session.related more := by
    funext relationship
    rw [related, related, hacross]
  rw [reverse, reverse, hrelated]

/-- So do the objects that refer back. -/
theorem backReferences_congr (h : ∀ id, id ∈ seeds ↔ id ∈ more) :
    session.backReferences seeds = session.backReferences more := by
  rw [backReferences, backReferences, contains_congr h]

/-- The closure of some seeds has the same ids in whatever order the seeds are given. -/
theorem mem_close_congr (h : ∀ id, id ∈ seeds ↔ id ∈ more) (id : String) :
    id ∈ session.close seeds ↔ id ∈ session.close more := by
  have hforward : id ∈ session.forward seeds ↔ id ∈ session.forward more :=
    ⟨fun hid => forward_mono (fun seed => (h seed).mp) hid,
      fun hid => forward_mono (fun seed => (h seed).mpr) hid⟩
  rw [mem_close, mem_close, hforward, reverse_congr h, backReferences_congr h]

end

section
variable {session : Session} {symbols other : List Json}

/-- The seeds depend on the members of the symbols alone. -/
theorem mem_seeds_congr (h : ∀ symbol, symbol ∈ symbols ↔ symbol ∈ other) (id : String) :
    id ∈ session.seeds symbols ↔ id ∈ session.seeds other := by
  rw [mem_seeds, mem_seeds]
  simp only [h]

/-- So does the context. -/
theorem mem_contextIds_congr (h : ∀ symbol, symbol ∈ symbols ↔ symbol ∈ other) (id : String) :
    id ∈ session.contextIds symbols ↔ id ∈ session.contextIds other :=
  mem_close_congr (mem_seeds_congr h) id

/-- The matched symbols are the same, in whatever order. -/
theorem matchedSymbols_perm (h : ∀ symbol, symbol ∈ symbols ↔ symbol ∈ other) :
    (session.matchedSymbols symbols).Perm (session.matchedSymbols other) := by
  refine (List.perm_ext_iff_of_nodup (nodup_distinct _) (nodup_distinct _)).mpr fun symbol => ?_
  rw [mem_distinct, mem_distinct, List.mem_filter, List.mem_filter, h]

/-! ## Assembling the slice -/

/-- The kind of a request depends on which symbols it has. -/
theorem requestKind_congr (h : ∀ symbol, symbol ∈ symbols ↔ symbol ∈ other)
    (hs : ∀ symbol ∈ symbols, symbol.hashable = true) :
    session.requestKind symbols = session.requestKind other := by
  have ho : ∀ symbol ∈ other, symbol.hashable = true := fun symbol hm => hs symbol ((h symbol).mpr hm)
  have hfiles : ∀ symbol, symbol ∈ symbols.filter (·.text?.any session.isFileSymbol) ↔
      symbol ∈ other.filter (·.text?.any session.isFileSymbol) := by
    intro symbol
    rw [List.mem_filter, List.mem_filter, h]
  have hempty : (symbols.filter (·.text?.any session.isFileSymbol)).isEmpty =
      (other.filter (·.text?.any session.isFileSymbol)).isEmpty := by
    rw [Bool.eq_iff_iff, List.isEmpty_iff, List.isEmpty_iff, List.eq_nil_iff_forall_not_mem,
      List.eq_nil_iff_forall_not_mem]
    simp only [hfiles]
  have hall (p : Json → Bool) : symbols.all p = other.all p := by
    rw [Bool.eq_iff_iff, List.all_eq_true, List.all_eq_true]
    simp only [h]
  rw [requestKind, requestKind,
    RequestKind.ofSymbols_eq_ok hs fun symbol hm => hs symbol (List.mem_of_mem_filter hm),
    RequestKind.ofSymbols_eq_ok ho fun symbol hm => ho symbol (List.mem_of_mem_filter hm),
    hempty, hall, Json.among_congr hfiles]

end

section
variable {session : Session} {context again : List String} {matched rematched : List Json}

/-- What is taken from the document for a context depends on which ids and which matched symbols there
are. -/
theorem assemble_congr (hc : ∀ id, id ∈ context ↔ id ∈ again)
    (hm : ∀ symbol, symbol ∈ matched ↔ symbol ∈ rematched) (symbols other : List Json)
    (strategy : String) :
    session.assemble again rematched other strategy =
      { session.assemble context matched symbols strategy with
        symbols := other, matchedSymbols := rematched } := by
  have hids : session.index.sortIds (distinct again) = session.index.sortIds (distinct context) := by
    rw [Index.sortIds_eq_filter (nodup_distinct _), Index.sortIds_eq_filter (nodup_distinct _)]
    simp only [mem_distinct, hc]
  have hendpoint : endpointTouches again rematched = endpointTouches context matched := by
    funext endpoint
    rw [endpointTouches, endpointTouches, contains_congr hc, Json.among_congr hm]
  have hrelationship : session.relationshipTouches again = session.relationshipTouches context := by
    have href : session.refTouches again = session.refTouches context := by
      funext ref
      rw [refTouches, refTouches, contains_congr hc]
    funext relationship
    rw [relationshipTouches, relationshipTouches, href]
  simp only [assemble, hids, hendpoint, hrelationship]

end

/-- Two requests for the same texts, in whatever order and however often each has them, are answered by
slices that differ in the symbols that they repeat and in the order of the matched ones only. -/
theorem context_same_symbols (document : Document) (settings : Settings) (symbols other : List String)
    (h : ∀ s, s ∈ symbols ↔ s ∈ other) :
    let session := ofDocument document settings
    ∃ slice again : Slice Value, session.context (symbols.map .text) = .ok slice ∧
      session.context (other.map .text) = .ok again ∧
      again = { slice with symbols := other.map .text, matchedSymbols := again.matchedSymbols } ∧
      again.matchedSymbols.Perm slice.matchedSymbols := by
  intro session
  have htexts : ∀ value, value ∈ symbols.map Json.text ↔ value ∈ other.map Json.text := by
    intro value
    simp only [List.mem_map, h]
  have hmatched : (session.matchedSymbols (symbols.map .text)).Perm
      (session.matchedSymbols (other.map .text)) := matchedSymbols_perm htexts
  obtain ⟨kind, hk⟩ : ∃ kind, session.requestKind (symbols.map .text) = .ok kind :=
    exists_requestKind_eq_ok Json.hashable_of_mem_texts
  have hagain : session.requestKind (other.map .text) = .ok kind := by
    rw [← hk]
    exact (requestKind_congr htexts Json.hashable_of_mem_texts).symm
  exact ⟨_, _, context_eq_ok hk, context_eq_ok hagain,
    assemble_congr (mem_contextIds_congr htexts) (fun _ => hmatched.mem_iff) _ _ _, hmatched.symm⟩

/-- A request that has one of its two ids twice and in front has the same objects as one that has each
once. -/
theorem context_same_symbols_namesakes :
    (∀ s, s ∈ ["b2", "b1", "b2"] ↔ s ∈ ["b1", "b2"]) ∧
      ∃ slice again : Slice Value,
        (ofDocument namesakes { ambiguityPolicy := .sameFile }).context
          (["b2", "b1", "b2"].map .text) = .ok slice ∧
        (ofDocument namesakes { ambiguityPolicy := .sameFile }).context
          (["b1", "b2"].map .text) = .ok again ∧
        again.nodeIds = slice.nodeIds := by
  have hsame : ∀ s : String, s ∈ ["b2", "b1", "b2"] ↔ s ∈ ["b1", "b2"] := by grind
  obtain ⟨slice, again, hslice, hagain, hrest, -⟩ :=
    context_same_symbols namesakes { ambiguityPolicy := .sameFile } _ _ hsame
  exact ⟨hsame, slice, again, hslice, hagain, by rw [hrest]⟩

end Session

end ContextSlice
