import ContextSlice.Proofs.Document.Bookkeeping
import ContextSlice.Proofs.Session.Correspondence
import Mathlib

/-!
# Sessions and bookkeeping

What is answered about a document does not depend on its bookkeeping (`Session.same_of_looksLike`), if the
settings do not look for references, kinds or files in internal members (`Settings.SparesBookkeeping`).
Neither the walk that indexes the document nor the one that looks for references follows such a member,
whatever is in it; and the registries, where an internal member may be a record, hold no bookkeeping.
-/

namespace ContextSlice

/-- Settings spare the bookkeeping if neither references nor kinds nor files are taken from internal
members. -/
def Settings.SparesBookkeeping (settings : Settings) : Prop :=
  ∀ name ∈ settings.dependencyKeys ++ settings.kindFields ++ settings.fileFields,
    isInternal name = false

instance (settings : Settings) : Decidable settings.SparesBookkeeping :=
  inferInstanceAs (Decidable (∀ name ∈ settings.dependencyKeys ++ settings.kindFields ++ settings.fileFields,
    isInternal name = false))

namespace Session

/-- If two documents look alike and the settings spare the bookkeeping, then the indexes have the same ids
in the same order, and the same ids under the same names, kinds and files in the same order. Symbols stand
for the same ids, what is found by following references is found in the same steps, and the closures of
all seeds, the contexts of all requests and the ids of the slices are the same. -/
theorem same_of_looksLike {left right : Document} (h : left.LooksLike right) {settings : Settings}
    (hs : settings.SparesBookkeeping) :
    let first := ofDocument left settings
    let second := ofDocument right settings
    (first.index.keys = second.index.keys ∧
      first.index.idTable first.index.names = second.index.idTable second.index.names ∧
      first.index.idTable first.index.kinds = second.index.idTable second.index.kinds ∧
      first.index.idTable first.index.files = second.index.idTable second.index.files ∧
      ∀ id, first.index.fileOf? id = second.index.fileOf? id) ∧
    (∀ symbol, first.resolve symbol = second.resolve symbol) ∧
    (∀ seeds, first.forwardRun seeds = second.forwardRun seeds ∧
      first.close seeds = second.close seeds) ∧
    ∀ symbols, first.seeds symbols = second.seeds symbols ∧
      first.matchedSymbols symbols = second.matchedSymbols symbols ∧
      first.contextIds symbols = second.contextIds symbols ∧
      (first.context symbols).map (·.nodeIds) = (second.context symbols).map (·.nodeIds) := by
  intro first second
  obtain ⟨twin, hd⟩ := h
  have hseen : ∀ name ∈ settings.dependencyKeys ++ settings.kindFields ++ settings.fileFields,
      ∀ place, ¬left.Bookkeeping place name :=
    fun name hn => Document.not_bookkeeping (hs name hn)
  simp only [List.forall_mem_append] at hseen
  obtain ⟨⟨hkeys, hkinds⟩, hfiles⟩ := hseen
  have halike : first.Alike twin second :=
    hd.alike Document.overlooked_bookkeeping fun visit _ name hn => hfiles name hn visit.node
  have hkindTables : Assoc.Alike (· = ·) (List.Forall₂ twin) first.index.kinds second.index.kinds :=
    Index.alike_kinds_extend (hd.nodes Document.overlooked_bookkeeping) (fun visit _ _ ht =>
      (hd.alikeAt ht).textMember?_eq fun name hn => hkinds name hn visit.node) .nil
  have hown : ∀ entry ∈ first.index.nodes, ∀ other, twin entry.2 other →
      first.ownReferences entry.2 = second.ownReferences other :=
    fun entry _ other ht => hd.ownReferences_eq ht fun key hk => hkeys key hk entry.2
  have href : ∀ entry ∈ first.index.nodes, ∀ other, twin entry.2 other →
      first.references entry.2 = second.references other :=
    fun entry _ other ht => hd.references_eq ht (Document.passesBy_bookkeeping _ _)
      fun inner _ key hk => hkeys key hk inner
  refine ⟨⟨halike.index.keys_eq, halike.index.idTable_eq hd.unique halike.index.names,
    halike.index.idTable_eq hd.unique hkindTables, halike.index.idTable_eq hd.unique halike.index.files,
    halike.index.fileOf?_eq hd.unique⟩, halike.resolve_eq, fun seeds =>
      ⟨halike.forwardRun_eq (halike.referencesOf_eq href) seeds, halike.close_eq hown href seeds⟩,
    fun symbols => ?_⟩
  have hcontext := halike.contextIds_eq hown href symbols
  exact ⟨halike.seeds_eq symbols, halike.matchedSymbols_eq symbols, hcontext, halike.nodeIds_eq hcontext⟩

/-- A document without bookkeeping, but for a record of its dependency graph. -/
def quiet : Document where
  containers := #[.object [("modules", .ref 1), ("dependency_graph", .ref 4)],
    .sequence [.ref 2, .ref 3], .object [("name", .leaf (.text "f")), ("calls", .leaf (.text "b"))],
    .object [("id", .leaf (.text "b"))], .object [("relationships", .ref 5)], .object [("_r", .ref 6)],
    .object [("from", .leaf (.text "b")), ("to", .leaf (.text "f"))]]
  root := .ref 0

/-- The same document with bookkeeping, in which there are an id, a name and references back. -/
def noisy : Document where
  containers := #[.object [("_all", .ref 7), ("modules", .ref 1), ("dependency_graph", .ref 4)],
    .sequence [.ref 2, .ref 3],
    .object [("_id", .leaf (.text "x")), ("name", .leaf (.text "f")), ("_inner", .ref 7),
      ("calls", .leaf (.text "b"))],
    .object [("id", .leaf (.text "b")), ("_calls", .leaf (.text "x"))],
    .object [("relationships", .ref 5)], .object [("_r", .ref 6)],
    .object [("from", .leaf (.text "b")), ("to", .leaf (.text "f"))],
    .object [("id", .leaf (.text "x")), ("name", .leaf (.text "f")), ("back", .ref 0),
      ("calls", .leaf (.text "b"))]]
  root := .ref 0

/-- The dependency graph of `quiet` is made of its last objects. -/
theorem three_lt_of_inGraph {place : Nat} (h : quiet.InGraph place) : 3 < place := by
  obtain ⟨graph, hgraph, hinside⟩ := h
  cases hgraph
  refine (hinside.invariant (p := fun place => 3 < place ∧ place < 7) ?_ ?_).1
  · intro first hf
    cases hf
    decide
  · rintro place other ⟨hlow, hhigh⟩ ⟨container, hc, hm⟩
    have hplace : place = 4 ∨ place = 5 ∨ place = 6 := by omega
    rcases hplace with rfl | rfl | rfl <;> cases hc <;> simp [quiet, Container.values] at hm <;> omega

theorem looksLike_noisy : quiet.LooksLike noisy := by
  refine ⟨fun place other => place = other ∧ place < 7, ?_, .ref ⟨rfl, by decide⟩, ?_, ?_⟩
  · exact ⟨fun _ _ _ h h' => h.1.trans h'.1.symm, fun _ _ _ h h' => h.1.symm.trans h'.1⟩
  · rintro place _ ⟨rfl, hlt⟩
    have href : ∀ place < 7, Value.Alike (fun place other => place = other ∧ place < 7)
        (.ref place) (.ref place) := fun place hlt => .ref ⟨rfl, hlt⟩
    have hhidden : ∀ place < 4, ∀ name ∈ ["_all", "_id", "_inner", "_calls"],
        quiet.Bookkeeping place name := by
      intro place hp name hn
      have hinternal : ∀ name ∈ ["_all", "_id", "_inner", "_calls"], isInternal name = true := by decide
      exact ⟨hinternal name hn, fun hg => Nat.not_lt.mpr (three_lt_of_inGraph hg) hp⟩
    match place, hlt with
    | 0, _ =>
      exact .some ⟨_, hhidden 0 (by decide), .object (.cons ⟨rfl, href 1 (by decide)⟩
        (.cons ⟨rfl, href 4 (by decide)⟩ .nil))⟩
    | 1, _ =>
      exact .some ⟨[], nofun, .sequence (.cons (href 2 (by decide)) (.cons (href 3 (by decide)) .nil))⟩
    | 2, _ =>
      exact .some ⟨_, hhidden 2 (by decide), .object (.cons ⟨rfl, .leaf _⟩ (.cons ⟨rfl, .leaf _⟩ .nil))⟩
    | 3, _ => exact .some ⟨_, hhidden 3 (by decide), .object (.cons ⟨rfl, .leaf _⟩ .nil)⟩
    | 4, _ => exact .some ⟨[], nofun, .object (.cons ⟨rfl, href 5 (by decide)⟩ .nil)⟩
    | 5, _ => exact .some ⟨[], nofun, .object (.cons ⟨rfl, href 6 (by decide)⟩ .nil)⟩
    | 6, _ => exact .some ⟨[], nofun, .object (.cons ⟨rfl, .leaf _⟩ (.cons ⟨rfl, .leaf _⟩ .nil))⟩
  · rintro place name ⟨hinternal, -⟩ hread
    have hplain : ∀ name ∈ Document.readFields, isInternal name = false := by decide
    cases hinternal.symm.trans (hplain name hread)

theorem nodes_quiet : quiet.nodes =
    [⟨2, none, [.member "modules", .position 0]⟩, ⟨3, none, [.member "modules", .position 1]⟩] := by
  cbv

/-- The bookkeeping of `noisy` has no id in the index, and it is in no context. -/
theorem same_of_looksLike_noisy : quiet.LooksLike noisy ∧ Settings.SparesBookkeeping {} ∧
    (ofDocument noisy {}).index.keys = ["$.modules[0]", "b"] ∧
    (ofDocument noisy {}).contextIds [.text "f"] = (ofDocument quiet {}).contextIds [.text "f"] := by
  have hspares : Settings.SparesBookkeeping {} := by decide
  obtain ⟨⟨hkeys, -⟩, -, -, hsymbols⟩ := same_of_looksLike looksLike_noisy hspares
  refine ⟨looksLike_noisy, hspares, hkeys.symm.trans ?_, (hsymbols _).2.2.1.symm⟩
  simp only [ofDocument, Index.ofDocument, nodes_quiet]
  decide

end Session

end ContextSlice
