import ContextSlice.Proofs.Document.Parts
import ContextSlice.Proofs.Index.Growth
import ContextSlice.Proofs.Session.Matching
import Mathlib

/-!
# Sessions of documents that grow

If items are put after the modules of a document, as with JSON values (`Document.lengthens_ofJson`), then
nothing is lost of what was answered before (`Session.stable_of_lengthens`): objects keep their ids and
files, and the ids that are listed before stand before those that are new. It is not so if the longer list
is another one and the items lead to the shorter one (`Session.not_forall_idOf?_eq`).
-/

namespace ContextSlice

namespace Session

/-- A symbol stands for what it stood for before a document has grown: the ids are still there, and it
describes the same objects. -/
theorem resolve_subset_of_growsTo {left right : Document} (h : left.GrowsTo right) (settings : Settings)
    (symbol : String) :
    (ofDocument left settings).resolve symbol ⊆ (ofDocument right settings).resolve symbol := by
  intro id hid
  obtain ⟨hne, strategy, hid⟩ := mem_resolve.mp hid
  refine mem_resolve.mpr ⟨hne, ?_⟩
  by_cases hs : strategy = .id
  · subst hs
    obtain ⟨rfl, hhas⟩ := mem_id_hits.mp hid
    refine ⟨.id, mem_id_hits.mpr ⟨rfl, ?_⟩⟩
    rw [Index.has_iff] at hhas ⊢
    exact (Index.prefix_keys h).subset hhas
  · obtain ⟨visit, hv, hvisit, hd⟩ := exists_mem_hits_iff.mp ⟨strategy, hs, hid⟩
    obtain ⟨hids, hsources⟩ := Index.agrees_of_growsTo h hv
    have hdescribes : (ofDocument right settings).Describes symbol visit.node := by
      rcases hd with ⟨name, hn, hd⟩ | ⟨hfile, file, hf, hm⟩
      · have hname : right.textMember? visit.node ["name"] = some name :=
          (Document.textMember?_of_unchanged (h.unchanged visit hv) ["name"]).trans hn
        exact .inl ⟨name, hname, hd⟩
      · exact .inr ⟨hfile, file, hsources ▸ hf, hm⟩
    obtain ⟨strategy, -, hid⟩ := exists_mem_hits_iff.mpr
      ⟨visit, h.nodes.subset hv, hids ▸ hvisit, hdescribes⟩
    exact ⟨strategy, hid⟩

/-- If the list of modules is lengthened, then every object of the document has the same id and file as
before, and the ids of the index, those of every name and those in every file begin with the ones before.
Every symbol stands for all that it stood for. -/
theorem stable_of_lengthens {left right : Document} {list longer : Nat} {items more : List Value}
    (h : left.Lengthens right list longer items more) (settings : Settings) :
    let first := ofDocument left settings
    let second := ofDocument right settings
    (∀ visit ∈ left.nodes, visit ∈ right.nodes ∧
      first.index.idOf? visit.node = second.index.idOf? visit.node ∧
      first.index.sourceOf? visit.node = second.index.sourceOf? visit.node) ∧
    first.index.keys <+: second.index.keys ∧
    (∀ name, first.index.idsNamed name <+: second.index.idsNamed name) ∧
    (∀ file, first.index.idsInFile file <+: second.index.idsInFile file) ∧
    ∀ symbol, first.resolve symbol ⊆ second.resolve symbol := by
  have hgrows := h.growsTo
  exact ⟨fun visit hv => ⟨hgrows.nodes.subset hv, Index.agrees_of_growsTo hgrows hv⟩,
    Index.prefix_keys hgrows, Index.prefix_idsNamed hgrows, Index.prefix_idsInFile hgrows,
    resolve_subset_of_growsTo hgrows settings⟩

/-- Two documents of the same containers, one at 0 and one at 4 with a longer list of modules. The longer
list holds an object of the shorter one twice, and one with the same id, name and file as others have. -/
def shelf (root : Nat) : Document where
  containers := #[.object [("modules", .ref 1)], .sequence [.ref 2, .ref 3],
    .object [("name", .leaf (.text "Load")), ("file", .leaf (.text "a.py")), ("next", .ref 3)],
    .object [("id", .leaf (.text "x")), ("back", .ref 2)],
    .object [("modules", .ref 5)], .sequence [.ref 2, .ref 3, .ref 2, .ref 6],
    .object [("id", .leaf (.text "x")), ("name", .leaf (.text "load")), ("file", .leaf (.text "a.py"))]]
  root := .ref root

theorem lengthens_shelf :
    (shelf 0).Lengthens (shelf 4) 1 5 [.ref 2, .ref 3] [.ref 2, .ref 6] where
  modules := Document.modules?_of_root rfl rfl rfl rfl
  sequence := rfl
  longerModules := Document.modules?_of_root rfl rfl rfl rfl
  longerSequence := rfl
  kept _ _ _ := rfl
  apart := by
    refine .inr fun item hi place hr => ?_
    have hplace : place = 2 ∨ place = 3 := by
      refine hr.inside.invariant (p := fun place => place = 2 ∨ place = 3) ?_ ?_
      · rintro first rfl
        simpa using hi
      · rintro place other hp ⟨container, hc, hm⟩
        rcases hp with rfl | rfl <;> cases hc <;> simp [shelf, Container.values] at hm <;> omega
    omega

theorem nodes_shelf : (shelf 0).nodes =
    [⟨2, none, [.member "modules", .position 0]⟩, ⟨3, some 2, [.member "next"]⟩] := by
  cbv

/-- The id that is taken by an object of the longer list keeps its place, and the name in lower case finds
the object of the shorter list first. -/
theorem stable_of_lengthens_shelf :
    (shelf 0).Lengthens (shelf 4) 1 5 [.ref 2, .ref 3] [.ref 2, .ref 6] ∧
    ["$.modules[0]", "x"] <+: (ofDocument (shelf 4) {}).index.keys ∧
    ["$.modules[0]"] <+: (ofDocument (shelf 4) {}).index.idsNamed "load" := by
  obtain ⟨-, hkeys, hnames, -⟩ := stable_of_lengthens lengthens_shelf {}
  have hbefore : (ofDocument (shelf 0) {}).index.keys = ["$.modules[0]", "x"] ∧
      (ofDocument (shelf 0) {}).index.idsNamed "load" = ["$.modules[0]"] := by
    simp only [ofDocument, Index.ofDocument, nodes_shelf]
    decide
  exact ⟨lengthens_shelf, hbefore.1 ▸ hkeys, hbefore.2 ▸ hnames "load"⟩

/-- Two documents of the same containers, one at 0 and one at 4 with a longer list of modules. The first
object of both lists refers to the shorter one. -/
def selfListed (root : Nat) : Document where
  containers := #[.object [("modules", .ref 1)], .sequence [.ref 2, .ref 3], .object [("self", .ref 1)],
    .object [], .object [("modules", .ref 5)], .sequence [.ref 2, .ref 3, .ref 6], .object []]
  root := .ref root

/-- An object that follows in the shorter list is found in there, inside the first object, if the modules
are those of the longer list. So it has another id. -/
theorem not_forall_idOf?_eq : ¬∀ (containers : Array Container) (root other list longer : Nat)
    (items more : List Value),
    containers[root]? = some (.object [("modules", .ref list)]) →
    containers[list]? = some (.sequence items) →
    containers[other]? = some (.object [("modules", .ref longer)]) →
    containers[longer]? = some (.sequence (items ++ more)) →
    ∀ visit ∈ (Document.mk containers (.ref root)).nodes,
      (Index.ofDocument ⟨containers, .ref root⟩ {}).idOf? visit.node =
        (Index.ofDocument ⟨containers, .ref other⟩ {}).idOf? visit.node := by
  intro h
  have hshort : (selfListed 0).nodes = [⟨2, none, [.member "modules", .position 0]⟩,
      ⟨3, none, [.member "modules", .position 1]⟩] := by cbv
  have hlong : (selfListed 4).nodes = [⟨2, none, [.member "modules", .position 0]⟩,
      ⟨3, some 2, [.member "self", .position 1]⟩, ⟨6, none, [.member "modules", .position 2]⟩] := by cbv
  have hsame : (Index.ofDocument (selfListed 0) {}).idOf? 3 = (Index.ofDocument (selfListed 4) {}).idOf? 3 :=
    h (selfListed 0).containers 0 4 1 5 [.ref 2, .ref 3] [.ref 6] rfl rfl rfl rfl
      ⟨3, none, [.member "modules", .position 1]⟩ (hshort ▸ List.mem_cons_of_mem _ List.mem_cons_self)
  simp only [Index.ofDocument, hshort, hlong] at hsame
  revert hsame
  decide

end Session

end ContextSlice
