import ContextSlice.Proofs.Index.Registration
import ContextSlice.Session.Resolution

/-!
# What a symbol stands for

A symbol stands for the ids that one of the strategies finds (`Session.mem_resolve`), and only a
text stands for anything. So the name of an object of a document stands for the object's id
(`Session.mem_resolve_of_name`).
-/

namespace ContextSlice

theorem Strategy.mem_all (strategy : Strategy) : strategy ∈ Strategy.all := by
  cases strategy <;> decide

namespace Session

section
variable {session : Session} {symbol id : String}

/-- What is explained is what some strategy finds for a symbol that is not empty. -/
theorem mem_explain {strategy : Strategy} {found : List String} :
    (strategy, found) ∈ session.explain symbol ↔
      symbol ≠ "" ∧ found = session.hits symbol strategy ∧ found ≠ [] := by
  unfold explain
  split
  · rename_i h
    simp [h]
  · rename_i h
    simp only [List.mem_filter, List.mem_map, Prod.mk.injEq, Bool.not_eq_true',
      List.isEmpty_eq_false_iff]
    constructor
    · rintro ⟨⟨_, -, rfl, rfl⟩, hne⟩
      exact ⟨h, rfl, hne⟩
    · rintro ⟨-, rfl, hne⟩
      exact ⟨⟨strategy, strategy.mem_all, rfl, rfl⟩, hne⟩

/-- A symbol that is not empty stands for what the strategies find. -/
theorem mem_resolve :
    id ∈ session.resolve symbol ↔ symbol ≠ "" ∧ ∃ strategy, id ∈ session.hits symbol strategy := by
  rw [resolve, mem_distinct, List.mem_flatMap]
  constructor
  · rintro ⟨⟨strategy, found⟩, hm, hid⟩
    obtain ⟨hs, rfl, -⟩ := mem_explain.mp hm
    exact ⟨hs, strategy, hid⟩
  · rintro ⟨hs, strategy, hid⟩
    exact ⟨(strategy, _), mem_explain.mpr ⟨hs, rfl, List.ne_nil_of_mem hid⟩, hid⟩

end

section
variable {document : Document} {settings : Settings} {visit : Visit} {name id : String}

/-- The name of an object stands for the object's id. -/
theorem mem_resolve_of_name (hv : visit ∈ document.nodes)
    (hn : document.textMember? visit.node ["name"] = some name)
    (hid : (Index.ofDocument document settings).idOf? visit.node = some id) :
    id ∈ (ofDocument document settings).resolve name :=
  mem_resolve.mpr ⟨Document.textMember?_ne_empty hn, .exact,
    Index.mem_idsNamed_of_name document settings hv hn hid⟩

end

end Session

end ContextSlice
