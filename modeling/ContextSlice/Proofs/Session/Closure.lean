import ContextSlice.Proofs.Session.Forward
import ContextSlice.Session.Assembly

/-!
# What a closure consists of

An id is in the closure of some seeds if it is in one of its parts (`Session.mem_close`): the forward
part, the ids at the other end of a relationship that touches a seed (`Session.mem_reverse`), or the
objects that refer to a seed (`Session.mem_backReferences`). The seeds of a request are what its
symbols stand for (`Session.mem_seeds`).
-/

namespace ContextSlice

namespace Session

/-- An end of a relationship touches some seeds if it may stand for one of them. -/
def Touches (session : Session) (seeds : List String) (ref : String) : Prop :=
  ∃ id ∈ session.candidates ref, id ∈ seeds

section
variable {session : Session} {seeds : List String} {id : String}

/-- An id of the index stands for itself only. -/
theorem candidates_of_has {ref : String} (h : session.index.has ref = true) :
    session.candidates ref = [ref] := if_pos h

/-- What is no id of the index stands for the objects of this name. -/
theorem candidates_of_not_has {ref : String} (h : session.index.has ref ≠ true) :
    session.candidates ref = session.index.idsNamed ref := if_neg h

/-- An id of the index touches the seeds that have it. -/
theorem touches_of_has {ref : String} (h : session.index.has ref = true) (hs : ref ∈ seeds) :
    session.Touches seeds ref :=
  ⟨ref, candidates_of_has h ▸ List.mem_cons_self, hs⟩

/-- A reference touches some seeds if one of its candidates is among them. -/
theorem touches_iff {ref : String} :
    session.Touches seeds ref ↔ (session.candidates ref).filter seeds.contains ≠ [] := by
  simp [Touches, List.filter_eq_nil_iff]

/-- A relationship adds at one end what the policy picks there, if its other end touches a seed. -/
theorem mem_across {ref anchor : String} :
    id ∈ session.across seeds ref anchor ↔ session.Touches seeds anchor ∧
      id ∈ session.pick ref ((session.candidates anchor).filter seeds.contains) := by
  rw [touches_iff, across]
  split
  · rename_i h
    rw [h]
    exact ⟨fun hid => absurd hid List.not_mem_nil, fun hid => absurd rfl hid.1⟩
  · rename_i h
    exact (and_iff_right h).symm

/-- A relationship adds something only if it has both ends. -/
theorem mem_related {relationship : Relationship} :
    id ∈ session.related seeds relationship ↔ ∃ source target,
      relationship.source = some source ∧ relationship.target = some target ∧
      (id ∈ session.across seeds source target ∨ id ∈ session.across seeds target source) := by
  unfold related
  split
  · rename_i source target hs ht
    rw [List.mem_append]
    constructor
    · exact fun h => ⟨source, target, hs, ht, h⟩
    · rintro ⟨_, _, hs', ht', h⟩
      cases hs.symm.trans hs'
      cases ht.symm.trans ht'
      exact h
  · rename_i h
    constructor
    · exact fun hid => absurd hid List.not_mem_nil
    · rintro ⟨source, target, hs, ht, -⟩
      exact absurd ht (h source target hs)

/-- The reverse part is what relationships add. -/
theorem mem_reverse :
    id ∈ session.reverse seeds ↔
      ∃ relationship ∈ session.relationships, id ∈ session.related seeds relationship := by
  rw [reverse, mem_distinct, List.mem_flatMap]

/-- The objects that refer to a seed are those of the index that are no seeds themselves. -/
theorem mem_backReferences :
    id ∈ session.backReferences seeds ↔ ∃ node, (id, node) ∈ session.index.nodes ∧
      id ∉ seeds ∧ ∃ ref ∈ session.ownReferences node, ref ∈ seeds := by
  simp only [backReferences, List.mem_map, List.mem_filter, Bool.and_eq_true, Bool.not_eq_true',
    List.contains_eq_mem, decide_eq_false_iff_not, List.any_eq_true, decide_eq_true_eq]
  constructor
  · rintro ⟨⟨_, node⟩, ⟨hm, hs, hr⟩, rfl⟩
    exact ⟨node, hm, hs, hr⟩
  · rintro ⟨node, hm, hs, hr⟩
    exact ⟨(id, node), ⟨hm, hs, hr⟩, rfl⟩

/-- A closure has three parts, the last one only if the settings ask for it. -/
theorem mem_close :
    id ∈ session.close seeds ↔ id ∈ session.forward seeds ∨ id ∈ session.reverse seeds ∨
      session.settings.reverseScan = true ∧ id ∈ session.backReferences seeds := by
  rw [close, mem_distinct, List.mem_append, List.mem_append, or_assoc]
  split <;> simp_all

/-- A closure has its seeds. -/
theorem subset_close (seeds : List String) : seeds ⊆ session.close seeds :=
  fun _ hid => mem_close.mpr (.inl (subset_forward seeds hid))

/-- Nothing is the closure of nothing. -/
theorem not_mem_close_nil : id ∉ session.close [] := by
  intro h
  rcases mem_close.mp h with h | h | ⟨-, h⟩
  · have hc : session.ReferenceClosed ∅ := fun _ hid => hid.elim
    exact forward_subset hc (fun _ hs => absurd hs List.not_mem_nil) id h
  · obtain ⟨relationship, -, h⟩ := mem_reverse.mp h
    obtain ⟨source, target, -, -, h | h⟩ := mem_related.mp h
    · obtain ⟨⟨other, -, ho⟩, -⟩ := mem_across.mp h
      cases ho
    · obtain ⟨⟨other, -, ho⟩, -⟩ := mem_across.mp h
      cases ho
  · obtain ⟨node, -, -, ref, -, hr⟩ := mem_backReferences.mp h
    cases hr

/-- Seeds that are closed are their own closure, if relationships add nothing to them and the
objects that refer to them are not asked for. -/
theorem close_subset_of_closed (hc : session.ReferenceClosed {id | id ∈ seeds})
    (hr : session.reverse seeds ⊆ seeds) (hscan : session.settings.reverseScan = false) :
    session.close seeds ⊆ seeds := by
  intro id h
  rcases mem_close.mp h with h | h | ⟨htrue, -⟩
  · exact forward_subset hc (fun _ hs => hs) id h
  · exact hr h
  · cases hscan.symm.trans htrue

/-- If an object refers to nothing but itself, and relationships add nothing to its id, then this is its
own closure. -/
theorem close_singleton_subset {node : Nat} (hn : session.index.node? id = some node)
    (href : ∀ ref ∈ session.references node, session.index.has ref = true → ref = id)
    (hr : session.reverse [id] ⊆ [id]) (hscan : session.settings.reverseScan = false) :
    session.close [id] ⊆ [id] := by
  refine close_subset_of_closed (fun other ho node' hn' ref hmem hi => ?_) hr hscan
  cases List.mem_singleton.mp ho
  cases hn.symm.trans hn'
  exact List.mem_singleton.mpr (href ref hmem hi)

/-- The seeds of a request are what one of its symbols stands for. -/
theorem mem_seeds {symbols : List Json} :
    id ∈ session.seeds symbols ↔ ∃ symbol ∈ symbols, id ∈ session.resolveValue symbol := by
  rw [Session.seeds, mem_distinct, List.mem_flatMap]

end

end Session

end ContextSlice
