import ContextSlice.Proofs.Document.PathText
import ContextSlice.Proofs.Document.Trail
import ContextSlice.Proofs.Index.Entries

/-!
# Where the id of an object begins

The id of an object is the text of a path (`Index.idOf?_of_anchored`). It begins at the nearest object,
at or around it, that states an id, or else where the document begins (`Document.Anchored`), and it
leads from there to the object (`Document.Anchored.leads`). As no object states the empty id, no id of
the index is empty (`Index.ne_empty_of_has`).
-/

namespace ContextSlice

namespace Document

section
variable (doc : Document)

/-- The nearest object, at or around an object, that states an id, and the path from there to the
object. If there is none, then the path is from where the document begins. -/
inductive Anchored : Nat → Option Nat → List PathPart → Prop
  | stated {visit : Visit} : visit ∈ doc.nodes → (doc.statedId? visit.node).isSome →
      Anchored visit.node (some visit.node) []
  | top {visit : Visit} : visit ∈ doc.nodes → doc.statedId? visit.node = none →
      visit.parent = none → Anchored visit.node none visit.path
  | inner {visit : Visit} {outer : Nat} {anchor : Option Nat} {path : List PathPart} :
      visit ∈ doc.nodes → doc.statedId? visit.node = none → visit.parent = some outer →
      Anchored outer anchor path → Anchored visit.node anchor (path ++ visit.path)

/-- The id at which a path begins. -/
def anchorId (anchor : Option Nat) : String := (anchor.bind doc.statedId?).getD rootId

end

/-- An object that states an id does not state the empty one. -/
theorem statedId?_ne_empty {doc : Document} {node : Nat} {id : String}
    (h : doc.statedId? node = some id) : id ≠ "" := by
  unfold statedId? at h
  split at h
  · split at h
    · cases h
    · rename_i hs
      cases h
      exact hs
  · rename_i n hm
    cases h
    rw [Int.toString_eq_repr]
    cases n with
    | ofNat n => exact Nat.repr_ne_empty
    | negSucc n =>
      rw [Int.repr, ne_eq, String.append_eq_empty_iff]
      exact fun hempty => absurd hempty.1 (by decide)
  · cases h

/-- Neither a stated id nor the one of the root is empty. -/
theorem anchorId_ne_empty (doc : Document) (anchor : Option Nat) : doc.anchorId anchor ≠ "" := by
  unfold anchorId
  cases h : anchor.bind doc.statedId? with
  | none => decide
  | some id =>
    obtain ⟨node, -, hid⟩ := Option.bind_eq_some_iff.mp h
    exact statedId?_ne_empty hid

section
variable {doc : Document} {node : Nat} {anchor : Option Nat} {path : List PathPart}

/-- The object around an object to be indexed is to be indexed itself. -/
theorem exists_mem_nodes_of_parent {visit : Visit} (hv : visit ∈ doc.nodes) {outer : Nat}
    (ho : visit.parent = some outer) : ∃ holder ∈ doc.nodes, holder.node = outer := by
  obtain ⟨before, after, hn⟩ := List.append_of_mem hv
  obtain ⟨holder, hb, hh⟩ := List.mem_map.mp (mem_before_of_parent hn ho)
  exact ⟨holder, hn ▸ List.mem_append_left _ hb, hh⟩

/-- The path to every object to be indexed begins somewhere. -/
theorem exists_anchored {visit : Visit} (hv : visit ∈ doc.nodes) :
    ∃ anchor path, doc.Anchored visit.node anchor path := by
  refine nodes_induction (motive := fun node => ∃ anchor path, doc.Anchored node anchor path)
    (fun visit hv ho => ?_) (fun visit hv outer ho ih => ?_) hv
  · cases hs : doc.statedId? visit.node with
    | some id => exact ⟨_, _, .stated hv (hs ▸ rfl)⟩
    | none => exact ⟨_, _, .top hv hs ho⟩
  · cases hs : doc.statedId? visit.node with
    | some id => exact ⟨_, _, .stated hv (hs ▸ rfl)⟩
    | none =>
      obtain ⟨anchor, path, ha⟩ := ih
      exact ⟨anchor, _, .inner hv hs ho ha⟩

/-- The object at which a path begins states an id. -/
theorem Anchored.exists_stated (h : doc.Anchored node anchor path) :
    ∀ holder ∈ anchor, ∃ visit ∈ doc.nodes, visit.node = holder ∧
      doc.statedId? holder = some (doc.anchorId anchor) := by
  induction h with
  | @stated visit hv hs =>
    intro holder hh
    cases hh
    obtain ⟨id, hid⟩ := Option.isSome_iff_exists.mp hs
    exact ⟨visit, hv, rfl, by rw [anchorId, Option.bind_some, hid, Option.getD_some]⟩
  | top => exact fun _ hh => by cases hh
  | inner _ _ _ _ ih => exact ih

/-- The path leads from where it begins to the object. -/
theorem Anchored.leads (hd : doc.DistinctNames) (h : doc.Anchored node anchor path) :
    doc.follow? (doc.origin anchor) path = some (.ref node) := by
  induction h with
  | stated => rfl
  | top hv _ ho =>
    have htrail := (trail_of_mem_nodes hd hv).leads
    rwa [ho] at htrail
  | inner hv _ ho _ ih =>
    have htrail := (trail_of_mem_nodes hd hv).leads
    rw [ho] at htrail
    rw [follow?_append, ih]
    exact htrail

end

end Document

namespace Index

section
variable {doc : Document} {settings : Settings} {node : Nat}

/-- The id of an object is the text of its path. -/
theorem idOf?_of_anchored {anchor : Option Nat} {path : List PathPart}
    (h : doc.Anchored node anchor path) :
    (ofDocument doc settings).idOf? node = some (renderPath (doc.anchorId anchor) path) := by
  induction h with
  | @stated visit hv hs =>
    obtain ⟨id, hid⟩ := Option.isSome_iff_exists.mp hs
    rw [idOf?_visit hv, hid, Document.anchorId, Option.bind_some, hid]
    simp [renderPath]
  | top hv hs ho =>
    rw [idOf?_visit hv, hs, pathId, ho]
    rfl
  | inner hv hs ho _ ih =>
    rw [idOf?_visit hv, hs, pathId, ho, Option.bind_some, ih, ← renderPath_renderPath]
    rfl

/-- No id of the index is empty. -/
theorem ne_empty_of_has {id : String} (h : (ofDocument doc settings).has id = true) : id ≠ "" := by
  obtain ⟨visit, hv, hid⟩ := has_ofDocument_iff.mp h
  obtain ⟨anchor, path, ha⟩ := Document.exists_anchored hv
  rw [idOf?_of_anchored ha, Option.some_inj] at hid
  subst hid
  rw [renderPath, ne_eq, String.append_eq_empty_iff]
  exact fun hempty => doc.anchorId_ne_empty anchor hempty.1

end

end Index

end ContextSlice
