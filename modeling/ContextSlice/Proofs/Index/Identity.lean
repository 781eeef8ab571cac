import ContextSlice.Proofs.Index.Anchors
import Mathlib

/-!
# When two objects have one id

The path of an object leads from where it begins to no other object (`Document.Anchored.leads`). So if
neither an id that is stated nor the name of a member can be taken for a path (`Document.StatesPath`,
`Document.NamesPath`), then two objects have one id only if their paths begin at two objects that state
one id (`Index.anchors_of_idOf?_eq`). If no two objects state one id either, then every object keeps its
own (`Index.keeps_of_injective`), and ids and objects correspond to each other (`Index.bijOn_node?`).
-/

namespace ContextSlice

namespace Document

section
variable (doc : Document)

/-- Some object states an id that can be taken for a path. -/
def StatesPath : Prop :=
  ∃ visit ∈ doc.nodes, ∃ id ∈ doc.statedId? visit.node, id = rootId ∨ ¬ PlainText id

/-- Some member that is followed has a name that can be taken for more than one step. The names of the
members that are skipped are plain. -/
def NamesPath : Prop :=
  ∃ visit ∈ doc.nodes, ∃ member ∈ doc.members visit.node,
    isInternal member.1 = false ∧ ¬ PlainText member.1

/-- Two objects state the same id. -/
def StatesTwice : Prop :=
  ∃ visit ∈ doc.nodes, ∃ other ∈ doc.nodes, visit.node ≠ other.node ∧
    ∃ id ∈ doc.statedId? visit.node, id ∈ doc.statedId? other.node

end

section
variable {doc : Document} {node : Nat} {anchor : Option Nat} {path : List PathPart}

/-- If no name of a member can be taken for more than one step, then all steps are plain. -/
theorem Anchored.plain (hd : doc.DistinctNames) (hn : ¬ doc.NamesPath)
    (h : doc.Anchored node anchor path) : ∀ part ∈ path, part.Plain := by
  have hvisit : ∀ visit ∈ doc.nodes, ∀ part ∈ visit.path, part.Plain := by
    intro visit hv part hp
    have hstep : doc.StepsFrom visit.parent part := (trail_of_mem_nodes hd hv).steps part hp
    generalize ho : visit.parent = around at hstep
    cases hstep with
    | modules => exact (by decide : PlainText modulesField)
    | position => trivial
    | @member outer name value hm hi =>
      obtain ⟨holder, hh, rfl⟩ := exists_mem_nodes_of_parent hv ho
      exact Classical.not_not.mp fun hplain => hn ⟨holder, hh, (name, value), hm, hi, hplain⟩
  induction h with
  | stated => exact fun _ hp => absurd hp List.not_mem_nil
  | top hv => exact hvisit _ hv
  | inner hv _ _ _ ih =>
    intro part hp
    rcases List.mem_append.mp hp with hp | hp
    · exact ih part hp
    · exact hvisit _ hv part hp

/-- If no id that is stated can be taken for a path, then a path begins with a plain text. -/
theorem Anchored.plainText (hs : ¬ doc.StatesPath) (h : doc.Anchored node anchor path) :
    PlainText (doc.anchorId anchor) := by
  cases anchor with
  | none => exact (by decide : PlainText rootId)
  | some holder =>
    obtain ⟨visit, hv, rfl, hid⟩ := h.exists_stated holder rfl
    exact Classical.not_not.mp fun hplain => hs ⟨visit, hv, _, hid, .inr hplain⟩

/-- If no id that is stated can be taken for a path, then none is that of where the document begins. -/
theorem Anchored.anchorId_ne_rootId (hs : ¬ doc.StatesPath) (h : doc.Anchored node anchor path)
    {holder : Nat} (hh : holder ∈ anchor) : doc.anchorId anchor ≠ rootId := by
  intro hroot
  obtain ⟨visit, hv, rfl, hid⟩ := h.exists_stated holder hh
  exact hs ⟨visit, hv, _, hid, .inl hroot⟩

end

end Document

namespace Index

section
variable {doc : Document} {settings : Settings} {node : Nat}

/-- If no id that is stated and no name of a member can be taken for a path, then two objects have
the same id only if their paths begin at two objects that state the same. -/
theorem anchors_of_idOf?_eq (hd : doc.DistinctNames) (hs : ¬ doc.StatesPath) (hn : ¬ doc.NamesPath)
    {visit other : Visit} (hv : visit ∈ doc.nodes) (ho : other ∈ doc.nodes)
    (hne : visit.node ≠ other.node)
    (hid : (ofDocument doc settings).idOf? visit.node = (ofDocument doc settings).idOf? other.node) :
    ∃ first second path id, first ≠ second ∧ doc.Anchored visit.node (some first) path ∧
      doc.Anchored other.node (some second) path ∧
      doc.statedId? first = some id ∧ doc.statedId? second = some id := by
  obtain ⟨first, path, hvisit⟩ := Document.exists_anchored hv
  obtain ⟨second, more, hother⟩ := Document.exists_anchored ho
  rw [idOf?_of_anchored hvisit, idOf?_of_anchored hother, Option.some_inj] at hid
  obtain ⟨hbase, rfl⟩ := renderPath_injective (hvisit.plainText hs) (hother.plainText hs)
    (hvisit.plain hd hn) (hother.plain hd hn) hid
  have hdiffer : first ≠ second := by
    rintro rfl
    have hsame : some (Value.ref visit.node) = some (Value.ref other.node) := by
      rw [← hvisit.leads hd, ← hother.leads hd]
    exact hne (Value.ref.inj (Option.some.inj hsame))
  cases first with
  | none =>
    cases second with
    | none => exact absurd rfl hdiffer
    | some second => exact absurd hbase.symm (hother.anchorId_ne_rootId hs rfl)
  | some first =>
    cases second with
    | none => exact absurd hbase (hvisit.anchorId_ne_rootId hs rfl)
    | some second =>
      obtain ⟨-, -, -, hfirst⟩ := hvisit.exists_stated first rfl
      obtain ⟨-, -, -, hsecond⟩ := hother.exists_stated second rfl
      exact ⟨first, second, path, _, fun h => hdiffer (congrArg some h), hvisit, hother, hfirst,
        hbase ▸ hsecond⟩

/-! ## Ids that are different -/

/-- What is found under an id is an object that has it. -/
theorem idOf?_of_node?_eq_some {id : String} (h : (ofDocument doc settings).node? id = some node) :
    node ∈ doc.nodes.map Visit.node ∧ (ofDocument doc settings).idOf? node = some id := by
  rw [node?_ofDocument] at h
  refine ⟨List.mem_reverse.mp (List.mem_of_find?_eq_some h), ?_⟩
  simpa using List.find?_some h

/-- If all objects have different ids, then every object keeps its own. -/
theorem keeps_of_injective
    (hi : ∀ visit ∈ doc.nodes, ∀ other ∈ doc.nodes, (ofDocument doc settings).idOf? visit.node =
      (ofDocument doc settings).idOf? other.node → visit.node = other.node)
    {visit : Visit} (hv : visit ∈ doc.nodes) : (ofDocument doc settings).Keeps visit.node := by
  obtain ⟨before, after, hn⟩ := List.append_of_mem hv
  refine (keeps_iff doc settings hn).mpr fun later hl hsame => ?_
  have hlater : later ∈ doc.nodes := hn ▸ List.mem_append_right _ (List.mem_cons_of_mem _ hl)
  have hnodup : ((visit :: after).map Visit.node).Nodup := by
    have hall := doc.nodup_nodes
    rw [hn, List.map_append] at hall
    exact (List.nodup_append.mp hall).2.1
  rw [List.map_cons, List.nodup_cons] at hnodup
  exact hnodup.1 (hi later hlater visit hv hsame ▸ List.mem_map_of_mem hl)

/-- If every object keeps its id, then ids and objects correspond to each other. -/
theorem bijOn_node? (hk : ∀ visit ∈ doc.nodes, (ofDocument doc settings).Keeps visit.node) :
    Set.BijOn (ofDocument doc settings).node? {id | (ofDocument doc settings).has id = true}
      {found | ∃ visit ∈ doc.nodes, found = some visit.node} := by
  refine ⟨fun id hid => ?_, fun id hid other ho h => ?_, ?_⟩
  · obtain ⟨node, hnode⟩ := Option.isSome_iff_exists.mp (node?_isSome_iff.mpr hid)
    obtain ⟨visit, hv, rfl⟩ := List.mem_map.mp (idOf?_of_node?_eq_some hnode).1
    exact ⟨visit, hv, hnode⟩
  · obtain ⟨node, hnode⟩ := Option.isSome_iff_exists.mp (node?_isSome_iff.mpr hid)
    have hsame : some id = some other := by
      rw [← (idOf?_of_node?_eq_some hnode).2, ← (idOf?_of_node?_eq_some (h ▸ hnode)).2]
    exact Option.some.inj hsame
  · rintro _ ⟨visit, hv, rfl⟩
    obtain ⟨id, hid, hnode⟩ := Option.bind_eq_some_iff.mp (hk visit hv)
    exact ⟨id, has_ofDocument_iff.mpr ⟨visit, hv, hid⟩, hnode⟩

end

/-- Two objects have one id only if their paths begin at two objects that state one id, or an id that
is stated can be taken for a path, or a name of a member can. Otherwise every object keeps its id, and
ids and objects correspond to each other. -/
theorem shared_id_cases (doc : Document) (settings : Settings) (hd : doc.DistinctNames) :
    let index := ofDocument doc settings
    (∀ visit ∈ doc.nodes, ∀ other ∈ doc.nodes, visit.node ≠ other.node →
        index.idOf? visit.node = index.idOf? other.node →
        (∃ first second path id, first ≠ second ∧ doc.Anchored visit.node (some first) path ∧
          doc.Anchored other.node (some second) path ∧
          doc.statedId? first = some id ∧ doc.statedId? second = some id) ∨
        doc.StatesPath ∨ doc.NamesPath) ∧
      (¬ doc.StatesTwice → ¬ doc.StatesPath → ¬ doc.NamesPath →
        (∀ visit ∈ doc.nodes, index.Keeps visit.node) ∧
          Set.BijOn index.node? {id | index.has id = true}
            {found | ∃ visit ∈ doc.nodes, found = some visit.node}) := by
  intro index
  constructor
  · intro visit hv other ho hne hid
    by_cases hs : doc.StatesPath
    · exact .inr (.inl hs)
    · by_cases hn : doc.NamesPath
      · exact .inr (.inr hn)
      · exact .inl (anchors_of_idOf?_eq hd hs hn hv ho hne hid)
  · intro htwice hs hn
    have hkeeps : ∀ visit ∈ doc.nodes, index.Keeps visit.node := by
      refine fun visit hv => keeps_of_injective (fun visit hv other ho hid => ?_) hv
      by_contra hne
      obtain ⟨first, second, path, id, hdiffer, hvisit, hother, hfirst, hsecond⟩ :=
        anchors_of_idOf?_eq hd hs hn hv ho hne hid
      obtain ⟨stating, hv, rfl, -⟩ := hvisit.exists_stated first rfl
      obtain ⟨also, ho, rfl, -⟩ := hother.exists_stated second rfl
      exact htwice ⟨stating, hv, also, ho, hdiffer, id, hfirst, hsecond⟩
    exact ⟨hkeeps, bijOn_node? hkeeps⟩

/-- Two objects that state ids, each with an object inside that states none. -/
def parents (left right : String) : Document := .ofJson <| .object
  [("modules", .list
    [.object [("id", .text left), ("c", .object [])],
      .object [("id", .text right), ("c", .object [])]])]

theorem nodes_parents (left right : String) : (parents left right).nodes =
    [⟨1, none, [.member "modules", .position 0]⟩, ⟨0, some 1, [.member "c"]⟩,
      ⟨3, none, [.member "modules", .position 1]⟩, ⟨2, some 3, [.member "c"]⟩] := by
  cbv

/-- If the two objects state different ids, then the objects inside keep theirs. -/
theorem keeps_parents :
    (parents "x" "y").DistinctNames ∧ (ofDocument (parents "x" "y") {}).Keeps 0 := by
  have hd : (parents "x" "y").DistinctNames := by decide
  have htwice : ¬ (parents "x" "y").StatesTwice := by
    rw [Document.StatesTwice, nodes_parents]
    decide
  have hstates : ¬ (parents "x" "y").StatesPath := by
    rw [Document.StatesPath, nodes_parents]
    decide
  have hnames : ¬ (parents "x" "y").NamesPath := by
    rw [Document.NamesPath, nodes_parents]
    decide
  have hmem : (⟨0, some 1, [.member "c"]⟩ : Visit) ∈ (parents "x" "y").nodes := by
    rw [nodes_parents]
    decide
  exact ⟨hd, ((shared_id_cases (parents "x" "y") {} hd).2 htwice hstates hnames).1 _ hmem⟩

/-- That two objects have one id does not mean that they state it. -/
theorem not_forall_states_of_idOf?_eq :
    ¬ ∀ (doc : Document) (settings : Settings), doc.DistinctNames →
      ∀ visit ∈ doc.nodes, ∀ other ∈ doc.nodes, visit.node ≠ other.node →
        (ofDocument doc settings).idOf? visit.node = (ofDocument doc settings).idOf? other.node →
        (∃ id ∈ doc.statedId? visit.node, id ∈ doc.statedId? other.node) ∨
          doc.StatesPath ∨ doc.NamesPath := by
  intro h
  have hcases := h (parents "x" "x") {} (by decide) ⟨0, some 1, [.member "c"]⟩
    (by rw [nodes_parents]; decide) ⟨2, some 3, [.member "c"]⟩ (by rw [nodes_parents]; decide)
    (by decide)
  rw [Document.StatesPath, Document.NamesPath, ofDocument, nodes_parents] at hcases
  revert hcases
  decide

end Index

end ContextSlice
