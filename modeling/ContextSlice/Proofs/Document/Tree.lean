import ContextSlice.Proofs.Document.Stacked
import ContextSlice.Proofs.Document.Trail
import Mathlib.Data.List.Pairwise

/-!
# Documents that are trees

A document is a tree if no place is referred to twice, nor the one that it begins with at all
(`Document.IsTree`), as when it is made from a JSON value (`Document.isTree_ofJson`). Then only one path
leads to a place (`Document.IsTree.path_unique`).
-/

namespace ContextSlice

/-- The place that a value refers to. -/
def Value.place? : Value → Option Nat
  | .leaf _ => none
  | .ref place => some place

/-- The values that a container holds, each with the step that leads to it. -/
def Container.parts : Container → List (PathPart × Value)
  | .object members => members.map fun member => (.member member.1, member.2)
  | .sequence items => items.zipIdx.map fun item => (.position item.2, item.1)

/-- The parts of a container are its values, each with the way to it. -/
theorem Container.map_snd_parts (container : Container) :
    container.parts.map (·.2) = container.values := by
  cases container with
  | object members => simp [parts, values]
  | sequence items =>
    rw [parts, values, List.map_map]
    exact List.zipIdx_map_fst 0 items

namespace Document

/-- The places that some containers refer to. -/
def placesIn (containers : List Container) : List Nat :=
  containers.flatMap fun container => container.values.filterMap Value.place?

/-- The places that several containers refer to are those of each. -/
theorem placesIn_append (containers more : List Container) :
    placesIn (containers ++ more) = placesIn containers ++ placesIn more := List.flatMap_append

/-- No place is referred to twice, and nothing refers to where the document begins. -/
structure IsTree (doc : Document) : Prop where
  nodup : (placesIn doc.containers.toList).Nodup
  root : ∀ place ∈ placesIn doc.containers.toList, doc.root ≠ .ref place

/-! ## Documents of JSON values -/

/-- Some values have been added to the containers as parts of their own: the places that they and the
containers after `table` refer to are all new and different. -/
def AddsFresh (table : Array Container) (values : List Value) (after : Array Container) : Prop :=
  ∃ more : List Container, after.toList = table.toList ++ more ∧
    (placesIn more ++ values.filterMap Value.place?).Nodup ∧
    ∀ place ∈ placesIn more ++ values.filterMap Value.place?, table.size ≤ place ∧ place < after.size

section
variable {table after last : Array Container} {value : Value} {values : List Value}

theorem AddsFresh.nil (table : Array Container) : AddsFresh table [] table :=
  ⟨[], (List.append_nil _).symm, List.nodup_nil, fun _ hp => absurd hp List.not_mem_nil⟩

theorem AddsFresh.leaf (leaf : Json) (table : Array Container) : AddsFresh table [.leaf leaf] table :=
  .nil table

/-- Fresh values leave no fewer containers. -/
theorem AddsFresh.size_le (h : AddsFresh table values after) : table.size ≤ after.size := by
  obtain ⟨more, hmore, -, -⟩ := h
  rw [← Array.length_toList, ← Array.length_toList, hmore, List.length_append]
  exact Nat.le_add_right _ _

/-- Values that are added later refer to later places. -/
theorem AddsFresh.cons (h : AddsFresh table [value] after) (hs : AddsFresh after values last) :
    AddsFresh table (value :: values) last := by
  have hafter := h.size_le
  have hlast := hs.size_le
  obtain ⟨more, hmore, hnodup, hnew⟩ := h
  obtain ⟨rest, hrest, hnodup', hnew'⟩ := hs
  have hperm : (placesIn (more ++ rest) ++ (value :: values).filterMap Value.place?).Perm
      ((placesIn more ++ [value].filterMap Value.place?) ++
        (placesIn rest ++ values.filterMap Value.place?)) := by
    rw [placesIn_append, ← List.singleton_append, List.filterMap_append, List.append_assoc,
      List.append_assoc]
    exact (List.perm_append_comm_assoc _ _ _).append_left _
  refine ⟨more ++ rest, by rw [hrest, hmore, List.append_assoc], ?_, fun place hp => ?_⟩
  · refine hperm.nodup_iff.mpr (List.nodup_append.mpr ⟨hnodup, hnodup', ?_⟩)
    rintro place hp _ hp' rfl
    have hlow := (hnew place hp).2
    have hhigh := (hnew' place hp').1
    omega
  · rcases List.mem_append.mp (hperm.mem_iff.mp hp) with hp | hp
    · have hplace := hnew place hp
      omega
    · have hplace := hnew' place hp
      omega

/-- The place of a container that is added is after those that it refers to. -/
theorem AddsFresh.push (container : Container) (h : AddsFresh table container.values after) :
    AddsFresh table [.ref after.size] (after.push container) := by
  have hafter := h.size_le
  obtain ⟨more, hmore, hnodup, hnew⟩ := h
  have hplaces : placesIn (more ++ [container]) ++ [Value.ref after.size].filterMap Value.place? =
      (placesIn more ++ container.values.filterMap Value.place?) ++ [after.size] := by
    rw [placesIn_append, placesIn, placesIn, List.flatMap_singleton]
    rfl
  refine ⟨more ++ [container], by rw [Array.toList_push, hmore, List.append_assoc], ?_, ?_⟩
  · rw [hplaces]
    refine List.nodup_append.mpr ⟨hnodup, List.nodup_singleton _, ?_⟩
    rintro place hp _ hlast rfl
    cases List.mem_singleton.mp hlast
    exact Nat.lt_irrefl _ (hnew _ hp).2
  · rw [hplaces, Array.size_push]
    intro place hp
    rcases List.mem_append.mp hp with hp | hp
    · have hplace := hnew place hp
      omega
    · cases List.mem_singleton.mp hp
      omega

end

/-- The document of a JSON value is a tree. -/
theorem isTree_ofJson (value : Json) : (ofJson value).IsTree := by
  have hadds : AddsFresh #[] [(ofJson value).root] (ofJson value).containers :=
    addValue_invariant .nil .leaf (fun _ _ _ _ _ => .cons) (fun _ container _ => .push container)
      value #[]
  obtain ⟨more, hmore, hnodup, -⟩ := hadds
  rw [List.nil_append] at hmore
  obtain ⟨hplaces, -, hroot⟩ := List.nodup_append.mp hnodup
  refine ⟨hmore ▸ hplaces, fun place hp hr => hroot place (hmore ▸ hp) place ?_ rfl⟩
  rw [hr]
  exact List.mem_singleton_self place

/-! ## Paths -/

section
variable {doc : Document} {value : Value} {part : PathPart} {path other : List PathPart}
variable {place : Nat}

/-- A step leads from a container to a value that it holds. -/
theorem exists_parts_of_step? {inner : Value} (h : doc.step? value part = some inner) :
    ∃ place container, value = .ref place ∧ doc.containers[place]? = some container ∧
      (part, inner) ∈ container.parts := by
  cases part with
  | member name =>
    obtain ⟨place, hobj, hm⟩ := Option.bind_eq_some_iff.mp h
    obtain ⟨members, hc, hmem⟩ := mem_members_iff.mp (Assoc.mem_of_lookup_eq_some hm)
    exact ⟨place, _, eq_ref_of_object?_eq_some hobj, hc, List.mem_map_of_mem hmem⟩
  | position n =>
    obtain ⟨items, hitems, hi⟩ := Option.bind_eq_some_iff.mp h
    unfold items? at hitems
    split at hitems
    · rename_i found hc
      cases hitems
      cases value with
      | leaf => cases hc
      | ref place =>
        exact ⟨place, _, rfl, hc, List.mem_map_of_mem (List.mk_mem_zipIdx_iff_getElem?.mpr hi)⟩
    · cases hitems
  | other => cases h

/-- In a tree only one container refers to a place, by one step. -/
theorem IsTree.part_unique (h : doc.IsTree) {first second : Nat} {container container' : Container}
    {part' : PathPart} (hc : doc.containers[first]? = some container)
    (hc' : doc.containers[second]? = some container') (hp : (part, .ref place) ∈ container.parts)
    (hp' : (part', .ref place) ∈ container'.parts) : first = second ∧ part = part' := by
  obtain ⟨hwithin, hacross⟩ := List.nodup_flatMap.mp h.nodup
  have hplace {container : Container} {part : PathPart} (hp : (part, .ref place) ∈ container.parts) :
      place ∈ container.values.filterMap Value.place? :=
    List.mem_filterMap.mpr ⟨.ref place, container.map_snd_parts ▸ List.mem_map_of_mem hp, rfl⟩
  -- Of two containers the first one and the second one refer to different places.
  have hearlier {first second : Nat} {container container' : Container} {part part' : PathPart}
      (hc : doc.containers[first]? = some container) (hc' : doc.containers[second]? = some container')
      (hp : (part, .ref place) ∈ container.parts) (hp' : (part', .ref place) ∈ container'.parts) :
      ¬first < second := by
    intro hlt
    obtain ⟨hsize, rfl⟩ := Array.getElem?_eq_some_iff.mp hc
    obtain ⟨hsize', rfl⟩ := Array.getElem?_eq_some_iff.mp hc'
    exact List.pairwise_iff_getElem.mp hacross first second hsize hsize' hlt (hplace hp) (hplace hp')
  obtain rfl : first = second :=
    Nat.le_antisymm (Nat.not_lt.mp (hearlier hc' hc hp' hp)) (Nat.not_lt.mp (hearlier hc hc' hp hp'))
  cases hc.symm.trans hc'
  have hparts : (container.parts.filterMap (·.2.place?)).Nodup := by
    have hvalues := hwithin container (Array.mem_toList_iff.mpr (Array.mem_of_getElem? hc))
    rwa [← container.map_snd_parts, List.filterMap_map] at hvalues
  have hpair := List.pairwise_filterMap.mp hparts
  refine ⟨rfl, ?_⟩
  by_contra hne
  have : Std.Symm fun a b : PathPart × Value =>
      ∀ n, a.2.place? = some n → ∀ m, b.2.place? = some m → n ≠ m :=
    ⟨fun _ _ hab n hn m hm he => hab m hm n hn he.symm⟩
  exact hpair.forall hp hp' (fun he => hne (congrArg Prod.fst he)) place rfl place rfl rfl

/-- In a tree only one path leads to a place. -/
theorem IsTree.path_unique (h : doc.IsTree) (hp : doc.follow? doc.root path = some (.ref place))
    (ho : doc.follow? doc.root other = some (.ref place)) : path = other := by
  -- The last steps are the same, so the induction is on the path that is left without its last step.
  have hlast {path : List PathPart} {part : PathPart} {place : Nat}
      (hp : doc.follow? doc.root (path ++ [part]) = some (.ref place)) :
      ∃ outer container, doc.follow? doc.root path = some (.ref outer) ∧
        doc.containers[outer]? = some container ∧ (part, .ref place) ∈ container.parts := by
    rw [follow?_append] at hp
    obtain ⟨value, hv, hstep⟩ := Option.bind_eq_some_iff.mp hp
    rw [follow?_singleton] at hstep
    obtain ⟨outer, container, rfl, hc, hm⟩ := exists_parts_of_step? hstep
    exact ⟨outer, container, hv, hc, hm⟩
  have hroot {path : List PathPart} {part : PathPart} {place : Nat} (hr : doc.root = .ref place) :
      doc.follow? doc.root (path ++ [part]) ≠ some (.ref place) := by
    intro hp
    obtain ⟨outer, container, -, hc, hm⟩ := hlast hp
    refine h.root place (List.mem_flatMap.mpr ⟨container, ?_, ?_⟩) hr
    · exact Array.mem_toList_iff.mpr (Array.mem_of_getElem? hc)
    · exact List.mem_filterMap.mpr
        ⟨.ref place, container.map_snd_parts ▸ List.mem_map_of_mem hm, rfl⟩
  induction path using List.reverseRecOn generalizing other place with
  | nil =>
    have hr : doc.root = .ref place := Option.some_inj.mp hp
    rcases List.eq_nil_or_concat' other with rfl | ⟨other, part, rfl⟩
    · rfl
    · exact absurd ho (hroot hr)
  | append_singleton path part ih =>
    rcases List.eq_nil_or_concat' other with rfl | ⟨other, part', rfl⟩
    · exact absurd hp (hroot (Option.some_inj.mp ho))
    · obtain ⟨outer, container, hpath, hc, hm⟩ := hlast hp
      obtain ⟨outer', container', hother, hc', hm'⟩ := hlast ho
      obtain ⟨rfl, rfl⟩ := h.part_unique hc hc' hm hm'
      rw [ih hpath hother]

end

end Document

end ContextSlice
