import ContextSlice.Index.Basic
import ContextSlice.Proofs.Assoc

/-!
# Looking up in an index

The ids that an index has are those under which it finds an object (`Index.node?_isSome_iff`), and
they are numbered in their order (`Index.lookup_order`). So sorting some ids by their numbers groups
them by the ids of the index (`Index.sortIds_eq_flatMap`): it keeps those that the index has
(`Index.mem_sortIds`), in the order of its own ids (`Index.sortIds_eq_filter`).
-/

namespace ContextSlice

/-- Grouping the members of a list by keys gives those that are keys. -/
theorem flatMap_filter_eq_perm {α : Type} [DecidableEq α] {keys : List α} (hn : keys.Nodup)
    (xs : List α) : (keys.flatMap fun key => xs.filter (· = key)).Perm (xs.filter (· ∈ keys)) := by
  induction keys with
  | nil => simp
  | cons key keys ih =>
    obtain ⟨hkey, hn⟩ := List.nodup_cons.mp hn
    -- The first group and the others together are split off again by the first key.
    have hfirst : (xs.filter (· ∈ key :: keys)).filter (· = key) = xs.filter (· = key) := by
      rw [List.filter_filter]
      refine List.filter_congr fun x _ => ?_
      by_cases h : x = key <;> simp [h]
    have hrest : (xs.filter (· ∈ key :: keys)).filter (fun x => !decide (x = key)) =
        xs.filter (· ∈ keys) := by
      rw [List.filter_filter]
      refine List.filter_congr fun x _ => ?_
      by_cases h : x = key <;> simp [h, hkey]
    calc (key :: keys).flatMap (fun key => xs.filter (· = key))
        = xs.filter (· = key) ++ keys.flatMap fun key => xs.filter (· = key) := List.flatMap_cons
      _ |>.Perm (xs.filter (· = key) ++ xs.filter (· ∈ keys)) := (ih hn).append_left _
      _ |>.Perm (xs.filter (· ∈ key :: keys)) := by
        rw [← hfirst, ← hrest]
        exact List.filter_append_perm _ _

namespace Index

variable {index : Index} {id : String}

/-- An index has the ids that are its keys. -/
theorem has_iff : index.has id = true ↔ id ∈ index.keys := Assoc.has_eq_true_iff

/-- An object is found under the ids that the index has. -/
theorem node?_isSome_iff : (index.node? id).isSome ↔ index.has id = true := by
  rw [node?, Assoc.lookup_isSome_iff, has_iff, keys]

/-! ## Sorting ids by their numbers -/

/-- The number of an id is its place among the ids of the index. -/
theorem lookup_order {k : Nat} : index.order.lookup id = some k ↔ index.keys[k]? = some id := by
  have hkeys : Assoc.keys index.order = index.keys := by
    rw [index.order_eq, Assoc.keys, List.zipIdx_map_fst, keys]
  rw [Assoc.lookup_eq_some_iff_mem (hkeys ▸ index.nodup_keys), index.order_eq,
    List.mk_mem_zipIdx_iff_getElem?, keys]

/-- The ids that are numbered are those of the index. -/
theorem has_order : Assoc.has index.order id = index.has id := by
  rw [Bool.eq_iff_iff, Assoc.has_eq_true_iff, has_iff, index.order_eq, Assoc.keys,
    List.zipIdx_map_fst, keys]

/-- An id stands at its rank. -/
theorem getElem?_rank (h : index.has id = true) : index.keys[index.rank id]? = some id := by
  obtain ⟨k, hk⟩ := List.getElem?_of_mem (has_iff.mp h)
  rwa [rank, lookup_order.mpr hk, Option.getD_some]

/-- The rank of an id is where it stands. -/
theorem rank_getElem (k : Nat) (hk : k < index.keys.length) : index.rank index.keys[k] = k := by
  rw [rank, lookup_order.mpr (List.getElem?_eq_getElem hk), Option.getD_some]

/-- The ids of an index stand in the order of their numbers. -/
theorem pairwise_rank_keys : index.keys.Pairwise fun a b => index.rank a < index.rank b := by
  rw [List.pairwise_iff_getElem]
  intro i j hi hj hlt
  rwa [rank_getElem, rank_getElem]

/-- Different ids of an index have different numbers. -/
theorem eq_of_rank_eq {a b : String} (ha : index.has a = true) (hb : index.has b = true)
    (h : index.rank a = index.rank b) : a = b := by
  rw [← Option.some_inj, ← getElem?_rank ha, ← getElem?_rank hb, h]

/-- Sorting ids by their numbers groups them by the ids of the index. -/
theorem sortIds_eq_flatMap (ids : List String) :
    index.sortIds ids = index.keys.flatMap fun key => ids.filter (· = key) := by
  have hknown : ids.filter (Assoc.has index.order) = ids.filter (· ∈ index.keys) :=
    List.filter_congr fun id _ => by
      rw [has_order, Bool.eq_iff_iff, has_iff, decide_eq_true_eq]
  have hperm : (index.sortIds ids).Perm (index.keys.flatMap fun key => ids.filter (· = key)) := by
    rw [sortIds, hknown]
    exact (List.mergeSort_perm _ _).trans (flatMap_filter_eq_perm index.nodup_keys ids).symm
  have hsorted : (index.sortIds ids).Pairwise fun a b => index.rank a ≤ index.rank b := by
    refine (List.pairwise_mergeSort ?_ ?_ _).imp of_decide_eq_true
    · intro a b c hab hbc
      exact decide_eq_true ((of_decide_eq_true hab).trans (of_decide_eq_true hbc))
    · intro a b
      rw [Bool.or_eq_true, decide_eq_true_eq, decide_eq_true_eq]
      exact Nat.le_total _ _
  have hgrouped : (index.keys.flatMap fun key => ids.filter (· = key)).Pairwise
      fun a b => index.rank a ≤ index.rank b := by
    refine List.pairwise_flatMap.mpr ⟨fun key _ => List.pairwise_of_forall_mem_list
      fun a ha b hb => ?_, pairwise_rank_keys.imp fun hlt a ha b hb => ?_⟩
    all_goals
      rw [of_decide_eq_true (List.mem_filter.mp ha).2, of_decide_eq_true (List.mem_filter.mp hb).2]
    exact hlt.le
  -- Two lists of the same ids that are sorted by different numbers are the same.
  refine hperm.eq_of_pairwise (fun a b ha hb hab hba => ?_) hsorted hgrouped
  obtain ⟨key, hkey, ha⟩ := List.mem_flatMap.mp (hperm.mem_iff.mp ha)
  obtain ⟨key', hkey', hb⟩ := List.mem_flatMap.mp hb
  obtain rfl : a = key := of_decide_eq_true (List.mem_filter.mp ha).2
  obtain rfl : b = key' := of_decide_eq_true (List.mem_filter.mp hb).2
  exact eq_of_rank_eq (has_iff.mpr hkey) (has_iff.mpr hkey') (hab.antisymm hba)

/-- The ids that remain when some are sorted are those that the index has. -/
theorem mem_sortIds {ids : List String} :
    id ∈ index.sortIds ids ↔ id ∈ ids ∧ index.has id = true := by
  rw [sortIds, List.mem_mergeSort, List.mem_filter, has_order]

/-- Ids without repetition are sorted as the index has them. -/
theorem sortIds_eq_filter {ids : List String} (hn : ids.Nodup) :
    index.sortIds ids = index.keys.filter (· ∈ ids) := by
  rw [sortIds_eq_flatMap]
  induction index.keys with
  | nil => rfl
  | cons key keys ih =>
    rw [List.flatMap_cons, ih, List.filter_eq, hn.count, List.filter_cons]
    by_cases h : key ∈ ids <;> simp [h]

/-- Sorting keeps every known id as often as it is given, and leaves out the others. -/
theorem sortIds_perm_filter (ids : List String) :
    (index.sortIds ids).Perm (ids.filter (· ∈ index.keys)) := by
  rw [sortIds_eq_flatMap]
  exact flatMap_filter_eq_perm index.nodup_keys ids

/-- If the index has all ids, then sorting them keeps them all. -/
theorem sortIds_perm {ids : List String} (hh : ∀ id ∈ ids, index.has id = true) :
    (index.sortIds ids).Perm ids := by
  have hsorted : (index.sortIds ids).Perm _ := sortIds_perm_filter ids
  rwa [List.filter_eq_self.mpr fun id hid => decide_eq_true (has_iff.mp (hh id hid))] at hsorted

end Index

end ContextSlice
