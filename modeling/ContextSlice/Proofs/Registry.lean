import ContextSlice.Document.OfJson
import ContextSlice.Proofs.Assoc
import ContextSlice.Registry
import Mathlib

/-!
# Registries that are lists

In a list of records those that state an id are kept under it, and the others under their position. If
the ids that are stated are all different, then two records are kept under one key only if the one states
as its id the position of the other one, which states none (`Document.clashes`). The first one of the two is
then lost, so the table has as many records less than the list as there are such positions
(`Document.length_table_add_clashes`).
-/

namespace ContextSlice

namespace Document

variable (doc : Document)

/-- The id that a record states among the items of a list. -/
def itemId? (item : Value) : Option String := (doc.object? item).bind (doc.referenceMember? · "id")

/-- The ids that the records of a list state. -/
def statedIds (items : List Value) : List String := items.filterMap doc.itemId?

/-- The positions of the records of a list that state no id. -/
def unstatedPositions (items : List Value) : List Nat :=
  (items.zipIdx.filter fun (item, _) => (doc.object? item).isSome && (doc.itemId? item).isNone).map (·.2)

/-- The positions of records that state no id, which other records state as theirs. -/
def clashes (items : List Value) : List Nat :=
  (doc.unstatedPositions items).filter fun position => toString position ∈ doc.statedIds items

variable {doc} {items : List Value}

/-- The records of a list are the objects among its items, in their order. -/
theorem map_snd_listedRecords : (doc.listedRecords items).map (·.2) = items.filterMap doc.object? := by
  rw [listedRecords, List.map_filterMap]
  conv_rhs => rw [← List.zipIdx_map_fst 0 items, List.filterMap_map]
  refine List.filterMap_congr fun (item, position) _ => ?_
  cases h : doc.object? item <;> simp [h]

/-- No two items have the same position. -/
theorem nodup_unstatedPositions : (doc.unstatedPositions items).Nodup := by
  have hall : (items.zipIdx.map (·.2)).Nodup := by
    rw [List.zipIdx_map_snd]
    exact List.nodup_range'
  exact (List.filter_sublist.map _).nodup hall

/-- The keys of the records are the ids that are stated, and the positions of the others. -/
theorem keys_listedRecords_perm :
    (Assoc.keys (doc.listedRecords items)).Perm
      (doc.statedIds items ++ (doc.unstatedPositions items).map toString) := by
  have hstated : doc.statedIds items = items.zipIdx.filterMap fun pair => doc.itemId? pair.1 := by
    conv_lhs => rw [statedIds, ← List.zipIdx_map_fst 0 items, List.filterMap_map]
    rfl
  rw [hstated, unstatedPositions, listedRecords]
  induction items.zipIdx with
  | nil => exact .refl _
  | cons pair pairs ih =>
    obtain ⟨item, position⟩ := pair
    cases hobject : doc.object? item with
    | none => simpa [itemId?, hobject] using ih
    | some record =>
      cases hid : doc.referenceMember? record "id" with
      | some id => simpa [itemId?, hobject, hid, Assoc.keys] using ih
      | none =>
        simp only [itemId?, hobject, hid, Assoc.keys, List.filterMap_cons, Option.map_some,
          Option.bind_some, Option.getD_none, List.map_cons, List.filter_cons, Option.isSome_some,
          Option.isNone_none, Bool.and_self, if_true] at ih ⊢
        exact (ih.cons _).trans List.perm_middle.symm

/-- A registry that is a list is made of its records one after another. -/
theorem table_of_items? {value : Value} (hi : doc.items? value = some items) :
    doc.table value = Assoc.ofPairs (doc.listedRecords items) := by
  unfold items? at hi
  unfold table
  split at hi
  · rename_i found hc
    cases hi
    rw [hc]
  · cases hi

/-- If the ids that are stated are all different, then the keys are these and the positions that do not
clash with them. -/
theorem distinct_keys_perm (hn : (doc.statedIds items).Nodup) :
    (distinct (Assoc.keys (doc.listedRecords items))).Perm (doc.statedIds items ++
      ((doc.unstatedPositions items).filter (toString · ∉ doc.statedIds items)).map toString) := by
  have hpositions : (((doc.unstatedPositions items).filter
      (toString · ∉ doc.statedIds items)).map toString).Nodup :=
    (nodup_unstatedPositions.filter _).map fun _ _ h => Nat.repr_injective h
  refine (List.perm_ext_iff_of_nodup (nodup_distinct _)
    (List.nodup_append.mpr ⟨hn, hpositions, fun id hid text ht heq => ?_⟩)).mpr fun key => ?_
  · obtain ⟨position, hp, rfl⟩ := List.mem_map.mp ht
    simp only [List.mem_filter, decide_eq_true_eq] at hp
    exact hp.2 (heq ▸ hid)
  · rw [mem_distinct, keys_listedRecords_perm.mem_iff, List.mem_append, List.mem_append]
    simp only [List.mem_map, List.mem_filter, decide_eq_true_eq]
    by_cases h : key ∈ doc.statedIds items
    · simp only [h, true_or]
    · simp only [h, false_or]
      refine exists_congr fun position => ⟨?_, fun ⟨⟨hp, _⟩, heq⟩ => ⟨hp, heq⟩⟩
      rintro ⟨hp, rfl⟩
      exact ⟨⟨hp, h⟩, rfl⟩

/-- The table has as many records less than the list as there are clashes. -/
theorem length_ofPairs_add_clashes (hn : (doc.statedIds items).Nodup) :
    (Assoc.ofPairs (doc.listedRecords items)).length + (doc.clashes items).length =
      (items.filterMap doc.object?).length := by
  have htable : (Assoc.ofPairs (doc.listedRecords items)).length =
      (doc.statedIds items).length +
        ((doc.unstatedPositions items).filter (toString · ∉ doc.statedIds items)).length := by
    rw [← List.length_map (f := Prod.fst), ← Assoc.keys, Assoc.keys_ofPairs, ← Assoc.keys,
      (distinct_keys_perm hn).length_eq, List.length_append, List.length_map]
  have hpositions : (doc.unstatedPositions items).length = (doc.clashes items).length +
      ((doc.unstatedPositions items).filter (toString · ∉ doc.statedIds items)).length := by
    simpa [clashes] using List.length_eq_length_filter_add (l := doc.unstatedPositions items)
      fun position => decide (toString position ∈ doc.statedIds items)
  have hrecords : (items.filterMap doc.object?).length =
      (doc.statedIds items).length + (doc.unstatedPositions items).length := by
    rw [← map_snd_listedRecords, List.length_map, ← List.length_map (f := Prod.fst), ← Assoc.keys,
      keys_listedRecords_perm.length_eq, List.length_append, List.length_map]
  omega

/-- Of a list of records whose stated ids are all different, the table has one record for each, in the order
of the list, if no record that states no id has a position that another one states as its id. Otherwise
as many records are missing as there are such positions: of two records with one key it has the last one, at
the place of the first one. So many relationships, and so many endpoints, are missing from a registry that is
such a list. -/
theorem length_table_add_clashes {value : Value} (hi : doc.items? value = some items)
    (hn : (doc.statedIds items).Nodup) :
    (doc.table value).length + (doc.clashes items).length = (items.filterMap doc.object?).length ∧
      (doc.clashes items = [] ↔ (doc.table value).map (·.2) = items.filterMap doc.object?) ∧
      Assoc.keys (doc.table value) = distinct (Assoc.keys (doc.listedRecords items)) ∧
      (∀ key, (doc.table value).lookup key =
        ((doc.listedRecords items).reverse.find? (·.1 = key)).map (·.2)) ∧
      (doc.registry relationshipsField = value →
        doc.relationships.length + (doc.clashes items).length = (items.filterMap doc.object?).length) ∧
      (doc.registry endpointsField = value →
        doc.endpoints.length + (doc.clashes items).length = (items.filterMap doc.object?).length) := by
  have hlength := length_ofPairs_add_clashes hn
  rw [← table_of_items? hi] at hlength
  refine ⟨hlength, ⟨fun hnone => ?_, fun hall => ?_⟩, ?_, fun key => ?_, fun hr => ?_, fun hr => ?_⟩
  · have hall : (doc.unstatedPositions items).filter (toString · ∉ doc.statedIds items) =
        doc.unstatedPositions items :=
      List.filter_eq_self.mpr fun position hp => by
        simpa using List.filter_eq_nil_iff.mp hnone position hp
    have hkeys : (Assoc.keys (doc.listedRecords items)).Nodup :=
      (keys_listedRecords_perm.trans (hall ▸ distinct_keys_perm hn).symm).nodup_iff.mpr
        (nodup_distinct _)
    rw [table_of_items? hi, Assoc.ofPairs_of_nodup hkeys, map_snd_listedRecords]
  · rw [← hall, List.length_map] at hlength
    exact List.eq_nil_of_length_eq_zero (by omega)
  · rw [table_of_items? hi, Assoc.keys_ofPairs, Assoc.keys]
  · rw [table_of_items? hi, Assoc.lookup_ofPairs]
  · rw [relationships, List.length_map, hr, hlength]
  · rw [endpoints, List.length_map, hr, hlength]

/-- A list of two relationships: the first one states an id, and the second one states none. -/
def twoCalls (id : Json) : Document := .ofJson <| .object
  [("dependency_graph", .object [("relationships", .list
    [.object [("id", id), ("from", .text "a"), ("to", .text "b")],
      .object [("from", .text "c"), ("to", .text "d")]])])]

/-- If the first one states its own position as its id, then both are kept. -/
theorem length_relationships_twoCalls :
    (twoCalls (.int 0)).items? (.ref 2) = some [.ref 0, .ref 1] ∧
      ((twoCalls (.int 0)).statedIds [.ref 0, .ref 1]).Nodup ∧
      ((twoCalls (.int 0)).table (.ref 2)).map (·.2) = [0, 1] ∧
      (twoCalls (.int 0)).relationships.length = 2 := by
  have hi : (twoCalls (.int 0)).items? (.ref 2) = some [.ref 0, .ref 1] := by decide +kernel
  have hn : ((twoCalls (.int 0)).statedIds [.ref 0, .ref 1]).Nodup := by decide +kernel
  have hnone : (twoCalls (.int 0)).clashes [.ref 0, .ref 1] = [] := by decide +kernel
  have hrecords : [Value.ref 0, .ref 1].filterMap (twoCalls (.int 0)).object? = [0, 1] := by
    decide +kernel
  obtain ⟨-, hall, -, -, hlength, -⟩ := length_table_add_clashes hi hn
  rw [hnone, hrecords] at hall hlength
  exact ⟨hi, hn, hall.mp rfl, hlength (by decide +kernel)⟩

/-- That the ids that are stated are all different is not enough for all records to be kept: the first one
may state the position of the second one. -/
theorem not_forall_length_table :
    ¬ ∀ (doc : Document) (value : Value) (items : List Value), doc.items? value = some items →
      (doc.statedIds items).Nodup → (doc.table value).length = (items.filterMap doc.object?).length := by
  intro h
  have hlength := h (twoCalls (.text "1")) (.ref 2) [.ref 0, .ref 1] (by decide +kernel)
    (by decide +kernel)
  revert hlength
  decide +kernel

end Document

end ContextSlice
