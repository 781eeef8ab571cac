import ContextSlice.Assoc
import ContextSlice.Proofs.Distinct
import Mathlib.Data.List.Find
import Mathlib.Data.List.Nodup

/-!
# Laws of ordered tables

What a look-up finds after values have been put into a table or collected in it
(`Assoc.lookup_ofPairs`, `Assoc.collected_append`), and which keys the table then has
(`Assoc.keys_ofPairs`). A table whose keys are all different finds every one of its pairs
(`Assoc.lookup_eq_some_iff_mem`).
-/

namespace ContextSlice

namespace Assoc

variable {κ ν : Type} [DecidableEq κ]

/-- A look-up succeeds for the keys of a table. -/
theorem lookup_isSome_iff {table : Assoc κ ν} {key : κ} :
    (table.lookup key).isSome ↔ key ∈ keys table := by
  rw [Option.isSome_iff_ne_none, ne_eq, List.lookup_eq_none_iff, keys, List.mem_map]
  simp

/-- What a look-up finds is one of the pairs. -/
theorem mem_of_lookup_eq_some {table : Assoc κ ν} {key : κ} {value : ν}
    (h : table.lookup key = some value) : (key, value) ∈ table := by
  obtain ⟨before, after, rfl, -⟩ := List.lookup_eq_some_iff.mp h
  exact List.mem_append_right _ List.mem_cons_self

/-- If all keys are different, then a look-up finds every pair. -/
theorem lookup_eq_some_iff_mem {table : Assoc κ ν} (hn : (keys table).Nodup) {key : κ} {value : ν} :
    table.lookup key = some value ↔ (key, value) ∈ table := by
  refine ⟨mem_of_lookup_eq_some, fun hm => ?_⟩
  obtain ⟨found, hf⟩ := Option.isSome_iff_exists.mp
    (lookup_isSome_iff.mpr (List.mem_map_of_mem (f := Prod.fst) hm))
  have hpair : (key, found) = (key, value) :=
    List.inj_on_of_nodup_map hn (mem_of_lookup_eq_some hf) hm rfl
  rw [hf, (Prod.mk.inj hpair).2]

/-- What is found after a value was put: this value under its key, and under the others what was there. -/
theorem lookup_put (table : Assoc κ ν) (key other : κ) (value : ν) :
    (put key value table).lookup other = if other = key then some value else table.lookup other := by
  split
  · rename_i h
    rw [h, lookup_put_self]
  · rename_i h
    rw [lookup_put_of_ne table value h]

omit [DecidableEq κ] in
theorem keys_append (table more : Assoc κ ν) : keys (table ++ more) = keys table ++ keys more :=
  List.map_append

/-- A pair of a new key comes last. -/
theorem put_of_notMem {table : Assoc κ ν} {key : κ} (h : key ∉ keys table) (value : ν) :
    put key value table = table ++ [(key, value)] := by
  induction table with
  | nil => rfl
  | cons pair rest ih =>
    obtain ⟨k, v⟩ := pair
    rw [keys, List.map_cons, List.mem_cons, not_or] at h
    rw [put, if_neg (Ne.symm h.1), ih h.2, List.cons_append]

/-- All entries but the new one were there before. -/
theorem mem_of_mem_put {table : Assoc κ ν} {key : κ} {value : ν} {pair : κ × ν}
    (h : pair ∈ put key value table) : pair = (key, value) ∨ pair ∈ table := by
  induction table with
  | nil => exact .inl (List.mem_singleton.mp h)
  | cons entry rest ih =>
    obtain ⟨k, v⟩ := entry
    rw [put] at h
    split at h
    · rename_i hkey
      rcases List.mem_cons.mp h with h | h
      · exact .inl (hkey ▸ h)
      · exact .inr (List.mem_cons_of_mem _ h)
    · rcases List.mem_cons.mp h with h | h
      · exact .inr (h ▸ List.mem_cons_self)
      · exact (ih h).imp_right (List.mem_cons_of_mem _)

/-- Putting a value changes no pair of another key. -/
theorem erase_put (table : Assoc κ ν) (key : κ) (value : ν) :
    erase key (put key value table) = erase key table := by
  induction table with
  | nil => simp [put, erase]
  | cons pair rest ih =>
    obtain ⟨k, v⟩ := pair
    by_cases h : k = key
    · simp [put, erase, h]
    · rw [put, if_neg h, erase, List.filter_cons, ← erase, ih, erase, erase, List.filter_cons]

/-- What is found after a key was erased: nothing under it, and under the others what was there. -/
theorem lookup_erase (table : Assoc κ ν) (key other : κ) :
    (erase key table).lookup other = if other = key then none else table.lookup other := by
  induction table with
  | nil => simp [erase]
  | cons pair rest ih =>
    rw [erase] at ih ⊢
    rw [List.filter_cons]
    by_cases hkey : pair.1 = key
    · simp only [hkey, ne_eq, not_true_eq_false, decide_false, Bool.false_eq_true, if_false, ih]
      by_cases hother : other = key
      · simp [hother]
      · rw [List.lookup_cons, hkey, beq_false_of_ne hother]
    · simp only [ne_eq, hkey, not_false_eq_true, decide_true, if_true]
      rw [List.lookup_cons, List.lookup_cons, ih]
      by_cases hother : other = pair.1
      · simp [hother, hkey]
      · simp [beq_false_of_ne hother]

/-- The last pair is put last. -/
theorem ofPairs_concat (pairs : List (κ × ν)) (pair : κ × ν) :
    ofPairs (pairs ++ [pair]) = put pair.1 pair.2 (ofPairs pairs) := by
  rw [ofPairs, List.foldl_concat, ofPairs]

/-- The keys of a table are those of the pairs, in the order in which they first come. -/
theorem keys_ofPairs (pairs : List (κ × ν)) : keys (ofPairs pairs) = distinct (pairs.map (·.1)) := by
  induction pairs using List.reverseRecOn with
  | nil => rfl
  | append_singleton pairs pair ih =>
    rw [ofPairs_concat, keys_put, ih, List.map_append, List.map_singleton, distinct_concat]
    simp only [mem_distinct]

/-- A table that was made of pairs has every key once. -/
theorem nodup_keys_ofPairs (pairs : List (κ × ν)) : (keys (ofPairs pairs)).Nodup := by
  rw [keys_ofPairs]
  exact nodup_distinct _

/-- Pairs with distinct keys are a table already. -/
theorem ofPairs_of_nodup {pairs : List (κ × ν)} (h : (keys pairs).Nodup) : ofPairs pairs = pairs := by
  induction pairs using List.reverseRecOn with
  | nil => rfl
  | append_singleton pairs pair ih =>
    rw [keys_append, List.nodup_append] at h
    obtain ⟨hpairs, -, hpair⟩ := h
    have hnew : pair.1 ∉ keys pairs := fun hmem => hpair _ hmem _ (List.mem_singleton_self _) rfl
    rw [ofPairs_concat, ih hpairs, put_of_notMem hnew]

/-- Of several pairs with one key it is the last that remains. -/
theorem lookup_ofPairs (pairs : List (κ × ν)) (key : κ) :
    (ofPairs pairs).lookup key = (pairs.reverse.find? fun pair => pair.1 = key).map (·.2) := by
  induction pairs using List.reverseRecOn with
  | nil => rfl
  | append_singleton pairs pair ih =>
    rw [ofPairs_concat, lookup_put, ih, List.reverse_concat, List.find?_cons]
    by_cases h : pair.1 = key
    · simp [h]
    · simp [h, Ne.symm h]

/-- What remains of some pairs is among them. -/
theorem mem_of_mem_ofPairs {pairs : List (κ × ν)} {pair : κ × ν} (h : pair ∈ ofPairs pairs) :
    pair ∈ pairs := by
  have hlookup : (ofPairs pairs).lookup pair.1 = some pair.2 :=
    (lookup_eq_some_iff_mem (nodup_keys_ofPairs pairs)).mpr h
  rw [lookup_ofPairs, Option.map_eq_some_iff] at hlookup
  obtain ⟨found, hf, hvalue⟩ := hlookup
  have hkey : found.1 = pair.1 := by simpa using List.find?_some hf
  have hfound : found = pair := Prod.ext hkey hvalue
  exact hfound ▸ List.mem_reverse.mp (List.mem_of_find?_eq_some hf)

/-- What is collected under a key is what the first entry with it has. -/
theorem collected_cons (table : Assoc κ (List ν)) (key other : κ) (values : List ν) :
    collected ((key, values) :: table) other =
      if other = key then values else collected table other := by
  by_cases h : other = key
  · simp [collected, h]
  · simp [collected, List.lookup_cons, beq_false_of_ne h, h]

/-- What has collected something is a key. -/
theorem mem_keys_of_mem_collected {table : Assoc κ (List ν)} {key : κ} {value : ν}
    (h : value ∈ collected table key) : key ∈ keys table := by
  rw [← lookup_isSome_iff, Option.isSome_iff_ne_none]
  intro hnone
  rw [collected, hnone] at h
  cases h

/-- A value is added to what its key has collected, and to nothing else. -/
theorem collected_append (table : Assoc κ (List ν)) (key other : κ) (value : ν) :
    collected (append key value table) other =
      collected table other ++ if other = key then [value] else [] := by
  induction table with
  | nil => exact collected_cons [] key other [value]
  | cons pair rest ih =>
    obtain ⟨k, values⟩ := pair
    by_cases hk : k = key
    · subst hk
      rw [append, if_pos rfl, collected_cons, collected_cons]
      split <;> simp
    · rw [append, if_neg hk, collected_cons, collected_cons, ih]
      split
      · rename_i h
        rw [if_neg fun ho => hk (h.symm.trans ho), List.append_nil]
      · rfl

end Assoc

end ContextSlice
