/-!
# Ordered tables

A table is a list of pairs in the order in which its keys first came (`Assoc`). Looking up is
`List.lookup`; `put` writes one value per key, leaving a known key at its place, `setDefault` writes
a value for a new key only, and `append` collects all values of a key in the order in which they
came. Their small laws say what they do to the keys and to a later look-up.
-/

namespace ContextSlice

/-- A table as its pairs, in the order in which the keys first came. -/
abbrev Assoc (κ ν : Type) := List (κ × ν)

namespace Assoc

variable {κ ν : Type} [DecidableEq κ]

/-- The keys in order. -/
def keys (table : Assoc κ ν) : List κ := table.map (·.1)

/-- Whether the table has the key. -/
def has (table : Assoc κ ν) (key : κ) : Bool := table.any (·.1 = key)

/-- The table with the key's value set; a new key comes last. -/
def put (key : κ) (value : ν) : Assoc κ ν → Assoc κ ν
  | [] => [(key, value)]
  | (k, v) :: rest => if k = key then (k, value) :: rest else (k, v) :: put key value rest

/-- The table with the key's value set if the key is new; it comes last then. -/
def setDefault (key : κ) (value : ν) (table : Assoc κ ν) : Assoc κ ν :=
  if has table key then table else table ++ [(key, value)]

/-- The table with a value added to the end of what the key has collected. -/
def append (key : κ) (value : ν) : Assoc κ (List ν) → Assoc κ (List ν)
  | [] => [(key, [value])]
  | (k, vs) :: rest =>
    if k = key then (k, vs ++ [value]) :: rest else (k, vs) :: append key value rest

/-- The table without the key. -/
def erase (key : κ) (table : Assoc κ ν) : Assoc κ ν := table.filter (·.1 ≠ key)

/-- The table that results when the pairs are put one after another. -/
def ofPairs (pairs : List (κ × ν)) : Assoc κ ν :=
  pairs.foldl (fun table pair => put pair.1 pair.2 table) []

/-- What the key has collected; nothing if it is unknown. -/
def collected (table : Assoc κ (List ν)) (key : κ) : List ν := (table.lookup key).getD []

/-- A table has an entry under its keys. -/
theorem has_eq_true_iff {table : Assoc κ ν} {key : κ} :
    has table key = true ↔ key ∈ keys table := by
  simp [has, keys]

/-- A known key stays where it is and a new one comes last. -/
theorem keys_put (table : Assoc κ ν) (key : κ) (value : ν) :
    keys (put key value table) = if key ∈ keys table then keys table else keys table ++ [key] := by
  induction table with
  | nil => simp [put, keys]
  | cons pair rest ih =>
    simp only [keys] at ih
    by_cases h : pair.1 = key
    · simp [put, keys, h]
    · simp only [put, if_neg h, keys, List.map_cons, ih, List.mem_cons, Ne.symm h, false_or]
      split <;> simp [*]

/-- Keys without repetition stay so when a value is put under one. -/
theorem nodup_keys_put {table : Assoc κ ν} (h : (keys table).Nodup) (key : κ) (value : ν) :
    (keys (put key value table)).Nodup := by
  rw [keys_put]
  split
  · exact h
  · rename_i hnew
    exact List.nodup_append.mpr ⟨h, List.pairwise_singleton _ _, fun other ho k hk heq =>
      hnew (by rwa [← List.mem_singleton.mp hk, ← heq])⟩

omit [DecidableEq κ] in
/-- A table without entries has no keys to be numbered. -/
theorem nil_eq_zipIdx_keys : ([] : Assoc κ Nat) = (keys ([] : Assoc κ ν)).zipIdx := rfl

/-- If keys are numbered from the first on and a new one is given the next number, then they are
numbered again. -/
theorem setDefault_zipIdx (keys : List κ) (key : κ) :
    setDefault key keys.zipIdx.length keys.zipIdx =
      (if key ∈ keys then keys else keys ++ [key]).zipIdx := by
  have hknown : has keys.zipIdx key = true ↔ key ∈ keys := by
    rw [has_eq_true_iff, Assoc.keys, List.zipIdx_map_fst]
  rw [setDefault]
  split
  · rename_i h
    rw [if_pos (hknown.mp h)]
  · rename_i h
    rw [if_neg (mt hknown.mpr h), List.zipIdx_append, List.length_zipIdx, Nat.zero_add]
    rfl

theorem lookup_put_self (table : Assoc κ ν) (key : κ) (value : ν) :
    (put key value table).lookup key = some value := by
  induction table with
  | nil => simp [put]
  | cons pair rest ih =>
    obtain ⟨k, v⟩ := pair
    by_cases h : k = key
    · simp [put, h]
    · simp [put, h, List.lookup_cons, beq_false_of_ne (Ne.symm h), ih]

/-- The other keys have what they had before. -/
theorem lookup_put_of_ne (table : Assoc κ ν) {key other : κ} (value : ν) (h : other ≠ key) :
    (put key value table).lookup other = table.lookup other := by
  induction table with
  | nil => simp [put, List.lookup_cons, beq_false_of_ne h]
  | cons pair rest ih =>
    obtain ⟨k, v⟩ := pair
    by_cases hk : k = key
    · simp [put, hk, List.lookup_cons, beq_false_of_ne h]
    · simp [put, hk, List.lookup_cons, ih]

end Assoc

end ContextSlice
