import ContextSlice.Proofs.Assoc
import ContextSlice.Proofs.Snapshot.Names
import Mathlib.Data.List.Nodup

/-!
# The search for a free name

The search for the path of a new snapshot goes on for as long as the path with the next number is taken
(`Snapshot.Search`). It ends on every disk: every number whose path is taken has an entry of its own
(`Snapshot.length_le_of_taken`), and there are finitely many. So the bound on the numbers that are tried is
never reached, and the path that is taken is the one that the search finds (`Snapshot.search_freshPath`).
-/

namespace ContextSlice.Snapshot

/-- The search for a free path in a folder from a number on, without a bound. It ends with the first path
at which there is nothing, or with the first one of which this cannot be told. -/
inductive Search (disk : Disk) (folder : FilePath) (stamp : String) :
    Nat → Except DiskFault FilePath → Prop
  | free {number : Nat} (h : disk.has (folder.child (name stamp number)) = .ok false) :
      Search disk folder stamp number (.ok (folder.child (name stamp number)))
  | refused {number : Nat} {fault : DiskFault}
      (h : disk.has (folder.child (name stamp number)) = .error fault) :
      Search disk folder stamp number (.error fault)
  | taken {number : Nat} {result : Except DiskFault FilePath}
      (h : disk.has (folder.child (name stamp number)) = .ok true)
      (next : Search disk folder stamp (number + 1) result) :
      Search disk folder stamp number result

section
variable {disk : Disk} {folder path : FilePath} {stamp : String} {number : Nat}

/-- A path that is found is the first one of the folder at which there is nothing. -/
theorem Search.exists_of_ok (h : Search disk folder stamp number (.ok path)) :
    ∃ n, number ≤ n ∧ path = folder.child (name stamp n) ∧ disk.has path = .ok false ∧
      ∀ k, number ≤ k → k < n → disk.has (folder.child (name stamp k)) = .ok true := by
  generalize hresult : (.ok path : Except DiskFault FilePath) = result at h
  induction h with
  | free hfree =>
    cases hresult
    exact ⟨_, Nat.le_refl _, rfl, hfree, fun k hle hlt => absurd hlt (Nat.not_lt.mpr hle)⟩
  | refused => cases hresult
  | @taken number result htaken _ ih =>
    obtain ⟨n, hle, hpath, hfree, hbefore⟩ := ih hresult
    refine ⟨n, Nat.le_of_succ_le hle, hpath, hfree, fun k hk hlt => ?_⟩
    rcases Nat.eq_or_lt_of_le hk with rfl | hk
    · exact htaken
    · exact hbefore k hk hlt

/-- The search has one end only. -/
theorem Search.unique {result other : Except DiskFault FilePath} (h : Search disk folder stamp number result)
    (h' : Search disk folder stamp number other) : result = other := by
  induction h with
  | free hfree => cases h' <;> simp_all
  | refused hrefused => cases h' <;> simp_all
  | taken htaken _ ih =>
    cases h' with
    | free hfree => cases htaken.symm.trans hfree
    | refused hrefused => cases htaken.symm.trans hrefused
    | taken _ next => exact ih next

/-- The bounded search is the search, if one of the paths within the bound is not taken. -/
theorem search_firstFree {more : Nat}
    (h : ∃ k < more, disk.has (folder.child (name stamp (number + k))) ≠ .ok true) :
    Search disk folder stamp number (firstFree disk folder stamp number more) := by
  induction more generalizing number with
  | zero =>
    obtain ⟨k, hk, -⟩ := h
    exact absurd hk (Nat.not_lt_zero k)
  | succ more ih =>
    unfold firstFree
    dsimp only
    split
    · rename_i hrefused
      exact .refused hrefused
    · rename_i hfree
      exact .free hfree
    · rename_i htaken
      refine .taken htaken (ih ?_)
      obtain ⟨k, hk, hnot⟩ := h
      cases k with
      | zero => exact absurd htaken hnot
      | succ k =>
        exact ⟨k, Nat.lt_of_succ_lt_succ hk, by rwa [Nat.add_right_comm, Nat.add_assoc]⟩

end

section
variable {disk : Disk} {folder path : FilePath} {clock : Instant}

/-- A name that is taken leads to something on the disk. -/
theorem find?_of_taken (h : disk.has path = .ok true) : ∃ entry, disk.find? path = .ok (some entry) := by
  obtain ⟨found, hfind, hsome⟩ := exists_of_map_eq_ok h
  obtain ⟨entry, rfl⟩ := Option.isSome_iff_exists.mp hsome
  exact ⟨entry, hfind⟩

/-- A path that is taken leads to an entry in the folder. -/
theorem mem_keys_of_taken {here : Place} (hhere : disk.place folder = .ok here) {number : Nat}
    (h : disk.has (folder.child (name clock.stamp number)) = .ok true) :
    here ++ [name clock.stamp number] ∈ Assoc.keys disk.entries := by
  have hname := name_isName clock number
  obtain ⟨entry, hfind⟩ := find?_of_taken h
  obtain ⟨place, hplace, hentry⟩ := Disk.find?_eq_some hfind
  obtain ⟨around, haround, -, rfl⟩ := Disk.place_child hname hplace
  cases hhere.symm.trans haround
  exact Disk.mem_keys_of_entry? hname hentry

/-- There are no more numbers whose paths are taken than there are folders and files. -/
theorem length_le_of_taken {more : Nat}
    (h : ∀ k < more, disk.has (folder.child (name clock.stamp k)) = .ok true) :
    more ≤ disk.entries.length := by
  cases more with
  | zero => exact Nat.zero_le _
  | succ more =>
    obtain ⟨here, hhere⟩ : ∃ here, disk.place folder = .ok here := by
      obtain ⟨entry, hfind⟩ := find?_of_taken (h 0 (Nat.succ_pos more))
      obtain ⟨place, hplace, -⟩ := Disk.find?_eq_some hfind
      obtain ⟨here, hhere, -⟩ := Disk.place_child (name_isName clock 0) hplace
      exact ⟨here, hhere⟩
    have hnodup : ((List.range (more + 1)).map fun k => here ++ [name clock.stamp k]).Nodup :=
      List.nodup_range.map fun k l hkl => name_injective clock.stamp (by simpa using hkl)
    have hsubset : ((List.range (more + 1)).map fun k => here ++ [name clock.stamp k]) ⊆
        Assoc.keys disk.entries := by
      intro place hplace
      obtain ⟨k, hk, rfl⟩ := List.mem_map.mp hplace
      exact mem_keys_of_taken hhere (h k (List.mem_range.mp hk))
    simpa [Assoc.keys] using hnodup.length_le_of_subset hsubset

/-- The path of a new snapshot is what the search for it finds. -/
theorem search_freshPath (disk : Disk) (folder : FilePath) (clock : Instant) :
    Search disk folder clock.stamp 0 (freshPath disk folder clock.stamp) := by
  refine search_firstFree ?_
  by_contra hnone
  have htaken : ∀ k < disk.entries.length + 1,
      disk.has (folder.child (name clock.stamp k)) = .ok true := by
    intro k hk
    by_contra hnot
    exact hnone ⟨k, hk, by rwa [Nat.zero_add]⟩
  exact Nat.not_succ_le_self _ (length_le_of_taken htaken)

end

end ContextSlice.Snapshot
