import ContextSlice.Proofs.Disk.Growth
import ContextSlice.Proofs.Snapshot.Names

/-!
# Saving snapshots

A snapshot that is saved is a new file with the text of its slice (`Snapshot.write_eq_ok`). Whether it is
saved or not, everything that was on the disk stays as it was (`Snapshot.write_grows`). As the names of
snapshots do not have the null character in them (`Snapshot.null_notMem_name`), a folder whose path is free
of it is never refused for it (`Snapshot.write_fault`).
-/

namespace ContextSlice

namespace Snapshot

section
variable {disk later : Disk} {folder path : FilePath} {clock : Instant} {slice : Slice Json}

/-- The first free path is that of a snapshot with some number. -/
theorem exists_firstFree_eq {stamp : String} {number more : Nat}
    (h : firstFree disk folder stamp number more = .ok path) :
    ∃ n, path = folder.child (name stamp n) := by
  induction more generalizing number with
  | zero =>
    cases h
    exact ⟨number, rfl⟩
  | succ more ih =>
    unfold firstFree at h
    dsimp only at h
    split at h
    · cases h
    · cases h
      exact ⟨number, rfl⟩
    · exact ih h

/-- A search for a free name never fails because of a null character. -/
theorem firstFree_fault {stamp : String} {number more : Nat} {fault : DiskFault}
    (h : firstFree disk folder stamp number more = .error fault) :
    fault.problem ≠ .nullCharacter := by
  induction more generalizing number with
  | zero => cases h
  | succ more ih =>
    unfold firstFree at h
    dsimp only at h
    split at h
    · rename_i hhas
      cases h
      exact Disk.find?_fault hhas
    · cases h
    · exact ih h

/-- A snapshot is written by creating a file with its text at the fresh path. -/
theorem writeInto_eq_ok (h : writeInto disk folder clock slice = .ok (path, later)) :
    freshPath disk folder clock.stamp = .ok path ∧ disk.create path (text slice) = .ok later := by
  obtain ⟨fresh, hfresh, h⟩ := exists_of_bind_eq_ok h
  obtain ⟨made, hcreate, h⟩ := exists_of_bind_eq_ok h
  cases h
  exact ⟨hfresh, hcreate⟩

/-- Neither does writing into a folder whose path is free of it. -/
theorem writeInto_fault {fault : DiskFault} (hf : folder.NullFree)
    (h : writeInto disk folder clock slice = .error fault) : fault.problem ≠ .nullCharacter := by
  rcases of_bind_eq_error h with hfresh | ⟨fresh, hfresh, h⟩
  · exact firstFree_fault hfresh
  · obtain ⟨number, rfl⟩ := exists_firstFree_eq hfresh
    have hpath := hf.child (null_notMem_name clock number)
    rcases of_bind_eq_error h with hcreate | ⟨made, -, h⟩
    · exact Disk.create_fault hpath hcreate
    · cases h

/-- Everything that was on the disk is on it after a snapshot has been written, or could not be
written. -/
theorem write_grows (disk : Disk) (folder : FilePath) (clock : Instant) (slice : Slice Json) :
    disk.Grows (write disk folder clock slice).2 := by
  have hmade := disk.makeFolders_grows folder
  unfold write
  split
  · rename_i hfolders
    rwa [hfolders] at hmade
  · rename_i made hfolders
    rw [hfolders] at hmade
    split
    · rename_i hwrite
      exact hmade.trans (Disk.create_eq_ok (writeInto_eq_ok hwrite).2).2.2
    · exact hmade

/-- A snapshot that is written is a new file, and this has the text of the slice. -/
theorem write_eq_ok (h : write disk folder clock slice = (.ok path, later)) :
    disk.find? path = .ok none ∧ later.find? path = .ok (some (.file (.text (text slice)))) := by
  have hmade := disk.makeFolders_grows folder
  unfold write at h
  split at h
  · cases h
  · rename_i made hfolders
    rw [hfolders] at hmade
    split at h
    · rename_i hwrite
      cases h
      obtain ⟨hnone, hfile, -⟩ := Disk.create_eq_ok (writeInto_eq_ok hwrite).2
      exact ⟨hmade.find?_eq_none hnone, hfile⟩
    · cases h

/-- A snapshot is not refused for the null character if the path of its folder is free of it. -/
theorem write_fault {fault : DiskFault} (hf : folder.NullFree)
    (h : write disk folder clock slice = (.error fault, later)) : fault.problem ≠ .nullCharacter := by
  unfold write at h
  split at h
  · rename_i hfolders
    cases h
    exact Disk.makeFolders_fault hf (by rw [hfolders])
  · split at h
    · cases h
    · rename_i hwrite
      cases h
      exact writeInto_fault hf hwrite

end

end Snapshot

end ContextSlice
