import ContextSlice.Proofs.Disk.Growth
import ContextSlice.Proofs.Disk.Listing

/-!
# Writing files

A file that is written may have been there before, so a disk does not grow only. But no folder goes, and a
path that led to a place still leads there (`Disk.place_of_folders`); so the text is found where it has been
written (`Disk.find?_of_write`). Where a file cannot be written there is none (`Disk.write_eq_error`), and
where the folders around it cannot be made there is no folder in the end (`Disk.makeFolders_eq_error`). What
a path leads to can always be told if it can be told once and no name in the path is too long
(`Disk.exists_find?_eq_ok`).
-/

namespace ContextSlice

/-- The path of the folder around is no longer, unless it has no name left. -/
theorem FilePath.size_parent (path : FilePath) :
    path.parent.text.utf8ByteSize ≤ max 1 path.text.utf8ByteSize := by
  obtain ⟨slashes, parts⟩ := path
  rcases List.eq_nil_or_concat' parts with rfl | ⟨around, name, rfl⟩
  · exact Nat.le_max_right 1 _
  · have htext : (FilePath.mk slashes (around ++ [name])).text =
        String.ofList (List.replicate slashes '/') ++ "/".intercalate (around ++ [name]) := by
      rw [text, if_neg (by simp)]
    have hparent : (FilePath.mk slashes (around ++ [name])).parent = ⟨slashes, around⟩ := by
      rw [parent, List.dropLast_concat]
    rw [htext, hparent, text]
    dsimp only
    split
    · exact Nat.le_max_left 1 _
    · rw [String.utf8ByteSize_append, String.utf8ByteSize_append]
      by_cases haround : around = []
      · subst haround
        simp
      · rw [String.intercalate_append_of_ne_nil haround (by simp), String.utf8ByteSize_append,
          String.utf8ByteSize_append]
        omega

namespace Disk

section
variable {disk later : Disk} {here place : Place} {path : FilePath} {parts : List String} {s : String}
  {fault : DiskFault}

/-! ## Following paths -/

/-- Names that lead to a place lead there on every disk with the same folders. -/
theorem locate_of_folders
    (hf : ∀ place, disk.entry? place = some .folder → later.entry? place = some .folder)
    (h : disk.locate here parts = .ok place) : later.locate here parts = .ok place := by
  induction parts generalizing here with
  | nil => exact h
  | cons part parts ih =>
    rw [locate] at h ⊢
    split at h
    · cases h
    · cases h
    · rename_i hfolder
      rw [hf here hfolder]
      dsimp only
      split at h
      · cases h
      · rename_i hlimit
        rw [if_neg hlimit]
        exact ih h

/-- A path leads where it led if all folders are still there. -/
theorem place_of_folders
    (hf : ∀ place, disk.entry? place = some .folder → later.entry? place = some .folder)
    (h : disk.place path = .ok place) : later.place path = .ok place := by
  obtain ⟨hnull, hlimit, hlocate⟩ := place_eq_ok h
  rw [Disk.place, if_neg hnull, if_neg (Nat.not_lt.mpr hlimit)]
  exact locate_of_folders hf hlocate

/-- Whether names lead to a place can be told if none of them is too long. -/
theorem locate_ne_tooLong (h : ∀ part ∈ parts, part.utf8ByteSize ≤ nameLimit) :
    disk.locate here parts ≠ .error .tooLong := by
  induction parts generalizing here with
  | nil =>
    rw [locate]
    intro hlong
    cases hlong
  | cons part parts ih =>
    obtain ⟨hpart, hparts⟩ := List.forall_mem_cons.mp h
    rw [locate]
    split
    · intro hlong
      cases hlong
    · intro hlong
      cases hlong
    · rw [if_neg (Nat.not_lt.mpr hpart)]
      exact ih hparts

/-- If it can be told on one disk what a path leads to, then on every disk, unless a name is too long. -/
theorem exists_find?_eq_ok (h : ∀ part ∈ path.parts, part.utf8ByteSize ≤ nameLimit)
    (hk : ∃ found, disk.find? path = .ok found) (later : Disk) : ∃ found, later.find? path = .ok found := by
  have hplace : later.place path ≠ .error .tooLong := by
    intro hlong
    unfold Disk.place at hlong
    split at hlong
    · cases hlong
    · rename_i hnull
      split at hlong
      · rename_i hlimit
        obtain ⟨found, hfound⟩ := hk
        rw [find?, Disk.place, if_neg hnull, if_pos hlimit] at hfound
        cases hfound
      · exact locate_ne_tooLong h hlong
  unfold find?
  split
  · exact ⟨_, rfl⟩
  · rename_i hlong
    exact absurd hlong hplace
  · exact ⟨_, rfl⟩

/-! ## Writing -/

/-- A file that is written is found there with the text. -/
theorem find?_of_write (h : disk.write path s = .ok later) :
    later.find? path = .ok (some (.file (.text s))) := by
  unfold write at h
  split at h
  · cases h
  · rename_i place hplace
    split at h
    · cases h
    · rename_i hfree
      cases h
      have hfolders : ∀ other, disk.entry? other = some .folder →
          Disk.entry? ⟨Assoc.put place (.file (.text s)) disk.entries⟩ other = some .folder := by
        intro other hother
        rwa [found_put_of_ne (by rintro rfl; exact hfree hother)]
      rw [find?_of_place (place_of_folders hfolders hplace), found_put_self hfree]

/-- Where a file cannot be written there is none. -/
theorem write_eq_error (h : disk.write path s = .error fault) (content : Content) :
    disk.find? path ≠ .ok (some (.file content)) := by
  intro hfile
  obtain ⟨place, hplace, hentry⟩ := find?_eq_some hfile
  rw [write, hplace] at h
  dsimp only at h
  rw [hentry] at h
  cases h

/-! ## Folders that cannot be made -/

/-- What is in a folder is in a folder that is there. -/
theorem find?_folder_of_child {folder : FilePath} {name : String} {entry : Entry}
    (hn : FilePath.IsName name) (h : disk.find? (folder.child name) = .ok (some entry)) :
    disk.find? folder = .ok (some .folder) := by
  obtain ⟨place, hplace, -⟩ := find?_eq_some h
  obtain ⟨around, haround, hfolder, -⟩ := place_child hn hplace
  rw [find?_of_place haround, hfolder]

/-- A folder lies in a folder. -/
theorem find?_parent (h : disk.find? path = .ok (some .folder)) :
    disk.find? path.parent = .ok (some .folder) := by
  obtain ⟨place, hplace, hentry⟩ := find?_eq_some h
  rcases List.eq_nil_or_concat' path.parts with hparts | ⟨init, name, hparts⟩
  · rwa [FilePath.parent, hparts, List.dropLast_nil, ← hparts]
  · obtain ⟨hnull, hlimit, hlocate⟩ := place_eq_ok hplace
    rw [hparts] at hnull hlocate
    obtain ⟨around, haround, hfolder, -⟩ := locate_concat hlocate
    have hinit : path.parent.parts = init := by rw [FilePath.parent, hparts, List.dropLast_concat]
    have hnull' : ¬ path.parent.parts.any (fun part => part.contains '\x00') = true := by
      rw [List.any_append, Bool.or_eq_true, not_or] at hnull
      rw [hinit]
      exact hnull.1
    have hlimit' : path.parent.text.utf8ByteSize ≤ pathLimit :=
      path.size_parent.trans (max_le (by decide) hlimit)
    have hplace' : disk.place path.parent = .ok around := by
      rw [Disk.place, if_neg hnull', if_neg (Nat.not_lt.mpr hlimit'), hinit]
      exact haround
    rw [find?_of_place hplace', hfolder]

/-- If folders cannot be made, then there is no folder in the end. -/
theorem ensureFolders_eq_error {depth : Nat} (h : disk.ensureFolders path depth = (later, some fault)) :
    later.find? path ≠ .ok (some .folder) := by
  have hlast {disk : Disk} {path : FilePath}
      (h : ensureFolders.lastStep path disk = (later, some fault)) :
      later.find? path ≠ .ok (some .folder) := by
    intro hfolder
    have hsame : later = disk := by
      unfold ensureFolders.lastStep at h
      split at h
      · cases h
      · cases h
        rfl
    rw [hsame] at hfolder
    rw [lastStep_of_folder hfolder] at h
    cases h
  induction depth generalizing path with
  | zero => exact hlast h
  | succ depth ih =>
    unfold ensureFolders at h
    split at h
    · split at h
      · exact hlast h
      · intro hfolder
        exact ih h (find?_parent hfolder)
    · exact hlast h

/-- If a folder could not be made then there is none afterwards. -/
theorem makeFolders_eq_error (h : disk.makeFolders path = (later, some fault)) :
    later.find? path ≠ .ok (some .folder) := ensureFolders_eq_error h

end

end Disk

end ContextSlice
