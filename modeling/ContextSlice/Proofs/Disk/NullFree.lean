import ContextSlice.Disk.Basic
import Mathlib.Data.List.Basic

/-!
# Paths without the null character

A disk refuses a path for the null character only if one of its names has it (`Disk.place_ne_null`). So
making folders (`Disk.makeFolders_fault`), creating files (`Disk.create_fault`) and asking what a path
leads to (`Disk.find?_fault`) may fail for other reasons only, if the path has no such name
(`FilePath.NullFree`).
-/

namespace ContextSlice

/-- No name of a path has the null character in it. -/
def FilePath.NullFree (path : FilePath) : Prop := ∀ part ∈ path.parts, '\x00' ∉ part.toList

instance (path : FilePath) : Decidable path.NullFree :=
  inferInstanceAs (Decidable (∀ part ∈ path.parts, '\x00' ∉ part.toList))

/-- The folder of a path without the null character is free of it. -/
theorem FilePath.NullFree.parent {path : FilePath} (h : path.NullFree) : path.parent.NullFree :=
  fun part hp => h part (List.dropLast_subset _ hp)

namespace Disk

section
variable {disk : Disk} {path : FilePath} {fault : DiskFault}

/-- Following parts never fails because of a null character, which is looked for before. -/
theorem locate_ne_null (here : Place) (parts : List String) :
    disk.locate here parts ≠ .error .nullCharacter := by
  induction parts generalizing here with
  | nil => simp [locate]
  | cons part parts ih =>
    unfold locate
    split
    · simp
    · simp
    · split
      · simp
      · exact ih _

/-- Without the null character a path that is not too long is followed. -/
theorem place_of_nullFree (h : path.NullFree) :
    disk.place path = if pathLimit < path.text.utf8ByteSize then .error .tooLong
      else disk.locate (start path) path.parts := by
  have hparts : ¬ path.parts.any (fun part => part.contains '\x00') = true := by
    rw [List.any_eq_true]
    rintro ⟨part, hp, hnull⟩
    rw [String.contains_char_eq] at hnull
    exact h part hp (by simpa using hnull)
  rw [place, if_neg hparts]

/-- A path without the null character is not refused because of one. -/
theorem place_ne_null (h : path.NullFree) : disk.place path ≠ .error .nullCharacter := by
  rw [place_of_nullFree h]
  split
  · simp
  · exact locate_ne_null _ _

/-- A disk that cannot tell what a path leads to does not complain about the null character. -/
theorem find?_fault {α : Type} {f : Option Entry → α} (h : (disk.find? path).map f = .error fault) :
    fault.problem ≠ .nullCharacter := by
  unfold find? at h
  split at h
  · cases h
  · cases h
    simp
  · cases h

/-- Nor is a folder with such a path. -/
theorem makeFolder_fault (hp : path.NullFree) (h : disk.makeFolder path = .error fault) :
    fault.problem ≠ .nullCharacter := by
  unfold makeFolder at h
  split at h
  · rename_i problem hplace
    cases h
    rintro rfl
    exact place_ne_null hp hplace
  · split at h
    · cases h
      simp
    · cases h

theorem ensureFolder_fault (hp : path.NullFree) (h : disk.ensureFolder path = .error fault) :
    fault.problem ≠ .nullCharacter := by
  unfold ensureFolder at h
  split at h
  · cases h
  · rename_i hmake
    exact absurd rfl (makeFolder_fault hp hmake)
  · rename_i hmake
    split at h
    · rename_i hfolder
      cases h
      exact find?_fault hfolder
    · split at h
      · cases h
      · cases h
        exact makeFolder_fault hp hmake

theorem lastStep_fault (hp : path.NullFree) (h : (ensureFolders.lastStep path disk).2 = some fault) :
    fault.problem ≠ .nullCharacter := by
  unfold ensureFolders.lastStep at h
  split at h
  · cases h
  · rename_i hensure
    cases h
    exact ensureFolder_fault hp hensure

theorem ensureFolders_fault (hp : path.NullFree) {depth : Nat}
    (h : (disk.ensureFolders path depth).2 = some fault) : fault.problem ≠ .nullCharacter := by
  induction depth generalizing path with
  | zero => exact lastStep_fault hp h
  | succ depth ih =>
    unfold ensureFolders at h
    split at h
    · split at h
      · exact lastStep_fault hp h
      · exact ih hp.parent h
    · exact lastStep_fault hp h

/-- Making the folders on such a path does not fail because of a null character. -/
theorem makeFolders_fault (hp : path.NullFree) (h : (disk.makeFolders path).2 = some fault) :
    fault.problem ≠ .nullCharacter :=
  ensureFolders_fault hp h

/-- Nor does creating a file at such a path. -/
theorem create_fault (hp : path.NullFree) {s : String} (h : disk.create path s = .error fault) :
    fault.problem ≠ .nullCharacter := by
  unfold create at h
  split at h
  · rename_i problem hplace
    cases h
    rintro rfl
    exact place_ne_null hp hplace
  · rename_i place hplace
    split at h
    · cases h
      simp
    · rw [write, hplace] at h
      dsimp only at h
      split at h
      · cases h
        simp
      · cases h

end

end Disk

end ContextSlice
