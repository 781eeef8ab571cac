import ContextSlice.Disk.Basic
import Mathlib.Logic.Basic

/-!
# Growing disks

A disk grows when folders and files are added to it and everything that was there stays as it was
(`Disk.Grows`). Making folders and creating files only lets a disk grow (`Disk.makeFolders_grows`,
`Disk.create_eq_ok`); whatever else is said of making folders is said of making one and carried through
all of them (`Disk.makeFolders_invariant`). On a disk that has grown a path leads where it led before,
unless there was something missing on the way (`Disk.Grows.locate`); so a path that leads to nothing now
has never led to anything (`Disk.Grows.find?_eq_none`).
-/

namespace ContextSlice.Disk

/-- What is at a place of a disk is at the same place of a later one. -/
def Grows (disk later : Disk) : Prop :=
  ∀ place entry, disk.entry? place = some entry → later.entry? place = some entry

section
variable {disk later last : Disk} {parts : List String} {path : FilePath}

theorem Grows.refl (disk : Disk) : disk.Grows disk := fun _ _ h => h

theorem Grows.trans (h : disk.Grows later) (h' : later.Grows last) : disk.Grows last :=
  fun place entry he => h' place entry (h place entry he)

/-! ## Adding an entry -/

/-- Where two places are compared as lists, they are compared as places. -/
theorem beq_place : (List.instBEq : BEq Place) = instBEqOfDecidableEq := lawful_beq_subsingleton _ _

/-- An entry that is put where there is no folder is found there. -/
theorem found_put_self {place : Place} (h : disk.entry? place ≠ some .folder) (entry : Entry) :
    Disk.entry? ⟨Assoc.put place entry disk.entries⟩ place = some entry := by
  unfold entry? at h ⊢
  split at h
  · exact absurd rfl h
  · rename_i hroot
    rw [if_neg hroot, beq_place]
    exact Assoc.lookup_put_self _ _ _

/-- A new entry is seen at its own place only. -/
theorem found_put_of_ne {place other : Place} (h : other ≠ place) (entry : Entry) :
    Disk.entry? ⟨Assoc.put place entry disk.entries⟩ other = disk.entry? other := by
  unfold entry?
  split
  · rfl
  · rw [beq_place]
    exact Assoc.lookup_put_of_ne _ _ h

/-- A disk grows by an entry where there was none. -/
theorem grows_put {place : Place} (h : disk.entry? place = none) (entry : Entry) :
    disk.Grows ⟨Assoc.put place entry disk.entries⟩ := by
  intro other found hfound
  by_cases heq : other = place
  · subst heq
    cases h.symm.trans hfound
  · rwa [found_put_of_ne heq]

/-! ## Following paths -/

/-- Names along which nothing is missing lead to the same place when the disk has grown, or fail for the
same reason. -/
theorem Grows.locate {here : Place} (h : disk.Grows later) (hm : disk.locate here parts ≠ .error .missing) :
    later.locate here parts = disk.locate here parts := by
  induction parts generalizing here with
  | nil => rfl
  | cons part parts ih =>
    unfold Disk.locate at hm ⊢
    cases hentry : disk.entry? here with
    | none => exact absurd (by rw [hentry]) hm
    | some entry =>
      rw [hentry] at hm
      rw [h here entry hentry]
      cases entry with
      | file content => rfl
      | folder =>
        dsimp only at hm ⊢
        split
        · rfl
        · rename_i hlimit
          rw [if_neg hlimit] at hm
          exact ih hm

/-- Where a path leads does not change on a disk that grows, unless something on the way was missing. -/
theorem Grows.place (h : disk.Grows later) (hm : disk.place path ≠ .error .missing) :
    later.place path = disk.place path := by
  unfold Disk.place at hm ⊢
  split
  · rfl
  · rename_i hnull
    rw [if_neg hnull] at hm
    split
    · rfl
    · rename_i hlimit
      rw [if_neg hlimit] at hm
      exact h.locate hm

/-- A path that leads to a place still leads to it. -/
theorem Grows.place_eq_ok {place : Place} (h : disk.Grows later) (hp : disk.place path = .ok place) :
    later.place path = .ok place := (h.place (by simp [hp])).trans hp

/-- What a path leads to is what is at its place. -/
theorem find?_of_place {place : Place} (h : disk.place path = .ok place) :
    disk.find? path = .ok (disk.entry? place) := by
  rw [find?, h]

/-- A path that leads to something leads to a place. -/
theorem find?_eq_some {entry : Entry} (h : disk.find? path = .ok (some entry)) :
    ∃ place, disk.place path = .ok place ∧ disk.entry? place = some entry := by
  unfold find? at h
  split at h
  · rename_i place hplace
    exact ⟨place, hplace, by rwa [Except.ok.injEq] at h⟩
  · cases h
  · cases h

/-- A path that leads to something still leads there. -/
theorem Grows.find?_eq_some {entry : Entry} (h : disk.Grows later) (hf : disk.find? path = .ok (some entry)) :
    later.find? path = .ok (some entry) := by
  obtain ⟨place, hplace, hentry⟩ := Disk.find?_eq_some hf
  rw [find?_of_place (h.place_eq_ok hplace), h place entry hentry]

/-- A path that leads to nothing has never led to anything. -/
theorem Grows.find?_eq_none (h : disk.Grows later) (hl : later.find? path = .ok none) :
    disk.find? path = .ok none := by
  by_cases hm : disk.place path = .error .missing
  · rw [find?, hm]
  · have hplace := h.place hm
    cases hp : disk.place path with
    | error problem =>
      rw [find?, hplace, hp] at hl
      rw [find?, hp]
      cases problem <;> exact hl
    | ok place =>
      rw [find?_of_place (hplace.trans hp), Except.ok.injEq] at hl
      rw [find?_of_place hp, Except.ok.injEq]
      cases hentry : disk.entry? place with
      | none => rfl
      | some entry => cases hl.symm.trans (h place entry hentry)

/-! ## Making folders -/

/-- A folder that is made lies where nothing was. -/
theorem makeFolder_eq_ok (h : disk.makeFolder path = .ok later) : ∃ place,
    disk.place path = .ok place ∧ disk.entry? place = none ∧
      later = ⟨Assoc.put place .folder disk.entries⟩ := by
  unfold makeFolder at h
  split at h
  · cases h
  · rename_i place hplace
    split at h
    · cases h
    · rename_i hfree
      cases h
      exact ⟨place, hplace, by simpa using hfree, rfl⟩

section
variable {P : Disk → Prop}
  (hstep : ∀ {disk later path}, P disk → Disk.makeFolder disk path = .ok later → P later)
include hstep

/-- Making one folder, unless it is there, keeps what making folders keeps. -/
theorem ensureFolder_invariant (hp : P disk) (h : disk.ensureFolder path = .ok later) : P later := by
  unfold ensureFolder at h
  split at h
  · rename_i made hmade
    cases h
    exact hstep hp hmade
  · cases h
  · split at h
    · cases h
    · split at h
      · cases h
        exact hp
      · cases h

/-- So does the last step of making folders. -/
theorem lastStep_invariant (path : FilePath) (hp : P disk) :
    P (ensureFolders.lastStep path disk).1 := by
  unfold ensureFolders.lastStep
  split
  · rename_i h
    exact ensureFolder_invariant hstep hp h
  · exact hp

theorem ensureFolders_invariant (path : FilePath) (depth : Nat) (hp : P disk) :
    P (disk.ensureFolders path depth).1 := by
  induction depth generalizing path with
  | zero => exact lastStep_invariant hstep path hp
  | succ depth ih =>
    unfold ensureFolders
    split
    · have haround := ih path.parent
      split
      · rename_i around hparent
        rw [hparent] at haround
        exact lastStep_invariant hstep path haround
      · exact haround
    · exact lastStep_invariant hstep path hp

/-- What is kept whenever a single folder is made is kept when a folder is made with the folders around
it, whether or not this succeeds. -/
theorem makeFolders_invariant (path : FilePath) (hp : P disk) : P (disk.makeFolders path).1 :=
  ensureFolders_invariant hstep path path.parts.length hp

end

/-- Making a folder with the folders around it adds folders and changes nothing. -/
theorem makeFolders_grows (disk : Disk) (path : FilePath) : disk.Grows (disk.makeFolders path).1 := by
  refine makeFolders_invariant (P := disk.Grows) (fun hgrows h => ?_) path (.refl disk)
  obtain ⟨place, -, hfree, rfl⟩ := makeFolder_eq_ok h
  exact hgrows.trans (grows_put hfree .folder)

/-- A folder that is there is not made again. -/
theorem makeFolder_of_folder (h : disk.find? path = .ok (some .folder)) :
    disk.makeFolder path = .error ⟨.exists, path⟩ := by
  unfold find? at h
  split at h
  · rename_i hplace
    rw [Except.ok.injEq] at h
    rw [makeFolder, hplace]
    dsimp only
    rw [h]
    rfl
  · cases h
  · cases h

/-- Where the folder is there, the last step changes nothing. -/
theorem lastStep_of_folder (h : disk.find? path = .ok (some .folder)) :
    ensureFolders.lastStep path disk = (disk, none) := by
  have hfolder : disk.isFolder path = .ok true := by
    rw [isFolder, h]
    rfl
  rw [ensureFolders.lastStep, ensureFolder, makeFolder_of_folder h, hfolder]
  rfl

/-- A folder that is there is not made again. -/
theorem makeFolders_of_folder (h : disk.find? path = .ok (some .folder)) :
    disk.makeFolders path = (disk, none) := by
  unfold makeFolders
  cases path.parts.length with
  | zero => exact lastStep_of_folder h
  | succ depth =>
    rw [ensureFolders, makeFolder_of_folder h]
    exact lastStep_of_folder h

/-! ## Creating files -/

/-- A file that is created lies where nothing was. -/
theorem create_eq_put {s : String} (h : disk.create path s = .ok later) : ∃ place,
    disk.place path = .ok place ∧ disk.entry? place = none ∧
      later = ⟨Assoc.put place (.file (.text s)) disk.entries⟩ := by
  unfold create at h
  split at h
  · cases h
  · rename_i place hplace
    split at h
    · cases h
    · rename_i hfree
      have hnone : disk.entry? place = none := by simpa using hfree
      rw [write, hplace] at h
      dsimp only at h
      rw [hnone] at h
      cases h
      exact ⟨place, hplace, hnone, rfl⟩

/-- A file that is created is found there with the text; nothing else has changed. -/
theorem create_eq_ok {s : String} (h : disk.create path s = .ok later) :
    disk.find? path = .ok none ∧ later.find? path = .ok (some (.file (.text s))) ∧
      disk.Grows later := by
  obtain ⟨place, hplace, hnone, rfl⟩ := create_eq_put h
  have hgrows := grows_put hnone (.file (.text s))
  refine ⟨?_, ?_, hgrows⟩
  · rw [find?_of_place hplace, hnone]
  · rw [find?_of_place (hgrows.place_eq_ok hplace), found_put_self (by simp [hnone])]

end

end ContextSlice.Disk
