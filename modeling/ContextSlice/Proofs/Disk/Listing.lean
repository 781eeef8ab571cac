import ContextSlice.Proofs.Assoc
import ContextSlice.Proofs.Disk.Growth
import ContextSlice.Proofs.Steps
import Mathlib.Data.List.Basic

/-!
# The files of a folder

A name that is a single one (`FilePath.IsName`) leads from a folder to a place in it
(`Disk.place_child`). The files of a folder are listed with every name as often as there is an entry at
its place (`Disk.count_files`); the list cannot be told only if a path is too long
(`Disk.files_fault`).
-/

namespace ContextSlice

namespace FilePath

/-- A text that is one name of a path: it is not empty, has no slash in it, and leads into a
folder. -/
structure IsName (name : String) : Prop where
  ne_empty : name ≠ ""
  ne_here : name ≠ "."
  ne_up : name ≠ ".."
  noSlash : '/' ∉ name.toList

section
variable {folder : FilePath} {name : String}

/-- A text without the separator is in one piece. -/
theorem splitChars_of_notMem {separator : Char} {cs : List Char} (h : separator ∉ cs) :
    Text.splitChars separator cs = [cs] := by
  induction cs with
  | nil => rfl
  | cons c cs ih =>
    rw [List.mem_cons, not_or] at h
    rw [Text.splitChars, if_neg (Ne.symm h.1), ih h.2]

/-- A name is a path with one part. -/
theorem IsName.ofText (h : IsName name) : FilePath.ofText name = ⟨0, [name]⟩ := by
  have hleading : name.toList.takeWhile (· = '/') = [] := by
    cases hcs : name.toList with
    | nil => rfl
    | cons c cs =>
      have hc : c ≠ '/' := fun hc => h.noSlash (by rw [hcs, hc]; exact List.mem_cons_self)
      simp [hc]
  have hparts : Text.splitAt '/' name = [name] := by
    rw [Text.splitAt, splitChars_of_notMem h.noSlash, List.map_singleton, String.ofList_toList]
  rw [FilePath.ofText, hleading, hparts]
  simp [h.ne_empty, h.ne_here]

/-- A name is the last part of the path of a child. -/
theorem IsName.child (h : IsName name) (folder : FilePath) :
    folder.child name = ⟨folder.slashes, folder.parts ++ [name]⟩ := by
  rw [FilePath.child, h.ofText, join, if_neg (Nat.lt_irrefl 0)]

/-- The last name of a path in a folder is the name in the folder. -/
theorem IsName.name_child (h : IsName name) (folder : FilePath) : (folder.child name).name = name := by
  rw [h.child, FilePath.name, List.getLastD_concat]

/-- The text of the path of a child, part by part. -/
theorem IsName.text_child (h : IsName name) (folder : FilePath) : (folder.child name).text =
    String.ofList (List.replicate folder.slashes '/') ++ "/".intercalate (folder.parts ++ [name]) := by
  rw [h.child, text, if_neg (by simp)]

/-- The path of a child is longer by its name and a slash. -/
theorem IsName.size_child (h : IsName name) (hparts : folder.parts ≠ []) :
    (folder.child name).text.utf8ByteSize = folder.text.utf8ByteSize + 1 + name.utf8ByteSize := by
  have hslash : "/".utf8ByteSize = 1 := by decide
  rw [h.text_child, text, if_neg (by simp [hparts]),
    String.intercalate_append_of_ne_nil hparts (by simp), String.intercalate_singleton,
    String.utf8ByteSize_append, String.utf8ByteSize_append, String.utf8ByteSize_append,
    String.utf8ByteSize_append, hslash]
  omega

/-- A path is no longer than a path in its folder. -/
theorem IsName.size_le (h : IsName name) (folder : FilePath) :
    folder.text.utf8ByteSize ≤ (folder.child name).text.utf8ByteSize := by
  by_cases hparts : folder.parts = []
  · have hname : 1 ≤ name.utf8ByteSize :=
      Nat.pos_of_ne_zero fun h0 => h.ne_empty (String.utf8ByteSize_eq_zero_iff.mp h0)
    rw [h.text_child, text, hparts, List.nil_append, String.intercalate_singleton,
      String.utf8ByteSize_append]
    split
    · exact Nat.le_add_left_of_le hname
    · simp
  · rw [h.size_child hparts]
    omega

end

end FilePath

namespace Disk

section
variable {disk : Disk} {here place : Place} {folder path : FilePath} {name : String}

/-- A path that leads to a place is followed to it. -/
theorem place_eq_ok (h : disk.place path = .ok place) :
    (¬ path.parts.any fun part => part.contains '\x00') ∧ path.text.utf8ByteSize ≤ pathLimit ∧
      disk.locate (start path) path.parts = .ok place := by
  unfold Disk.place at h
  split at h
  · cases h
  · rename_i hnull
    split at h
    · cases h
    · rename_i hlimit
      exact ⟨hnull, Nat.le_of_not_lt hlimit, h⟩

/-- The last name of some names leads on from the folder that the names before lead to. -/
theorem locate_concat {parts : List String} (h : disk.locate here (parts ++ [name]) = .ok place) :
    ∃ around, disk.locate here parts = .ok around ∧ disk.entry? around = some .folder ∧
      place = if name = ".." then around.up else around ++ [name] := by
  induction parts generalizing here with
  | nil =>
    rw [List.nil_append, locate] at h
    split at h
    · cases h
    · cases h
    · rename_i hfolder
      split at h
      · cases h
      · cases h
        exact ⟨here, rfl, hfolder, rfl⟩
  | cons part parts ih =>
    rw [List.cons_append, locate] at h
    split at h
    · cases h
    · cases h
    · rename_i hfolder
      split at h
      · cases h
      · rename_i hlimit
        obtain ⟨around, haround, hentry, rfl⟩ := ih h
        refine ⟨around, ?_, hentry, rfl⟩
        rw [locate, hfolder]
        dsimp only
        rw [if_neg hlimit, haround]

/-- A path in a folder leads to a place in the place of the folder, and only if that is a folder. -/
theorem place_child (hn : FilePath.IsName name) (h : disk.place (folder.child name) = .ok place) :
    ∃ around, disk.place folder = .ok around ∧ disk.entry? around = some .folder ∧
      place = around ++ [name] := by
  obtain ⟨hnull, hlimit, hlocate⟩ := place_eq_ok h
  rw [hn.child] at hnull hlocate
  obtain ⟨around, haround, hentry, rfl⟩ := locate_concat hlocate
  refine ⟨around, ?_, hentry, if_neg hn.ne_up⟩
  have hnull' : ¬ folder.parts.any (fun part => part.contains '\x00') = true := by
    simp only [List.any_append, Bool.or_eq_true, not_or] at hnull
    exact hnull.1
  rw [place, if_neg hnull', if_neg (Nat.not_lt.mpr (Nat.le_trans (hn.size_le folder) hlimit))]
  exact haround

/-- Parts are followed one after another. -/
theorem locate_append {parts rest : List String} (h : disk.locate here parts = .ok place) :
    disk.locate here (parts ++ rest) = disk.locate place rest := by
  induction parts generalizing here with
  | nil =>
    cases h
    rfl
  | cons part parts ih =>
    rw [locate] at h
    rw [List.cons_append, locate]
    split at h
    · cases h
    · cases h
    · split at h
      · cases h
      · rename_i hlimit
        rw [if_neg hlimit, ih h]

/-- A name that is not too long leads from a folder to its place in the folder. -/
theorem place_child_eq (hn : FilePath.IsName name) (hhere : disk.place folder = .ok here)
    (hfolder : disk.entry? here = some .folder) (hnull : '\x00' ∉ name.toList)
    (hname : name.utf8ByteSize ≤ nameLimit)
    (hpath : (folder.child name).text.utf8ByteSize ≤ pathLimit) :
    disk.place (folder.child name) = .ok (here ++ [name]) := by
  obtain ⟨hfree, -, hlocate⟩ := place_eq_ok hhere
  have hparts : ¬ (folder.child name).parts.any (fun part => part.contains '\x00') = true := by
    rw [hn.child, List.any_append, Bool.or_eq_true, not_or]
    exact ⟨hfree, by simpa [String.contains_char_eq] using hnull⟩
  rw [place, if_neg hparts, if_neg (Nat.not_lt.mpr hpath), hn.child]
  refine (locate_append hlocate).trans ?_
  rw [locate, hfolder]
  dsimp only
  rw [if_neg (Nat.not_lt.mpr hname), if_neg hn.ne_up, locate]

/-- The place of a name in a folder is not one that is always there, so what is there is an entry. -/
theorem mem_keys_of_entry? {entry : Entry} (hn : FilePath.IsName name)
    (h : disk.entry? (here ++ [name]) = some entry) : here ++ [name] ∈ Assoc.keys disk.entries := by
  have hroot : ¬ (here ++ [name] = ["/"] ∨ (here ++ [name]).all (· = "..")) := by
    rintro (hroot | hup)
    · have hlast : name = "/" := by simpa using congrArg List.getLast? hroot
      exact hn.noSlash (by rw [hlast]; decide)
    · exact hn.ne_up (by simpa using List.all_eq_true.mp hup name (by simp))
  rw [Disk.entry?, if_neg hroot, beq_place] at h
  rw [← Assoc.lookup_isSome_iff, h]
  rfl

/-! ## Listing -/

/-- A place is that of a name in a folder. -/
theorem lastIn_eq_some_iff :
    (if place.dropLast = here then place.getLast? else none) = some name ↔ place = here ++ [name] := by
  constructor
  · intro h
    split at h
    · rename_i hhere
      rw [← hhere, List.dropLast_append_getLast? name h]
    · cases h
  · rintro rfl
    rw [List.dropLast_concat, if_pos rfl, List.getLast?_concat]

/-- The names in a folder are the last names of the places in it, each as often. -/
theorem count_children (disk : Disk) (here : Place) (name : String) :
    (disk.children here).count name = (Assoc.keys disk.entries).count (here ++ [name]) := by
  unfold children
  induction disk.entries with
  | nil => rfl
  | cons pair entries ih =>
    obtain ⟨place, entry⟩ := pair
    rw [Assoc.keys, List.map_cons, List.count_cons, ← Assoc.keys, ← ih, List.filterMap_cons]
    dsimp only
    by_cases hplace : place = here ++ [name]
    · rw [lastIn_eq_some_iff.mpr hplace]
      simp [hplace]
    · rw [beq_false_of_ne hplace, if_neg Bool.false_ne_true, Nat.add_zero]
      cases hlast : if place.dropLast = here then place.getLast? else none with
      | none => rfl
      | some other =>
        refine List.count_cons_of_ne ?_
        rintro rfl
        exact hplace (lastIn_eq_some_iff.mp hlast)

/-- The children of a place are the names of the entries right below it. -/
theorem mem_children : name ∈ disk.children here ↔ here ++ [name] ∈ Assoc.keys disk.entries := by
  rw [← List.count_pos_iff, count_children, List.count_pos_iff]

/-- If the files of a folder are listed, then of everything in it it can be told whether it is a file. -/
theorem files_eq_ok {found : List String} (hhere : disk.place folder = .ok here)
    (hfolder : disk.entry? here = some .folder) (h : disk.files folder = .ok found) :
    ∃ test : String → Bool, (∀ name ∈ disk.children here,
      disk.isFile (folder.child name) = .ok (test name)) ∧ found = (disk.children here).filter test := by
  rw [files, hhere] at h
  dsimp only at h
  rw [if_pos hfolder] at h
  exact filterM_eq_ok h

/-- A folder in which there are nothing but files is listed with all of them. -/
theorem files_of_forall_isFile (hhere : disk.place folder = .ok here)
    (hfolder : disk.entry? here = some .folder)
    (h : ∀ name ∈ disk.children here, disk.isFile (folder.child name) = .ok true) :
    disk.files folder = .ok (disk.children here) := by
  rw [files, hhere]
  dsimp only
  rw [if_pos hfolder, filterM_of_forall h, List.filter_true]

/-- One more entry in a folder is the last of its children. -/
theorem children_concat {later : Disk} {entry : Entry}
    (h : later.entries = disk.entries ++ [(here ++ [name], entry)]) :
    later.children here = disk.children here ++ [name] := by
  rw [children, h, List.filterMap_append, ← children]
  simp

/-- The name of a file in a folder is listed as often as there is an entry at its place. -/
theorem count_files {found : List String} (hn : FilePath.IsName name)
    (hplace : disk.place (folder.child name) = .ok place)
    (hfile : disk.isFile (folder.child name) = .ok true) (h : disk.files folder = .ok found) :
    found.count name = (Assoc.keys disk.entries).count place := by
  obtain ⟨here, hhere, hfolder, rfl⟩ := place_child hn hplace
  obtain ⟨test, htest, rfl⟩ := files_eq_ok hhere hfolder h
  rw [← count_children]
  by_cases hname : name ∈ disk.children here
  · exact List.count_filter (Except.ok.inj ((htest name hname).symm.trans hfile))
  · rw [List.count_eq_zero_of_not_mem hname,
      List.count_eq_zero_of_not_mem fun hm => hname (List.mem_filter.mp hm).1]

/-- If the files of a folder cannot be listed, then it is because of a path that is too long, of the
folder or of something in it. -/
theorem files_fault {fault : DiskFault} (h : disk.files folder = .error fault) :
    fault.problem = .tooLong ∧ disk.find? fault.path = .error fault := by
  have hfind {path : FilePath} (h : disk.find? path = .error fault) :
      fault.problem = .tooLong ∧ disk.find? fault.path = .error fault := by
    have hfault : fault = ⟨.tooLong, path⟩ := by
      unfold find? at h
      split at h <;> cases h
      rfl
    subst hfault
    exact ⟨rfl, h⟩
  unfold files at h
  split at h
  · rename_i hplace
    cases h
    exact hfind (by rw [find?, hplace])
  · cases h
  · split at h
    · obtain ⟨name, -, hfile⟩ := filterM_eq_error h
      exact hfind (eq_error_of_map_eq_error hfile)
    · cases h

end

end Disk

end ContextSlice
