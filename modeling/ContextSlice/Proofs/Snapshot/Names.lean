import ContextSlice.Proofs.Disk.Listing
import ContextSlice.Proofs.Disk.NullFree
import ContextSlice.Snapshot.Store
import Mathlib.Data.List.Basic

/-!
# The names of snapshots

In the name of a snapshot there are digits and the letters and signs between them only
(`Instant.notMem_stamp`, `Snapshot.notMem_name`), so it is one name of a path (`Snapshot.name_isName`) and
free of the null character. It is listed as a snapshot (`Snapshot.isName_name`), and different numbers give
different names (`Snapshot.name_injective`).
-/

namespace ContextSlice

/-! ## Paths in a folder -/

/-- The pieces of a list have only its characters. -/
theorem Text.subset_of_mem_splitChars {separator : Char} {cs piece : List Char}
    (h : piece ∈ splitChars separator cs) : piece ⊆ cs := by
  induction cs generalizing piece with
  | nil => simp_all [splitChars]
  | cons c cs ih =>
    unfold splitChars at h
    split at h
    · rcases List.mem_cons.mp h with rfl | h
      · exact List.nil_subset _
      · exact List.subset_cons_of_subset c (ih h)
    · split at h
      · rw [List.mem_singleton.mp h]
        exact List.cons_subset_cons c (List.nil_subset _)
      · rename_i first rest hpieces
        rw [hpieces] at ih
        rcases List.mem_cons.mp h with rfl | h
        · exact List.cons_subset_cons c (ih List.mem_cons_self)
        · exact List.subset_cons_of_subset c (ih (List.mem_cons_of_mem first h))

namespace FilePath

/-- The path of a text without the null character is free of it. -/
theorem nullFree_ofText {s : String} (h : '\x00' ∉ s.toList) : (ofText s).NullFree := by
  intro part hp
  have hpiece : part ∈ Text.splitAt '/' s := List.mem_of_mem_filter hp
  obtain ⟨piece, hm, rfl⟩ := List.mem_map.mp hpiece
  rw [String.toList_ofList]
  exact fun hnull => h (Text.subset_of_mem_splitChars hm hnull)

/-- A child whose name has no null character keeps a path free of it. -/
theorem NullFree.child {folder : FilePath} {name : String} (h : folder.NullFree)
    (hn : '\x00' ∉ name.toList) : (folder.child name).NullFree := by
  unfold FilePath.child join
  split
  · exact nullFree_ofText hn
  · intro part hp
    rcases List.mem_append.mp hp with hp | hp
    · exact h part hp
    · exact nullFree_ofText hn part hp

end FilePath

/-! ## Stamps and names -/

namespace Instant

/-- Padded digits are digits. -/
theorem isDigit_of_mem_digits {c : Char} {width n : Nat} (h : c ∈ digits width n) : c.isDigit = true := by
  induction width generalizing n with
  | zero => cases h
  | succ width ih =>
    have hdigit : ∀ d < 10, (Nat.digitChar d).isDigit = true := by decide
    rw [digits, List.mem_append, List.mem_singleton] at h
    rcases h with h | rfl
    · exact ih h
    · exact hdigit _ (Nat.mod_lt _ (by decide))

/-- The characters of a stamp are digits, and those between them. -/
theorem notMem_stamp {c : Char} (hdigit : c.isDigit = false) (hc : c ∉ ['-', 'T', 'Z'])
    (clock : Instant) : c ∉ clock.stamp.toList := by
  have hdigits (width n : Nat) : c ∉ digits width n := fun h => by
    simp [isDigit_of_mem_digits h] at hdigit
  have hyear : c ∉ yearDigits clock.year := fun h =>
    hdigits 4 clock.year ((List.dropWhile_suffix _).subset h)
  simp only [List.mem_cons, List.not_mem_nil, or_false, not_or] at hc
  simp [stamp, stampChars, hyear, hdigits, hc]

end Instant

/-- A number is written with digits. -/
theorem isDigit_of_mem_toString {c : Char} {n : Nat} (h : c ∈ (toString n).toList) :
    c.isDigit = true := by
  rw [Nat.toString_eq_ofList_toDigits, String.toList_ofList] at h
  exact Nat.isDigit_of_mem_toDigits (by decide) (Nat.le_refl 10) h

namespace Snapshot

section
variable {stamp : String}

/-- The characters of a name are those of its stamp, digits, and those that all names have. -/
theorem notMem_name {c : Char} (hdigit : c.isDigit = false)
    (hc : c ∉ nameStart.toList ++ nameEnd.toList) (h : c ∉ stamp.toList) (number : Nat) :
    c ∉ (name stamp number).toList := by
  rw [List.mem_append, not_or] at hc
  cases number with
  | zero => simp [name, hc, h]
  | succ number =>
    have hnumber : c ∉ (toString (number + 1)).toList := fun h => by
      simp [isDigit_of_mem_toString h] at hdigit
    have hdash : c ≠ '-' := fun h => hc.1 (by rw [h]; decide)
    simp only [name, String.toList_append, List.mem_append, not_or]
    exact ⟨⟨⟨⟨hc.1, h⟩, by simpa using hdash⟩, hnumber⟩, hc.2⟩

/-- The name of a snapshot has no null character. -/
theorem null_notMem_name (clock : Instant) (number : Nat) :
    '\x00' ∉ (name clock.stamp number).toList :=
  notMem_name (by decide) (by decide) (clock.notMem_stamp (by decide) (by decide)) number

/-- A name begins and ends as all names do. -/
theorem name_eq_append (stamp : String) (number : Nat) :
    ∃ middle, name stamp number = nameStart ++ middle ++ nameEnd := by
  cases number with
  | zero => exact ⟨stamp, rfl⟩
  | succ number => exact ⟨stamp ++ "-" ++ toString (number + 1), by simp only [name, String.append_assoc]⟩

/-- A file of this name is listed among the snapshots. -/
theorem isName_name (stamp : String) (number : Nat) : isName (name stamp number) = true := by
  obtain ⟨middle, hname⟩ := name_eq_append stamp number
  simp only [isName, Text.startsWith, Text.endsWith, hname, String.toList_append, Bool.and_eq_true,
    List.isPrefixOf_iff_prefix, List.isSuffixOf_iff_suffix]
  exact ⟨(List.prefix_append _ _).trans (List.prefix_append _ _), List.suffix_append _ _⟩

/-- The name of a snapshot is one name of a path. -/
theorem name_isName (clock : Instant) (number : Nat) : FilePath.IsName (name clock.stamp number) := by
  obtain ⟨middle, hname⟩ := name_eq_append clock.stamp number
  have hlong : 2 < (name clock.stamp number).toList.length := by
    simp only [hname, String.toList_append, List.length_append]
    have hstart : nameStart.toList.length = 12 := by decide
    omega
  refine ⟨?_, ?_, ?_, notMem_name (by decide) (by decide)
    (clock.notMem_stamp (by decide) (by decide)) number⟩
  all_goals
    intro heq
    rw [heq] at hlong
    exact absurd hlong (by decide)

/-- Snapshots with one stamp and different numbers have different names. -/
theorem name_injective (stamp : String) : Function.Injective (name stamp) := by
  have hlength (number : Nat) :
      (name stamp 0).toList.length < (name stamp (number + 1)).toList.length := by
    have hdash : "-".toList.length = 1 := by decide
    simp only [name, String.toList_append, List.length_append]
    omega
  intro m n h
  cases m with
  | zero =>
    cases n with
    | zero => rfl
    | succ n => exact absurd (h ▸ hlength n) (Nat.lt_irrefl _)
  | succ m =>
    cases n with
    | zero => exact absurd (h ▸ hlength m) (Nat.lt_irrefl _)
    | succ n =>
      simp only [name, String.append_left_inj, String.append_right_inj] at h
      have hdigits := congrArg (fun s => Nat.ofDigitChars 10 s.toList 0) h
      simpa only [Nat.toString_eq_ofList_toDigits, String.toList_ofList, Nat.ofDigitChars_ten_toDigits]
        using hdigits

end

end Snapshot

end ContextSlice
