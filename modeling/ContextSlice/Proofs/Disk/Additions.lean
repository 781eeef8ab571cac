import ContextSlice.Proofs.Assoc
import ContextSlice.Proofs.Disk.Growth

/-!
# What is added to a disk

Making folders and creating files puts new entries after the ones there are (`Disk.Adds`): folders if
folders are made (`Disk.makeFolders_adds`), and one file if a file is created (`Disk.create_adds`). The
additions of several steps come one after the other (`Disk.Adds.trans`). A place that has been added is a
place once only, even after more has been added (`Disk.Adds.count_eq_one`).
-/

namespace ContextSlice.Disk

/-- A later disk has the entries of a disk, and after them others, at different places where nothing
was. -/
structure Adds (disk : Disk) (added : Assoc Place Entry) (later : Disk) : Prop where
  entries : later.entries = disk.entries ++ added
  fresh : ∀ place ∈ Assoc.keys added, disk.entry? place = none
  nodup : (Assoc.keys added).Nodup

section
variable {disk later last : Disk} {added more : Assoc Place Entry} {path : FilePath} {place : Place}

/-- Where nothing is there is no entry. -/
theorem notMem_keys_of_free (h : disk.entry? place = none) : place ∉ Assoc.keys disk.entries := by
  unfold entry? at h
  split at h
  · cases h
  · rw [beq_place] at h
    rw [← Assoc.lookup_isSome_iff, h]
    decide

theorem Adds.refl (disk : Disk) : disk.Adds [] disk := ⟨by simp, by simp [Assoc.keys], List.nodup_nil⟩

/-- An entry where there was none is added. -/
theorem Adds.put (h : disk.entry? place = none) (entry : Entry) :
    disk.Adds [(place, entry)] ⟨Assoc.put place entry disk.entries⟩ where
  entries := Assoc.put_of_notMem (notMem_keys_of_free h) entry
  fresh := by simpa [Assoc.keys] using h
  nodup := List.nodup_singleton place

/-- What was at a place is still there, and what has been added is nowhere else. -/
theorem Adds.entry? (h : disk.Adds added later) (hp : place ∉ Assoc.keys added) :
    later.entry? place = disk.entry? place := by
  have hnone : List.lookup place added = none := by
    rw [← Option.not_isSome_iff_eq_none, beq_place, Assoc.lookup_isSome_iff]
    exact hp
  rw [Disk.entry?, Disk.entry?, h.entries, List.lookup_append, hnone, Option.or_none]

/-- What has been added is found. -/
theorem Adds.entry?_of_mem {entry : Entry} (h : disk.Adds added later) (hm : (place, entry) ∈ added) :
    later.entry? place = some entry := by
  have hfree := h.fresh place (List.mem_map_of_mem (f := Prod.fst) hm)
  have hlookup := (Assoc.lookup_eq_some_iff_mem h.nodup).mpr hm
  unfold Disk.entry? at hfree ⊢
  split at hfree
  · cases hfree
  · rename_i hroot
    rw [if_neg hroot, h.entries, List.lookup_append, hfree, Option.none_or, beq_place, hlookup]

/-- A disk to which something is added grows. -/
theorem Adds.grows (h : disk.Adds added later) : disk.Grows later := by
  intro place entry hentry
  have hp : place ∉ Assoc.keys added := fun hp => by cases (h.fresh place hp).symm.trans hentry
  rw [h.entry? hp, hentry]

/-- What is added in two steps is added one after the other. -/
theorem Adds.trans (h : disk.Adds added later) (h' : later.Adds more last) :
    disk.Adds (added ++ more) last where
  entries := by rw [h'.entries, h.entries, List.append_assoc]
  fresh place hp := by
    rw [Assoc.keys_append, List.mem_append] at hp
    rcases hp with hp | hp
    · exact h.fresh place hp
    · cases hentry : disk.entry? place with
      | none => rfl
      | some entry => cases (h'.fresh place hp).symm.trans (h.grows place entry hentry)
  nodup := by
    rw [Assoc.keys_append]
    refine h.nodup.append h'.nodup fun place hp hp' => ?_
    have hkey : place ∈ Assoc.keys later.entries := by
      rw [h.entries, Assoc.keys_append]
      exact List.mem_append_right _ hp
    exact notMem_keys_of_free (h'.fresh place hp') hkey

/-- A place that has been added is a place of the disk once, whatever else has been added. -/
theorem Adds.count_eq_one (h : disk.Adds added later) (hp : place ∈ Assoc.keys added) :
    (Assoc.keys later.entries).count place = 1 := by
  rw [h.entries, Assoc.keys_append, List.count_append,
    List.count_eq_zero_of_not_mem (notMem_keys_of_free (h.fresh place hp)),
    List.count_eq_one_of_mem h.nodup hp]

/-! ## Making folders and creating files -/

/-- Making a folder with the folders around it adds nothing but folders, whether or not it
succeeds. -/
theorem makeFolders_adds (disk : Disk) (path : FilePath) :
    ∃ added, (∀ pair ∈ added, pair.2 = .folder) ∧ disk.Adds added (disk.makeFolders path).1 := by
  refine makeFolders_invariant
    (P := fun later => ∃ added, (∀ pair ∈ added, pair.2 = .folder) ∧ disk.Adds added later)
    (fun ⟨added, hfolders, hadds⟩ hmake => ?_) path ⟨[], by simp, .refl disk⟩
  obtain ⟨place, -, hfree, rfl⟩ := makeFolder_eq_ok hmake
  refine ⟨added ++ [(place, .folder)], fun pair hpair => ?_, hadds.trans (.put hfree .folder)⟩
  rcases List.mem_append.mp hpair with hpair | hpair
  · exact hfolders pair hpair
  · rw [List.mem_singleton.mp hpair]

/-- Creating a file adds it at the place that its path leads to. -/
theorem create_adds {s : String} (h : disk.create path s = .ok later) :
    ∃ place, later.place path = .ok place ∧ disk.Adds [(place, .file (.text s))] later := by
  obtain ⟨place, hplace, hfree, rfl⟩ := create_eq_put h
  exact ⟨place, (grows_put hfree _).place_eq_ok hplace, .put hfree _⟩

end

end ContextSlice.Disk
