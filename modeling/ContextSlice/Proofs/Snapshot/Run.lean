import ContextSlice.Proofs.Disk.Additions
import ContextSlice.Proofs.Snapshot.Search
import ContextSlice.Proofs.Snapshot.Store

/-!
# Saving one slice after another

Saving a slice either adds folders only, or one file besides, at a path that led to nothing before
(`Snapshot.outcome_save`). What has been saved stays where it is (`Snapshot.Written.adds`), so slices that
are saved one after another, at whatever readings of the clock, are at different paths, and each of them is
listed once (`Snapshot.saveAll_fresh`). A folder whose path is so long that the path of something else in
it cannot be looked at is not listed at all (`Snapshot.not_forall_listed`).
-/

namespace ContextSlice.Snapshot

/-- Saves slices in a folder one after another, each at its own reading of the clock. The result is what
has become of each of them, and the disk afterwards. -/
def saveAll (disk : Disk) (folder : FilePath) :
    List (Instant × Slice Json) → List (Except SaveFault FilePath) × Disk
  | [] => ([], disk)
  | (clock, slice) :: rest =>
    let (result, later) := save disk folder clock slice
    let (results, last) := saveAll later folder rest
    (result :: results, last)

/-- The paths of the slices that were saved. -/
def savedPaths (results : List (Except SaveFault FilePath)) : List FilePath :=
  results.filterMap Except.toOption

/-- What saving a slice may do to a disk. If it fails, there are new folders at most. If it succeeds, the
path is the one that the search has found; it led to nothing, and now to the only new file. -/
inductive Outcome (disk : Disk) (folder : FilePath) (clock : Instant) (slice : Slice Json) :
    Except SaveFault FilePath → Disk → Prop
  | failed {fault : SaveFault} {folders : Assoc Place Entry} {later : Disk}
      (hfolders : ∀ pair ∈ folders, pair.2 = .folder) (hadds : disk.Adds folders later) :
      Outcome disk folder clock slice (.error fault) later
  | saved {path : FilePath} {place : Place} {folders : Assoc Place Entry} {later : Disk}
      (hsearch : Search (disk.makeFolders folder).1 folder clock.stamp 0 (.ok path))
      (hnew : disk.find? path = .ok none) (hplace : later.place path = .ok place)
      (hfolders : ∀ pair ∈ folders, pair.2 = .folder)
      (hmade : disk.Adds folders (disk.makeFolders folder).1)
      (hadds : disk.Adds (folders ++ [(place, .file (.text (text slice)))]) later) :
      Outcome disk folder clock slice (.ok path) later

/-- A path is that of a snapshot in a folder, and there is one entry at its place, which is a file. -/
structure Written (disk : Disk) (folder path : FilePath) : Prop where
  isNamed : ∃ (clock : Instant) (number : Nat), path = folder.child (name clock.stamp number)
  found : ∃ place content, disk.place path = .ok place ∧ disk.entry? place = some (.file content) ∧
    (Assoc.keys disk.entries).count place = 1

section
variable {disk later : Disk} {folder path : FilePath} {clock : Instant} {slice : Slice Json}
  {result : Except SaveFault FilePath}

/-! ## One slice -/

/-- A path and the disk that writing a slice gives are those of a saved slice. -/
theorem outcome_of_write (h : write disk folder clock slice = (.ok path, later)) :
    Outcome disk folder clock slice (.ok path) later := by
  obtain ⟨folders, hfolders, hmade⟩ := disk.makeFolders_adds folder
  have hsearch := search_freshPath (disk.makeFolders folder).1 folder clock
  have hnew := (write_eq_ok h).1
  unfold write at h
  split at h
  · cases h
  · rename_i made hmake
    rw [hmake] at hmade hsearch
    split at h
    · rename_i hwrite
      cases h
      obtain ⟨hfresh, hcreate⟩ := writeInto_eq_ok hwrite
      obtain ⟨place, hplace, hfile⟩ := Disk.create_adds hcreate
      rw [hfresh] at hsearch
      exact .saved (by rwa [hmake]) hnew hplace hfolders (by rwa [hmake]) (hmade.trans hfile)
    · cases h

/-- If a slice cannot be written, then there is nothing new but the folders. -/
theorem write_eq_error {fault : DiskFault}
    (h : write disk folder clock slice = (.error fault, later)) :
    later = (disk.makeFolders folder).1 := by
  unfold write at h
  split at h
  · rename_i hmake
    cases h
    rw [hmake]
  · rename_i hmake
    split at h
    · cases h
    · cases h
      rw [hmake]

/-- What saving a slice does to a disk. -/
theorem outcome_save (disk : Disk) (folder : FilePath) (clock : Instant) (slice : Slice Json) :
    Outcome disk folder clock slice (save disk folder clock slice).1
      (save disk folder clock slice).2 := by
  obtain ⟨folders, hfolders, hmade⟩ := disk.makeFolders_adds folder
  unfold save
  split
  · rename_i hwrite
    cases write_eq_error hwrite
    exact .failed hfolders hmade
  · rename_i hwrite
    split
    · exact .failed hfolders hmade
    · exact outcome_of_write hwrite

/-- A slice is written at the path that the search finds in a folder. -/
theorem write_of_search {place : Place} (hfolder : disk.find? folder = .ok (some .folder))
    (hsearch : Search disk folder clock.stamp 0 (.ok path)) (hplace : disk.place path = .ok place) :
    write disk folder clock slice =
      (.ok path, ⟨Assoc.put place (.file (.text (text slice))) disk.entries⟩) := by
  have hfree : disk.entry? place = none := by
    obtain ⟨-, -, -, hhas, -⟩ := hsearch.exists_of_ok
    rw [Disk.has, Disk.find?_of_place hplace, Except.map, Except.ok.injEq] at hhas
    simpa using hhas
  have hfresh : freshPath disk folder clock.stamp = .ok path :=
    (search_freshPath disk folder clock).unique hsearch
  have hcreate : disk.create path (text slice) =
      .ok ⟨Assoc.put place (.file (.text (text slice))) disk.entries⟩ := by
    rw [Disk.create, Disk.write, hplace]
    dsimp only
    rw [hfree]
    rfl
  have hinto : writeInto disk folder clock slice =
      .ok (path, ⟨Assoc.put place (.file (.text (text slice))) disk.entries⟩) := by
    unfold writeInto
    rw [hfresh]
    dsimp only [bind, Except.bind]
    rw [hcreate]
    rfl
  rw [write, Disk.makeFolders_of_folder hfolder]
  dsimp only
  rw [hinto]

/-- A slice whose whole numbers are short is saved where it is written. -/
theorem save_eq_ok (hwrite : write disk folder clock slice = (.ok path, later))
    (hshort : (Json.object slice.payload).leaves.any isTooLong = false) :
    save disk folder clock slice = (.ok path, later) := by
  rw [save, hwrite]
  dsimp only
  rw [hshort, if_neg Bool.false_ne_true]

/-- However saving ends, whatever was on the disk stays. -/
theorem Outcome.grows (h : Outcome disk folder clock slice result later) : disk.Grows later := by
  cases h with
  | failed _ hadds => exact hadds.grows
  | saved _ _ _ _ _ hadds => exact hadds.grows

/-- A snapshot that was saved is at a path where nothing was before. -/
theorem Outcome.find?_eq_none (h : Outcome disk folder clock slice (.ok path) later) :
    disk.find? path = .ok none := by
  cases h with
  | saved _ hnew => exact hnew

/-- A snapshot that was saved is a file in the folder. -/
theorem Outcome.written (h : Outcome disk folder clock slice (.ok path) later) :
    Written later folder path := by
  cases h with
  | saved hsearch _ hplace _ _ hadds =>
    obtain ⟨number, -, hpath, -⟩ := hsearch.exists_of_ok
    exact ⟨⟨clock, number, hpath⟩, _, .text (text slice), hplace, hadds.entry?_of_mem (by simp),
      hadds.count_eq_one (by simp [Assoc.keys])⟩

/-! ## Several slices -/

/-- Whatever is added to a disk, a snapshot that has been written is still there. -/
theorem Written.adds {added : Assoc Place Entry} (h : Written disk folder path)
    (ha : disk.Adds added later) : Written later folder path := by
  obtain ⟨place, content, hplace, hentry, hcount⟩ := h.found
  have hnot : place ∉ Assoc.keys added := fun hp => by cases (ha.fresh place hp).symm.trans hentry
  refine ⟨h.isNamed, place, content, ha.grows.place_eq_ok hplace, ha.grows place _ hentry, ?_⟩
  rw [ha.entries, Assoc.keys_append, List.count_append, hcount, List.count_eq_zero_of_not_mem hnot]

/-- It stays one, however saving another snapshot ends. -/
theorem Written.outcome (h : Written disk folder path)
    (ho : Outcome disk folder clock slice result later) : Written later folder path := by
  cases ho with
  | failed _ hadds => exact h.adds hadds
  | saved _ _ _ _ _ hadds => exact h.adds hadds

/-- There is a file at the path of a snapshot that was written. -/
theorem Written.find? (h : Written disk folder path) : ∃ content,
    disk.find? path = .ok (some (.file content)) := by
  obtain ⟨place, content, hplace, hentry, -⟩ := h.found
  exact ⟨content, by rw [Disk.find?_of_place hplace, hentry]⟩

end

section
variable {disk : Disk} {folder path : FilePath} {requests : List (Instant × Slice Json)}

/-- Snapshots are saved one after another. -/
theorem saveAll_cons (disk : Disk) (folder : FilePath) (clock : Instant) (slice : Slice Json)
    (rest : List (Instant × Slice Json)) :
    saveAll disk folder ((clock, slice) :: rest) =
      ((save disk folder clock slice).1 :: (saveAll (save disk folder clock slice).2 folder rest).1,
        (saveAll (save disk folder clock slice).2 folder rest).2) := rfl

/-- The paths that were saved are the one of the first result, if it has one, and those of the others. -/
theorem mem_savedPaths_cons {result : Except SaveFault FilePath}
    {results : List (Except SaveFault FilePath)} :
    path ∈ savedPaths (result :: results) ↔ result = .ok path ∨ path ∈ savedPaths results := by
  cases result <;> simp [savedPaths, Except.toOption, eq_comm]

/-- A snapshot that has been written is still there when other slices have been saved. -/
theorem Written.saveAll (h : Written disk folder path) :
    Written (saveAll disk folder requests).2 folder path := by
  induction requests generalizing disk with
  | nil => exact h
  | cons request rest ih =>
    rw [saveAll_cons]
    exact ih (h.outcome (outcome_save disk folder request.1 request.2))

/-- A path at which a slice is saved leads to nothing before the first one is saved, and to its snapshot
after the last one. -/
theorem written_of_mem_savedPaths (h : path ∈ savedPaths (saveAll disk folder requests).1) :
    disk.find? path = .ok none ∧ Written (saveAll disk folder requests).2 folder path := by
  induction requests generalizing disk with
  | nil => cases h
  | cons request rest ih =>
    have houtcome := outcome_save disk folder request.1 request.2
    rw [saveAll_cons, mem_savedPaths_cons] at h
    rw [saveAll_cons]
    rcases h with h | h
    · rw [h] at houtcome
      exact ⟨houtcome.find?_eq_none, houtcome.written.saveAll⟩
    · obtain ⟨hnew, hwritten⟩ := ih h
      exact ⟨houtcome.grows.find?_eq_none hnew, hwritten⟩

/-- No two slices are saved at one path. -/
theorem nodup_savedPaths (disk : Disk) (folder : FilePath) (requests : List (Instant × Slice Json)) :
    (savedPaths (saveAll disk folder requests).1).Nodup := by
  induction requests generalizing disk with
  | nil => exact List.nodup_nil
  | cons request rest ih =>
    have houtcome := outcome_save disk folder request.1 request.2
    rw [saveAll_cons]
    cases hresult : (save disk folder request.1 request.2).1 with
    | error fault => exact ih _
    | ok path =>
      rw [hresult] at houtcome
      refine List.nodup_cons.mpr ⟨fun hmem => ?_, ih _⟩
      obtain ⟨content, hfind⟩ := houtcome.written.find?
      cases hfind.symm.trans (written_of_mem_savedPaths hmem).1

/-! ## Listing -/

/-- A snapshot that has been written is listed once, if the folder can be listed. -/
theorem Written.count_names {found : List String} (h : Written disk folder path)
    (hnames : names disk folder = .ok found) :
    path = folder.child path.name ∧ found.count path.name = 1 := by
  obtain ⟨clock, number, hpath⟩ := h.isNamed
  obtain ⟨place, content, hplace, hentry, hcount⟩ := h.found
  have hname := name_isName clock number
  have hlast : path.name = name clock.stamp number := by rw [hpath, hname.name_child]
  have hchild : path = folder.child path.name := by rw [hlast, hpath]
  refine ⟨hchild, ?_⟩
  obtain ⟨files, hfiles, rfl⟩ := exists_of_map_eq_ok hnames
  have hfile : disk.isFile path = .ok true := by
    rw [Disk.isFile, Disk.find?_of_place hplace, hentry]
    rfl
  rw [(List.mergeSort_perm _ _).count_eq, hlast, List.count_filter (isName_name clock.stamp number),
    Disk.count_files hname (hpath ▸ hplace) (hpath ▸ hfile) hfiles, hcount]

/-- If the snapshots of a folder cannot be listed, then it is because of a path that is too long. -/
theorem names_fault {fault : DiskFault} (h : names disk folder = .error fault) :
    fault.problem = .tooLong ∧ disk.find? fault.path = .error fault :=
  Disk.files_fault (eq_error_of_map_eq_error h)

/-- Whatever is on a disk and at whatever readings of the clock slices are saved in a folder of it, every
search for a free name ends, and every slice either is not saved or is the only new file, at a path that led
to nothing; what was on the disk stays as it was. The paths are all different, and the snapshots are listed
with each of them once. They cannot be listed only if the folder itself, or something in it that is none of
them, has a path that is too long. -/
theorem saveAll_fresh (disk : Disk) (folder : FilePath) (requests : List (Instant × Slice Json)) :
    let paths := savedPaths (saveAll disk folder requests).1
    let last := (saveAll disk folder requests).2
    (∀ before clock slice after, requests = before ++ (clock, slice) :: after →
      let now := (saveAll disk folder before).2
      let result := save now folder clock slice
      (∃ found, Search (now.makeFolders folder).1 folder clock.stamp 0 found) ∧
        Outcome now folder clock slice result.1 result.2 ∧ now.Grows result.2) ∧
    paths.Nodup ∧
    match names last folder with
    | .ok found => ∀ path ∈ paths, path = folder.child path.name ∧ found.count path.name = 1
    | .error fault => fault.problem = .tooLong ∧ fault.path ∉ paths := by
  refine ⟨fun before clock slice after _ => ?_, nodup_savedPaths disk folder requests, ?_⟩
  · have houtcome := outcome_save (saveAll disk folder before).2 folder clock slice
    exact ⟨⟨_, search_freshPath _ folder clock⟩, houtcome, houtcome.grows⟩
  · split
    · rename_i found hnames
      exact fun path hpath => (written_of_mem_savedPaths hpath).2.count_names hnames
    · rename_i fault hnames
      obtain ⟨hproblem, hfind⟩ := names_fault hnames
      refine ⟨hproblem, fun hpath => ?_⟩
      obtain ⟨content, hfile⟩ := (written_of_mem_savedPaths hpath).2.find?
      cases hfind.symm.trans hfile

end

/-! ## A folder that cannot be listed -/

/-- The path of a folder in the working folder that leads into it and out of it again several times. -/
def detour (name : String) (times : Nat) : FilePath :=
  ⟨0, name :: (List.replicate times ["..", name]).flatten⟩

section
variable {disk : Disk} {name other : String}

/-- A way that goes several times into a folder and back grows by the same length each time. -/
theorem size_detour (name : String) (times : Nat) :
    (detour name times).text.utf8ByteSize = name.utf8ByteSize + times * (name.utf8ByteSize + 4) := by
  have htext : (detour name times).text =
      "/".intercalate (name :: (List.replicate times ["..", name]).flatten) := by
    simp [detour, FilePath.text]
  rw [htext]
  clear htext
  induction times with
  | zero => simp
  | succ times ih =>
    have hup : "..".utf8ByteSize = 2 := by decide
    have hslash : "/".utf8ByteSize = 1 := by decide
    rw [List.replicate_succ, List.flatten_cons, List.cons_append, List.cons_append, List.nil_append,
      String.intercalate_cons_cons, String.intercalate_cons_cons, String.utf8ByteSize_append,
      String.utf8ByteSize_append, String.utf8ByteSize_append, String.utf8ByteSize_append, ih, hup,
      hslash, Nat.succ_mul]
    omega

theorem nullFree_detour (h : '\x00' ∉ name.toList) (times : Nat) : (detour name times).NullFree := by
  intro part hpart
  have hcases : part = ".." ∨ part = name := by
    simp only [detour, List.mem_cons, List.mem_flatten, List.mem_replicate] at hpart
    obtain rfl | ⟨pair, ⟨-, rfl⟩, hpart⟩ := hpart
    · exact .inr rfl
    · simpa using hpart
  obtain rfl | rfl := hcases
  · decide
  · exact h

/-- A detour leads where the direct path leads. -/
theorem locate_detour (hname : FilePath.IsName name) (h : disk.entry? [name] = some .folder)
    (hsize : name.utf8ByteSize ≤ Disk.nameLimit) (times : Nat) (rest : List String) :
    disk.locate [] ((detour name times).parts ++ rest) = disk.locate [name] rest := by
  have hhere : disk.entry? [] = some .folder := rfl
  have henter (rest : List String) : disk.locate [] (name :: rest) = disk.locate [name] rest := by
    rw [Disk.locate, hhere, if_neg hname.ne_up]
    exact if_neg (Nat.not_lt.mpr hsize)
  have habove : Place.up [name] = [] := by
    have hroot : [name] ≠ ["/"] := fun hroot => hname.noSlash (by cases hroot; decide)
    rw [Place.up, if_neg hroot, if_neg (by simpa using hname.ne_up), List.dropLast_singleton]
  have hleave (rest : List String) : disk.locate [name] (".." :: rest) = disk.locate [] rest := by
    rw [Disk.locate, h, if_pos rfl, habove]
    exact if_neg (by decide)
  rw [detour, List.cons_append, henter]
  induction times with
  | zero => rfl
  | succ times ih =>
    rw [List.replicate_succ, List.flatten_cons, List.append_assoc, List.cons_append, List.cons_append,
      List.nil_append, hleave, henter, ih]

end

/-- A name that is as long as a name may be. -/
def wide : String := String.ofList (List.replicate Disk.nameLimit 'n')

/-- A disk with one folder and in it a file with a long name. -/
def crowded : Disk := ⟨[(["d"], .folder), (["d", wide], .file (.text ""))]⟩

/-- The path of the folder with a detour, as long as it may be for a snapshot in it. -/
def longWay : FilePath := detour "d" 780

/-- The first snapshot that is saved by this path. -/
def firstName : String := name (Instant.stamp default) 0

/-- The disk after the first snapshot has been saved. -/
def crowdedLater : Disk := ⟨crowded.entries ++ [(["d", firstName], .file (.text (text {})))]⟩

theorem wide_isName : FilePath.IsName wide where
  ne_empty := by decide +kernel
  ne_here := by decide +kernel
  ne_up := by decide +kernel
  noSlash := by simp [wide]

theorem d_isName : FilePath.IsName "d" := ⟨by decide, by decide, by decide, by decide⟩

theorem longWay_nullFree : longWay.NullFree := nullFree_detour (by decide) 780

theorem place_longWay {disk : Disk} (h : disk.entry? ["d"] = some .folder) :
    disk.place longWay = .ok ["d"] := by
  have hlocate := locate_detour d_isName h (by decide) 780 []
  rw [List.append_nil] at hlocate
  rw [Disk.place_of_nullFree longWay_nullFree, longWay, size_detour, if_neg (by decide)]
  exact hlocate

/-- The long way leaves room for a name, but not for the longest one. -/
theorem size_longWay_child {name : String} (hname : FilePath.IsName name) :
    (longWay.child name).text.utf8ByteSize = 3902 + name.utf8ByteSize := by
  have hd : "d".utf8ByteSize = 1 := by decide
  rw [hname.size_child (List.cons_ne_nil _ _), longWay, size_detour, hd]

theorem save_crowded : save crowded longWay default {} =
    (.ok (longWay.child firstName), crowdedLater) := by
  have hentry : crowded.entry? ["d"] = some .folder := by decide
  have hfolder : crowded.find? longWay = .ok (some .folder) := by
    rw [Disk.find?_of_place (place_longWay hentry), hentry]
  have hplace : crowded.place (longWay.child firstName) = .ok ["d", firstName] := by
    have hname : FilePath.IsName firstName := name_isName default 0
    refine Disk.place_child_eq hname (place_longWay hentry) hentry (null_notMem_name default 0)
      (by decide) ?_
    rw [size_longWay_child hname]
    decide
  have hhas : crowded.has (longWay.child firstName) = .ok false := by
    rw [Disk.has, Disk.find?_of_place hplace]
    decide +kernel
  rw [save_eq_ok (write_of_search hfolder (.free hhas) hplace) (by decide),
    Assoc.put_of_notMem (by decide +kernel), crowdedLater]
  rfl

/-- The path of what was in the folder before is too long. -/
theorem find?_crowdedLater : crowdedLater.find? (longWay.child wide) =
    .error ⟨.tooLong, longWay.child wide⟩ := by
  have hplace : crowdedLater.place (longWay.child wide) = .error .tooLong := by
    rw [Disk.place_of_nullFree (longWay_nullFree.child (by simp [wide])), size_longWay_child wide_isName,
      if_pos (by decide +kernel)]
  rw [Disk.find?, hplace]

/-- So a slice may have been saved in a folder whose snapshots cannot be listed. -/
theorem not_forall_listed :
    ¬ ∀ (disk : Disk) (folder : FilePath) (requests : List (Instant × Slice Json)),
      ∀ path ∈ savedPaths (saveAll disk folder requests).1, ∃ found,
        names (saveAll disk folder requests).2 folder = .ok found ∧ found.count path.name = 1 := by
  intro h
  have hsaved : saveAll crowded longWay [(default, {})] =
      ([.ok (longWay.child firstName)], crowdedLater) := by
    rw [saveAll_cons, save_crowded]
    rfl
  obtain ⟨found, hnames, -⟩ := h crowded longWay [(default, {})] (longWay.child firstName)
    (by rw [hsaved]; simp [savedPaths, Except.toOption])
  rw [hsaved] at hnames
  have hentry : crowdedLater.entry? ["d"] = some .folder := by decide
  obtain ⟨files, hfiles, -⟩ := exists_of_map_eq_ok hnames
  obtain ⟨test, htest, -⟩ := Disk.files_eq_ok (place_longWay hentry) hentry hfiles
  have hwide := htest wide (Disk.mem_children.mpr (by decide +kernel))
  rw [Disk.isFile, find?_crowdedLater] at hwide
  cases hwide

end ContextSlice.Snapshot
