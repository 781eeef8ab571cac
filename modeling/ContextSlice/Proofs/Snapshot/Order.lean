import ContextSlice.Proofs.Snapshot.Run
import ContextSlice.Proofs.Snapshot.StampOrder

/-!
# The order in which snapshots are listed

Into a folder in which there is nothing the first slice of a reading of the clock is saved without a number
and the next ones are numbered from one (`Snapshot.Holds.save`). As the names are listed in their order, the
greatest first, snapshots of a later reading come before those of an earlier one; but of those of one reading
the first one comes first, not the last one (`Snapshot.saveAll_listed`, `Snapshot.not_forall_newest_first`).
-/

namespace ContextSlice.Snapshot

/-- Readings of the clock, each with how many of it there were before. -/
def numbered (earlier : List Instant) : List Instant → List (Instant × Nat)
  | [] => []
  | clock :: rest => (clock, earlier.count clock) :: numbered (earlier ++ [clock]) rest

/-- The name of a snapshot by its reading of the clock and its number. -/
def nameOf (pair : Instant × Nat) : String := name pair.1.stamp pair.2

/-- In a folder there is nothing but the snapshots of some readings of the clock. -/
structure Holds (disk : Disk) (folder : FilePath) (here : Place) (clocks : List Instant) : Prop where
  place : disk.place folder = .ok here
  isFolder : disk.entry? here = some .folder
  children : disk.children here = (numbered [] clocks).map nameOf

/-! ## Numbers -/

/-- Clock readings are numbered one part after the other, the second one counting the first. -/
theorem numbered_append (earlier xs ys : List Instant) :
    numbered earlier (xs ++ ys) = numbered earlier xs ++ numbered (earlier ++ xs) ys := by
  induction xs generalizing earlier with
  | nil => simp [numbered]
  | cons x xs ih => simp [numbered, ih]

/-- One more reading is numbered by how often it came before. -/
theorem numbered_concat (clocks : List Instant) (clock : Instant) :
    numbered [] (clocks ++ [clock]) = numbered [] clocks ++ [(clock, clocks.count clock)] := by
  simp [numbered_append, numbered]

/-- The numbers of a reading are those less than how often there is that reading. -/
theorem mem_numbered {clocks : List Instant} {clock : Instant} {number : Nat} :
    (clock, number) ∈ numbered [] clocks ↔ number < clocks.count clock := by
  induction clocks using List.reverseRecOn with
  | nil => simp [numbered]
  | append_singleton clocks last ih =>
    rw [numbered_concat, List.mem_append, ih, List.mem_singleton, Prod.mk.injEq, List.count_append]
    by_cases hlast : clock = last
    · subst hlast
      simp
      omega
    · simp [hlast, Ne.symm hlast]

/-- No reading has the same number twice. -/
theorem nodup_numbered (clocks : List Instant) : (numbered [] clocks).Nodup := by
  induction clocks using List.reverseRecOn with
  | nil => exact List.nodup_nil
  | append_singleton clocks last ih =>
    rw [numbered_concat]
    refine ih.append (List.nodup_singleton _) fun pair hpair hlast => ?_
    cases List.mem_singleton.mp hlast
    exact Nat.lt_irrefl _ (mem_numbered.mp hpair)

/-- Numbering leaves the readings and their order. -/
theorem map_fst_numbered (earlier clocks : List Instant) :
    (numbered earlier clocks).map Prod.fst = clocks := by
  induction clocks generalizing earlier with
  | nil => rfl
  | cons clock rest ih => simp [numbered, ih]

theorem fst_mem {clocks : List Instant} {pair : Instant × Nat} (h : pair ∈ numbered [] clocks) :
    pair.1 ∈ clocks := by
  rw [← map_fst_numbered [] clocks]
  exact List.mem_map_of_mem h

/-- Different readings or numbers give different names. -/
theorem nameOf_injective {a b : Instant × Nat} (ha : 1000 ≤ a.1.year) (hb : 1000 ≤ b.1.year)
    (h : nameOf a = nameOf b) : a = b := by
  by_cases hclock : a.1 = b.1
  · refine Prod.ext hclock (name_injective a.1.stamp ?_)
    rw [nameOf, nameOf, ← hclock] at h
    exact h
  · rcases Instant.before_or_before hclock with hlt | hlt
    · exact absurd h (name_lt_of_before hlt ha a.2 b.2).ne
    · exact absurd h.symm (name_lt_of_before hlt hb b.2 a.2).ne

section
variable {disk later : Disk} {folder path : FilePath} {here : Place} {clocks : List Instant}
  {clock : Instant} {slice : Slice Json}

/-! ## Saving -/

/-- A name of a reading is taken in the folder if its number has been given away. -/
theorem Holds.mem_keys_iff (h : Holds disk folder here clocks) (hyears : ∀ clock ∈ clocks, 1000 ≤ clock.year)
    (hyear : 1000 ≤ clock.year) (number : Nat) :
    here ++ [name clock.stamp number] ∈ Assoc.keys disk.entries ↔ number < clocks.count clock := by
  rw [← Disk.mem_children, h.children, List.mem_map, ← mem_numbered]
  constructor
  · rintro ⟨pair, hpair, hname⟩
    have heq : pair = (clock, number) := nameOf_injective (hyears _ (fst_mem hpair)) hyear hname
    rwa [heq] at hpair
  · exact fun hpair => ⟨_, hpair, rfl⟩

/-- A slice that is saved gets the number of slices that have been saved at the same reading. -/
theorem Holds.save (h : Holds disk folder here clocks) (hyears : ∀ clock ∈ clocks, 1000 ≤ clock.year)
    (hyear : 1000 ≤ clock.year) (hsave : save disk folder clock slice = (.ok path, later)) :
    path = folder.child (nameOf (clock, clocks.count clock)) ∧
      Holds later folder here (clocks ++ [clock]) := by
  have houtcome : Outcome disk folder clock slice (.ok path) later := by
    have houtcome := outcome_save disk folder clock slice
    rwa [hsave] at houtcome
  have hfind : disk.find? folder = .ok (some .folder) := by
    rw [Disk.find?_of_place h.place, h.isFolder]
  cases houtcome with
  | @saved _ place folders _ hsearch _ hplace _ hmade hadds =>
    rw [Disk.makeFolders_of_folder hfind] at hsearch hmade
    obtain ⟨number, -, rfl, -, hbefore⟩ := hsearch.exists_of_ok
    have hgrows := hadds.grows
    have hfolder : later.place folder = .ok here := hgrows.place_eq_ok h.place
    obtain ⟨around, haround, -, rfl⟩ := Disk.place_child (name_isName clock number) hplace
    cases hfolder.symm.trans haround
    have hcount : number = clocks.count clock := by
      have hfree : here ++ [name clock.stamp number] ∉ Assoc.keys disk.entries :=
        Disk.notMem_keys_of_free (hadds.fresh _ (by simp [Assoc.keys]))
      have hle : clocks.count clock ≤ number :=
        Nat.le_of_not_lt fun hlt => hfree ((h.mem_keys_iff hyears hyear number).mpr hlt)
      have hge : number ≤ clocks.count clock := Nat.le_of_not_lt fun hlt =>
        Nat.lt_irrefl _ ((h.mem_keys_iff hyears hyear _).mp
          (mem_keys_of_taken h.place (hbefore _ (Nat.zero_le _) hlt)))
      exact Nat.le_antisymm hge hle
    have hnone : folders = [] := List.append_cancel_left (by rw [List.append_nil]; exact hmade.entries.symm)
    have hentries := hadds.entries
    rw [hnone, List.nil_append] at hentries
    refine ⟨by rw [hcount, nameOf], hfolder, hgrows _ _ h.isFolder, ?_⟩
    rw [Disk.children_concat hentries, h.children, numbered_concat, List.map_append, hcount]
    rfl

/-- All slices that are saved get the numbers of their readings. -/
theorem Holds.saveAll {requests : List (Instant × Slice Json)} {paths : List FilePath}
    (h : Holds disk folder here clocks) (hyears : ∀ clock ∈ clocks, 1000 ≤ clock.year)
    (hyear : ∀ request ∈ requests, 1000 ≤ request.1.year)
    (hall : (saveAll disk folder requests).1 = paths.map .ok) :
    paths = (numbered clocks (requests.map Prod.fst)).map (fun pair => folder.child (nameOf pair)) ∧
      Holds (saveAll disk folder requests).2 folder here (clocks ++ requests.map Prod.fst) := by
  induction requests generalizing disk clocks paths with
  | nil =>
    cases paths with
    | nil => exact ⟨rfl, by simpa [Snapshot.saveAll] using h⟩
    | cons => cases hall
  | cons request rest ih =>
    obtain ⟨hfirst, hrest⟩ := List.forall_mem_cons.mp hyear
    cases paths with
    | nil => cases hall
    | cons path paths =>
      rw [saveAll_cons, List.map_cons, List.cons.injEq] at hall
      obtain ⟨hpath, hlater⟩ := h.save hyears hfirst (Prod.ext hall.1 rfl)
      have hyears' : ∀ clock ∈ clocks ++ [request.1], 1000 ≤ clock.year := by
        intro clock hclock
        rcases List.mem_append.mp hclock with hclock | hclock
        · exact hyears clock hclock
        · rwa [List.mem_singleton.mp hclock]
      obtain ⟨hpaths, hlast⟩ := ih hlater hyears' hrest hall.2
      rw [saveAll_cons]
      exact ⟨by rw [hpath, hpaths]; rfl, by simpa using hlast⟩

/-! ## Listing -/

/-- Snapshots of a later reading have greater names, and of those of one reading the first one has the
greatest. -/
theorem pairwise_nameOf {clocks : List Instant} (hyears : ∀ clock ∈ clocks, 1000 ≤ clock.year) :
    (numbered [] clocks).Pairwise fun a b =>
      (a.1.before b.1 = true → nameOf a < nameOf b) ∧
        (a.1 = b.1 → a.2 = 0 → nameOf b < nameOf a) := by
  refine (nodup_numbered clocks).imp_of_mem fun {a b} ha hb hne => ⟨fun hlt => ?_, fun hclock hzero => ?_⟩
  · exact name_lt_of_before hlt (hyears _ (fst_mem ha)) _ _
  · obtain ⟨clock, number⟩ := b
    cases number with
    | zero => exact absurd (Prod.ext hclock hzero) hne
    | succ number =>
      rw [nameOf, nameOf, hzero, hclock]
      exact name_succ_lt clock.stamp number

/-- The names of snapshots are listed in descending order. -/
theorem pairwise_names {found : List String} (h : names disk folder = .ok found) :
    found.Pairwise fun a b => b ≤ a := by
  obtain ⟨files, -, rfl⟩ := exists_of_map_eq_ok h
  have htrans (a b c : String) (hab : decide (b ≤ a) = true) (hbc : decide (c ≤ b) = true) :
      decide (c ≤ a) = true :=
    decide_eq_true (le_trans (of_decide_eq_true hbc) (of_decide_eq_true hab))
  have htotal (a b : String) : (decide (b ≤ a) || decide (a ≤ b)) = true := by
    simpa using le_total b a
  exact (List.pairwise_mergeSort htrans htotal (files.filter isName)).imp of_decide_eq_true

/-- If there is nothing but snapshots in a folder, then they are listed, the greatest name first. -/
theorem Holds.listed (h : Holds disk folder here clocks)
    (hyears : ∀ clock ∈ clocks, 1000 ≤ clock.year)
    (hfiles : ∀ name ∈ disk.children here, disk.isFile (folder.child name) = .ok true) :
    ∃ found, names disk folder = .ok found ∧ found.Perm ((numbered [] clocks).map nameOf) ∧
      found.Pairwise fun a b => b < a := by
  have hnames : ((numbered [] clocks).map nameOf).filter isName = (numbered [] clocks).map nameOf := by
    refine List.filter_eq_self.mpr fun name hname => ?_
    obtain ⟨pair, -, rfl⟩ := List.mem_map.mp hname
    exact isName_name _ _
  have heq : names disk folder =
      .ok (((numbered [] clocks).map nameOf).mergeSort fun a b => b ≤ a) := by
    unfold names
    rw [Disk.files_of_forall_isFile h.place h.isFolder hfiles, h.children, Except.map, hnames]
  have hnodup : ((numbered [] clocks).map nameOf).Nodup := by
    refine List.Nodup.map_on (fun a ha b hb hab => ?_) (nodup_numbered clocks)
    exact nameOf_injective (hyears _ (fst_mem ha)) (hyears _ (fst_mem hb)) hab
  refine ⟨_, heq, List.mergeSort_perm _ _, ?_⟩
  exact ((pairwise_names heq).and (List.nodup_mergeSort.mpr hnodup)).imp fun ⟨hle, hne⟩ =>
    lt_of_le_of_ne hle (Ne.symm hne)

/-- A list in descending order begins with a member that is greater than the others. -/
theorem head?_of_pairwise {found : List String} {x : String} (h : found.Pairwise fun a b => b < a)
    (hx : x ∈ found) (hmax : ∀ y ∈ found, y ≤ x) : found.head? = some x := by
  cases found with
  | nil => cases hx
  | cons first rest =>
    rcases List.mem_cons.mp hx with rfl | hx
    · rfl
    · exact absurd (List.rel_of_pairwise_cons h hx) (not_lt_of_ge (hmax first List.mem_cons_self))

/-- If the readings do not go back, the greatest name is that of the last reading without a number. -/
theorem head?_listed {clocks : List Instant} {found : List String}
    (hyears : ∀ clock ∈ clocks, 1000 ≤ clock.year)
    (hclock : clocks.Pairwise fun a b => b.before a = false)
    (hperm : found.Perm ((numbered [] clocks).map nameOf)) (hsorted : found.Pairwise fun a b => b < a) :
    found.head? = clocks.getLast?.map fun clock => name clock.stamp 0 := by
  induction clocks using List.reverseRecOn with
  | nil => rw [List.perm_nil.mp hperm]; rfl
  | append_singleton clocks last =>
    rw [List.getLast?_concat, Option.map_some]
    have hfirst : nameOf (last, 0) ∈ found :=
      hperm.mem_iff.mpr (List.mem_map_of_mem (mem_numbered.mpr (by simp)))
    refine head?_of_pairwise hsorted hfirst fun y hy => ?_
    obtain ⟨⟨clock, number⟩, hpair, rfl⟩ := List.mem_map.mp (hperm.mem_iff.mp hy)
    by_cases heq : clock = last
    · subst heq
      cases number with
      | zero => exact le_rfl
      | succ number => exact (name_succ_lt clock.stamp number).le
    · have hbefore : clock ∈ clocks := by
        simpa [heq] using fst_mem hpair
      have hnot : last.before clock = false :=
        (List.pairwise_append.mp hclock).2.2 clock hbefore last (by simp)
      rcases Instant.before_or_before heq with hlt | hlt
      · exact (name_lt_of_before hlt (hyears clock (fst_mem hpair)) number 0).le
      · exact absurd hlt (by simp [hnot])

/-- What is saved in an empty folder is listed, the greatest name first. -/
theorem exists_listed {disk : Disk} {folder : FilePath} {requests : List (Instant × Slice Json)}
    {paths : List FilePath} (hfolder : disk.find? folder = .ok (some .folder))
    (hempty : ∀ here, disk.place folder = .ok here → disk.children here = [])
    (hall : (saveAll disk folder requests).1 = paths.map .ok)
    (hyear : ∀ request ∈ requests, 1000 ≤ request.1.year) :
    paths = (numbered [] (requests.map Prod.fst)).map (fun pair => folder.child (nameOf pair)) ∧
    ∃ found, names (saveAll disk folder requests).2 folder = .ok found ∧
      found.Perm ((numbered [] (requests.map Prod.fst)).map nameOf) ∧
      found.Pairwise fun a b => b < a := by
  obtain ⟨here, hplace, hentry⟩ := Disk.find?_eq_some hfolder
  have hholds : Holds disk folder here [] := ⟨hplace, hentry, hempty here hplace⟩
  obtain ⟨hpaths, hlast⟩ := hholds.saveAll (by simp) hyear hall
  rw [List.nil_append] at hlast
  have hsaved : savedPaths (saveAll disk folder requests).1 = paths := by
    rw [hall, savedPaths, List.filterMap_map]
    exact List.filterMap_some
  have hfiles : ∀ name ∈ (saveAll disk folder requests).2.children here,
      (saveAll disk folder requests).2.isFile (folder.child name) = .ok true := by
    intro name hname
    rw [hlast.children] at hname
    obtain ⟨pair, hpair, rfl⟩ := List.mem_map.mp hname
    have hpath : folder.child (nameOf pair) ∈ savedPaths (saveAll disk folder requests).1 := by
      rw [hsaved, hpaths]
      exact List.mem_map_of_mem hpair
    obtain ⟨content, hfind⟩ := (written_of_mem_savedPaths hpath).2.find?
    rw [Disk.isFile, hfind]
    rfl
  exact ⟨hpaths, hlast.listed (by simpa using hyear) hfiles⟩

/-- If slices are saved in an empty folder at readings of the clock that do not go back, and all of them
are saved, then all of them are listed, those of a later reading before those of an earlier one. Of those of
one reading the first one, which has no number, comes first; so the last snapshot is the first one of the
last reading. If the clock goes forward every time, then they are listed in the reverse of the order in
which they were saved. -/
theorem saveAll_listed {disk : Disk} {folder : FilePath} {requests : List (Instant × Slice Json)}
    {paths : List FilePath} (hfolder : disk.find? folder = .ok (some .folder))
    (hempty : ∀ here, disk.place folder = .ok here → disk.children here = [])
    (hall : (saveAll disk folder requests).1 = paths.map .ok)
    (hclock : (requests.map Prod.fst).Pairwise fun a b => b.before a = false)
    (hyear : ∀ request ∈ requests, 1000 ≤ request.1.year) :
    let clocks := requests.map Prod.fst
    let last := (saveAll disk folder requests).2
    paths = (numbered [] clocks).map (fun pair => folder.child (nameOf pair)) ∧
    ((numbered [] clocks).Pairwise fun a b =>
      (a.1.before b.1 = true → nameOf a < nameOf b) ∧ (a.1 = b.1 → a.2 = 0 → nameOf b < nameOf a)) ∧
    ∃ found, names last folder = .ok found ∧
      found.Perm (paths.map FilePath.name) ∧ (found.Pairwise fun a b => b < a) ∧
      latest? last folder = .ok (clocks.getLast?.map fun clock => name clock.stamp 0) ∧
      ((clocks.Pairwise fun a b => a.before b = true) → found = (paths.map FilePath.name).reverse) := by
  obtain ⟨hpaths, found, hlisted, hperm, hsorted⟩ := exists_listed hfolder hempty hall hyear
  have hyears : ∀ clock ∈ requests.map Prod.fst, 1000 ≤ clock.year := by simpa using hyear
  have hnames : paths.map FilePath.name = (numbered [] (requests.map Prod.fst)).map nameOf := by
    rw [hpaths, List.map_map]
    exact List.map_congr_left fun pair _ => (name_isName pair.1 pair.2).name_child folder
  refine ⟨hpaths, pairwise_nameOf hyears, found, hlisted, hnames ▸ hperm, hsorted, ?_, fun hstrict => ?_⟩
  · rw [latest?, hlisted, Except.map, Except.ok.injEq]
    exact head?_listed hyears hclock hperm hsorted
  · rw [hnames]
    refine hperm.trans (List.reverse_perm _).symm |>.eq_of_pairwise
      (fun a b _ _ hba hab => absurd hab (lt_asymm hba)) hsorted (List.pairwise_reverse.mpr ?_)
    rw [← map_fst_numbered [] (requests.map Prod.fst), List.pairwise_map] at hstrict
    exact List.pairwise_map.mpr ((hstrict.and (pairwise_nameOf hyears)).imp fun h => h.2.1 h.1)

end

/-! ## Two snapshots of one reading -/

/-- The path of a folder. -/
def out : FilePath := ⟨0, ["out"]⟩

/-- The name of the snapshot with a number of one reading of the clock. -/
def sameReading (number : Nat) : String := name (Instant.stamp default) number

/-- A disk with a folder in which there are the snapshots of these names. -/
def filled (names : List String) : Disk :=
  ⟨(["out"], .folder) :: names.map fun name => (["out", name], .file (.text (text {})))⟩

theorem place_out (names : List String) : (filled names).place out = .ok ["out"] := by
  rw [Disk.place_of_nullFree (by decide)]
  rfl

theorem find?_out (names : List String) : (filled names).find? out = .ok (some .folder) := by
  rw [Disk.find?_of_place (place_out names)]
  rfl

section
variable {names : List String} {clock : Instant} {number : Nat}

theorem place_filled (names : List String)
    (hshort : (name clock.stamp number).utf8ByteSize ≤ Disk.nameLimit) :
    (filled names).place (out.child (name clock.stamp number)) = .ok ["out", name clock.stamp number] := by
  have hname : FilePath.IsName (name clock.stamp number) := name_isName clock number
  have hout : out.text.utf8ByteSize = 3 := by decide
  refine Disk.place_child_eq hname (place_out names) rfl (null_notMem_name clock number) hshort ?_
  rw [hname.size_child (by decide), hout]
  exact Nat.le_trans (Nat.add_le_add_left hshort 4) (by decide)

/-- Whether there is a snapshot in the folder is told by its name. -/
theorem has_filled (hshort : (name clock.stamp number).utf8ByteSize ≤ Disk.nameLimit) :
    (filled names).has (out.child (name clock.stamp number)) =
      .ok (Disk.entry? (filled names) ["out", name clock.stamp number]).isSome := by
  rw [Disk.has, Disk.find?_of_place (place_filled names hshort)]
  rfl

/-- Where a search ends at a free name, a snapshot is saved under it after those that are there. -/
theorem save_filled (hshort : (name clock.stamp number).utf8ByteSize ≤ Disk.nameLimit)
    (hsearch : Search (filled names) out clock.stamp 0 (.ok (out.child (name clock.stamp number))))
    (hnew : ["out", name clock.stamp number] ∉ Assoc.keys (filled names).entries) :
    save (filled names) out clock {} =
      (.ok (out.child (name clock.stamp number)), filled (names ++ [name clock.stamp number])) := by
  rw [save_eq_ok (write_of_search (find?_out names) hsearch (place_filled names hshort)) (by decide),
    Assoc.put_of_notMem hnew]
  simp [filled]

end

/-- The second snapshot of a reading gets the number one. -/
theorem saveAll_twice : saveAll (filled []) out [(default, {}), (default, {})] =
    ([.ok (out.child (sameReading 0)), .ok (out.child (sameReading 1))],
      filled [sameReading 0, sameReading 1]) := by
  have hfree : (filled []).has (out.child (sameReading 0)) = .ok false := by
    rw [sameReading, has_filled (by decide)]
    decide
  have htaken : (filled [sameReading 0]).has (out.child (sameReading 0)) = .ok true := by
    rw [sameReading, has_filled (by decide)]
    decide
  have hfree' : (filled [sameReading 0]).has (out.child (sameReading 1)) = .ok false := by
    rw [sameReading, sameReading, has_filled (by decide)]
    decide
  have hfirst : save (filled []) out default {} =
      (.ok (out.child (sameReading 0)), filled [sameReading 0]) :=
    save_filled (by decide) (.free hfree) (by decide)
  have hsecond : save (filled [sameReading 0]) out default {} =
      (.ok (out.child (sameReading 1)), filled [sameReading 0, sameReading 1]) :=
    save_filled (by decide) (.taken htaken (.free hfree')) (by decide)
  rw [saveAll_cons, hfirst, saveAll_cons, hsecond]
  rfl

theorem children_out (here : Place) (h : (filled []).place out = .ok here) :
    (filled []).children here = [] := by
  cases (place_out []).symm.trans h
  decide

theorem saveAll_listed_twice :
    (saveAll (filled []) out [(default, {}), (default, {})]).1 =
        [out.child (sameReading 0), out.child (sameReading 1)].map .ok ∧
      latest? (saveAll (filled []) out [(default, {}), (default, {})]).2 out =
        .ok (some (sameReading 0)) := by
  have hall : (saveAll (filled []) out [(default, {}), (default, {})]).1 =
      [out.child (sameReading 0), out.child (sameReading 1)].map .ok := by
    rw [saveAll_twice]
    rfl
  obtain ⟨-, -, found, -, -, -, hlatest, -⟩ :=
    saveAll_listed (find?_out []) children_out hall (by decide) (by decide)
  exact ⟨hall, hlatest⟩

/-- Newest first they are not: of two snapshots of one reading the second one is not the first that is
listed. -/
theorem not_forall_newest_first :
    ¬ ∀ (disk : Disk) (folder : FilePath) (requests : List (Instant × Slice Json)) (paths : List FilePath),
      disk.find? folder = .ok (some .folder) →
      (∀ here, disk.place folder = .ok here → disk.children here = []) →
      (saveAll disk folder requests).1 = paths.map .ok →
      ((requests.map Prod.fst).Pairwise fun a b => b.before a = false) →
      names (saveAll disk folder requests).2 folder = .ok (paths.map FilePath.name).reverse ∧
        latest? (saveAll disk folder requests).2 folder = .ok (paths.map FilePath.name).getLast? := by
  intro h
  have hall : (saveAll (filled []) out [(default, {}), (default, {})]).1 =
      [out.child (sameReading 0), out.child (sameReading 1)].map .ok := by
    rw [saveAll_twice]
    rfl
  obtain ⟨-, hlatest⟩ := h (filled []) out _ _ (find?_out []) children_out hall (by decide)
  obtain ⟨-, found, hlisted, hperm, hsorted⟩ :=
    exists_listed (find?_out []) children_out hall (by decide)
  have hfirst := head?_listed (by decide) (by decide) hperm hsorted
  rw [latest?, hlisted, Except.map, Except.ok.injEq, hfirst] at hlatest
  have hsame : some (sameReading 0) = some (out.child (sameReading 1)).name := hlatest
  have hname : (out.child (sameReading 1)).name = sameReading 1 := (name_isName default 1).name_child out
  rw [hname, Option.some.injEq] at hsame
  exact absurd (name_injective _ hsame) (by decide)

end ContextSlice.Snapshot
