import ContextSlice.Proofs.Snapshot.Order

/-!
# Snapshots of earlier and later instants

The names of snapshots begin with their stamps, so the list of their names in descending order has no
snapshot of an earlier instant before one of a later instant, whatever the numbers in the names
(`Snapshot.pair_sublist_of_stamped`). It does not matter in which order they were saved, nor what else there
was in the folder (`Snapshot.saveAll_chronological`).
-/

namespace ContextSlice.Snapshot

/-- A name is that of a snapshot of an instant, with some number. -/
def Stamped (clock : Instant) (fileName : String) : Prop := ∃ number, fileName = name clock.stamp number

/-! ## Names in descending order -/

section
variable {found : List String} {x y : String} {earlier later : Instant}

/-- In a list in descending order the lesser one of two members comes last. -/
theorem pair_sublist_of_pairwise (h : found.Pairwise fun a b => b ≤ a) (hx : x ∈ found) (hy : y ∈ found)
    (hlt : x < y) : [y, x].Sublist found := by
  induction found with
  | nil => cases hx
  | cons first rest ih =>
    obtain ⟨hfirst, hrest⟩ := List.pairwise_cons.mp h
    rcases List.mem_cons.mp hy with rfl | hyrest
    · have hxrest : x ∈ rest := (List.mem_cons.mp hx).resolve_left hlt.ne
      exact (List.singleton_sublist.mpr hxrest).cons_cons y
    · rcases List.mem_cons.mp hx with rfl | hxrest
      · exact absurd (hfirst y hyrest) (not_le_of_gt hlt)
      · exact (ih hrest hxrest hyrest).cons first

/-- A name with an earlier stamp is smaller, as years have four digits. -/
theorem Stamped.lt (hx : Stamped earlier x) (hy : Stamped later y) (h : earlier.before later = true)
    (hyear : 1000 ≤ earlier.year) : x < y := by
  obtain ⟨m, rfl⟩ := hx
  obtain ⟨n, rfl⟩ := hy
  exact name_lt_of_before h hyear m n

/-- In a list in descending order a snapshot of an earlier instant comes after one of a later instant, and
nowhere before it. -/
theorem pair_sublist_of_stamped (h : found.Pairwise fun a b => b ≤ a) (hx : Stamped earlier x)
    (hy : Stamped later y) (hmx : x ∈ found) (hmy : y ∈ found) (hbefore : earlier.before later = true)
    (hyear : 1000 ≤ earlier.year) : [y, x].Sublist found ∧ ¬ [x, y].Sublist found := by
  have hlt := hx.lt hy hbefore hyear
  refine ⟨pair_sublist_of_pairwise h hmx hmy hlt, fun hpair => ?_⟩
  exact absurd (List.pairwise_iff_forall_sublist.mp h hpair) (not_le_of_gt hlt)

end

/-! ## Saving and listing -/

section
variable {disk : Disk} {folder path : FilePath} {requests : List (Instant × Slice Json)}

/-- A slice is saved at a path whose name has the stamp of its reading of the clock. -/
theorem stamped_of_mem_zip {request : Instant × Slice Json}
    (h : (request, .ok path) ∈ requests.zip (saveAll disk folder requests).1) :
    Stamped request.1 path.name ∧ path ∈ savedPaths (saveAll disk folder requests).1 := by
  induction requests generalizing disk with
  | nil => cases h
  | cons first rest ih =>
    obtain ⟨clock, slice⟩ := first
    rw [saveAll_cons] at h ⊢
    rw [mem_savedPaths_cons]
    rcases List.mem_cons.mp h with h | h
    · obtain ⟨rfl, hpath⟩ := Prod.mk.inj h
      have houtcome := outcome_save disk folder clock slice
      rw [← hpath] at houtcome ⊢
      cases houtcome with
      | saved hsearch =>
        obtain ⟨number, -, rfl, -⟩ := hsearch.exists_of_ok
        exact ⟨⟨number, (name_isName clock number).name_child folder⟩, .inl rfl⟩
    · exact (ih h).imp_right .inr

/-- Whatever is on a disk, and at whatever readings of the clock slices are saved in a folder of it, forward
or back: the names of the saved ones compare as the instants do, and when the snapshots are listed each of
them is there once, and none of an earlier instant stands before one of a later instant. They cannot be
listed only if the folder, or something in it that is none of them, has a path that is too long. -/
theorem saveAll_chronological (disk : Disk) (folder : FilePath) {requests : List (Instant × Slice Json)}
    (hyear : ∀ request ∈ requests, 1000 ≤ request.1.year) :
    let outcomes := requests.zip (saveAll disk folder requests).1
    let last := (saveAll disk folder requests).2
    (∀ earlier later path other, (earlier, .ok path) ∈ outcomes → (later, .ok other) ∈ outcomes →
      earlier.1.before later.1 = true → path.name < other.name) ∧
    match names last folder with
    | .ok found =>
      (∀ request path, (request, .ok path) ∈ outcomes → found.count path.name = 1) ∧
        ∀ earlier later path other, (earlier, .ok path) ∈ outcomes → (later, .ok other) ∈ outcomes →
          earlier.1.before later.1 = true →
            [other.name, path.name].Sublist found ∧ ¬ [path.name, other.name].Sublist found
    | .error fault => fault.problem = .tooLong ∧ ∀ request, (request, .ok fault.path) ∉ outcomes := by
  intro outcomes last
  have hyear' : ∀ request path, (request, .ok path) ∈ outcomes → 1000 ≤ request.1.year :=
    fun request path h => hyear request (List.of_mem_zip h).1
  refine ⟨fun earlier later path other hp ho hbefore => ?_, ?_⟩
  · exact (stamped_of_mem_zip hp).1.lt (stamped_of_mem_zip ho).1 hbefore (hyear' _ _ hp)
  · split
    · rename_i found hnames
      have hcount (request : Instant × Slice Json) (path : FilePath) (h : (request, .ok path) ∈ outcomes) :
          found.count path.name = 1 :=
        ((written_of_mem_savedPaths (stamped_of_mem_zip h).2).2.count_names hnames).2
      refine ⟨hcount, fun earlier later path other hp ho hbefore => ?_⟩
      have hmem (request : Instant × Slice Json) (path : FilePath) (h : (request, .ok path) ∈ outcomes) :
          path.name ∈ found := List.count_pos_iff.mp (by rw [hcount request path h]; decide)
      exact pair_sublist_of_stamped (pairwise_names hnames) (stamped_of_mem_zip hp).1
        (stamped_of_mem_zip ho).1 (hmem _ _ hp) (hmem _ _ ho) hbefore (hyear' _ _ hp)
    · rename_i fault hnames
      obtain ⟨hproblem, hfind⟩ := names_fault hnames
      refine ⟨hproblem, fun request h => ?_⟩
      obtain ⟨content, hfile⟩ := (written_of_mem_savedPaths (stamped_of_mem_zip h).2).2.find?
      cases hfind.symm.trans hfile

end

/-! ## A clock that goes back -/

/-- Two instants of one day. -/
def morning : Instant := ⟨2024, 12, 31, 8, 0, 0, 7, by decide, by decide⟩
@[inherit_doc morning] def evening : Instant := ⟨2024, 12, 31, 23, 59, 59, 999999, by decide, by decide⟩

/-- Slices that are saved in the evening, then by a clock that has been put back, and in the evening again. -/
def setBack : List (Instant × Slice Json) := [(evening, {}), (morning, {}), (evening, {})]

theorem saveAll_setBack : saveAll (filled []) out setBack =
    ([.ok (out.child (name evening.stamp 0)), .ok (out.child (name morning.stamp 0)),
      .ok (out.child (name evening.stamp 1))],
      filled [name evening.stamp 0, name morning.stamp 0, name evening.stamp 1]) := by
  have hfirst : save (filled []) out evening {} =
      (.ok (out.child (name evening.stamp 0)), filled [name evening.stamp 0]) := by
    refine save_filled (by decide) (.free ?_) (by decide)
    rw [has_filled (by decide)]
    decide
  have hsecond : save (filled [name evening.stamp 0]) out morning {} =
      (.ok (out.child (name morning.stamp 0)), filled [name evening.stamp 0, name morning.stamp 0]) := by
    refine save_filled (by decide) (.free ?_) (by decide)
    rw [has_filled (by decide)]
    decide
  have hthird : save (filled [name evening.stamp 0, name morning.stamp 0]) out evening {} =
      (.ok (out.child (name evening.stamp 1)),
        filled [name evening.stamp 0, name morning.stamp 0, name evening.stamp 1]) := by
    refine save_filled (by decide) (.taken ?_ (.free ?_)) (by decide)
    · rw [has_filled (by decide)]
      decide
    · rw [has_filled (by decide)]
      decide
  rw [setBack, saveAll_cons, hfirst, saveAll_cons, hsecond, saveAll_cons, hthird]
  rfl

/-- The snapshot of the morning is listed after those of the evening, also after the one with a number. -/
theorem saveAll_chronological_setBack : (∀ request ∈ setBack, 1000 ≤ request.1.year) ∧
    ∃ found, names (saveAll (filled []) out setBack).2 out = .ok found ∧
      [name evening.stamp 1, name morning.stamp 0].Sublist found := by
  have hyear : ∀ request ∈ setBack, 1000 ≤ request.1.year := by decide
  have hall : (saveAll (filled []) out setBack).1 =
      [out.child (name evening.stamp 0), out.child (name morning.stamp 0),
        out.child (name evening.stamp 1)].map .ok := by
    rw [saveAll_setBack]
    rfl
  obtain ⟨-, found, hnames, -⟩ := exists_listed (find?_out []) children_out hall hyear
  have hlisted := (saveAll_chronological (filled []) out hyear).2
  rw [hnames, hall] at hlisted
  obtain ⟨hpair, -⟩ := hlisted.2 (morning, {}) (evening, {}) (out.child (name morning.stamp 0))
    (out.child (name evening.stamp 1)) (by simp [setBack]) (by simp [setBack]) (by decide)
  rw [(name_isName evening 1).name_child, (name_isName morning 0).name_child] at hpair
  exact ⟨hyear, found, hnames, hpair⟩

end ContextSlice.Snapshot
