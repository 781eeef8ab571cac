import ContextSlice.Proofs.Index.Entries
import ContextSlice.Proofs.Session.Forward

/-!
# The queue of the forward part

Which ids are taken off the queue while references are followed forward is said by a relation
(`Session.Drains`) that `Session.spread` follows (`Session.exists_drains`). What is found on the way
becomes known and is put at the end of the queue, so that the ids taken off are those that waited in
the beginning and those that became known (`Session.Drains.exists_found`). As only the seeds of the
index wait in the beginning, every id of the index that becomes known is taken off once and no other
one is (`Session.drains_forward`).
-/

namespace ContextSlice

namespace Session

/-- A queue is drained: from what is known and the ids in the queue, `taken` are the ids that are taken
off it one after another until it is empty, `all` is what is known then, and `sizes` are the numbers of
known ids after the steps. -/
inductive Drains (session : Session) :
    (known queue taken all : List String) → (sizes : List Nat) → Prop
  | done (known : List String) : Drains session known [] [] known []
  | step {known queue found taken all : List String} {sizes : List Nat} (id : String) :
      found = session.newIds known (session.referencesOf id) →
      Drains session (known ++ found) (queue ++ found) taken all sizes →
      Drains session known (id :: queue) (id :: taken) all ((known ++ found).length :: sizes)

section
variable {session : Session} {known queue taken all : List String} {sizes : List Nat}

/-- Following references drains the queue. -/
theorem exists_drains (known queue : List String) : ∃ taken,
    session.Drains known queue taken (session.spread known queue).1
      (session.spread known queue).2 := by
  apply spread_induction (motive := fun known queue all sizes =>
    ∃ taken, session.Drains known queue taken all sizes)
  case done => exact fun known => ⟨[], .done known⟩
  case step =>
    rintro known id queue found all sizes hf ⟨taken, h⟩
    exact ⟨id :: taken, .step id hf h⟩

/-- What is found on the way is what is taken off the queue after the ids that waited, and it is also
what becomes known. It consists of ids of the index that were not known, each once. -/
theorem Drains.exists_found (h : session.Drains known queue taken all sizes) :
    ∃ found, taken = queue ++ found ∧ all = known ++ found ∧ found.Nodup ∧
      ∀ id ∈ found, id ∈ session.index.keys ∧ id ∉ known := by
  induction h with
  | done known => exact ⟨[], rfl, (List.append_nil known).symm, List.nodup_nil, nofun⟩
  | @step known queue new taken all sizes first hnew _ ih =>
    obtain ⟨later, htaken, hall, hnodup, hlater⟩ := ih
    have hfresh : ∀ id ∈ new, id ∈ session.index.keys ∧ id ∉ known :=
      fun id hid => (session.mem_newIds.mp (hnew ▸ hid)).2
    refine ⟨new ++ later, ?_, ?_, ?_, fun id hid => ?_⟩
    · rw [htaken, List.cons_append, List.append_assoc]
    · rw [hall, List.append_assoc]
    · refine List.nodup_append.mpr ⟨hnew ▸ session.nodup_newIds _ _, hnodup, ?_⟩
      rintro id hid _ hlate rfl
      exact (hlater id hlate).2 (List.mem_append_right known hid)
    · rcases List.mem_append.mp hid with hid | hid
      · exact hfresh id hid
      · obtain ⟨hi, hk⟩ := hlater id hid
        exact ⟨hi, fun hknown => hk (List.mem_append_left new hknown)⟩

/-! ## The numbers of known ids -/

/-- There is one number for every id that is taken off. -/
theorem Drains.length_sizes (h : session.Drains known queue taken all sizes) :
    sizes.length = taken.length := by
  induction h with
  | done => rfl
  | step _ _ _ ih => rw [List.length_cons, List.length_cons, ih]

/-- From the number in the beginning on the numbers do not decrease. -/
theorem Drains.pairwise_sizes (h : session.Drains known queue taken all sizes) :
    (known.length :: sizes).Pairwise (· ≤ ·) := by
  induction h with
  | done => exact List.pairwise_singleton _ _
  | @step known _ found _ _ sizes _ _ _ ih =>
    have hgrows : known.length ≤ (known ++ found).length :=
      (List.sublist_append_left known found).length_le
    refine List.pairwise_cons.mpr ⟨fun size hs => ?_, ih⟩
    rcases List.mem_cons.mp hs with rfl | hs
    · exact hgrows
    · exact hgrows.trans (List.rel_of_pairwise_cons ih hs)

/-- No number is greater than that of all ids known in the end. -/
theorem Drains.le_length (h : session.Drains known queue taken all sizes) :
    ∀ size ∈ sizes, size ≤ all.length := by
  induction h with
  | done => exact nofun
  | @step known _ found _ all _ _ _ hrest ih =>
    obtain ⟨later, -, hall, -⟩ := hrest.exists_found
    refine List.forall_mem_cons.mpr ⟨?_, ih⟩
    rw [hall]
    exact (List.sublist_append_left (known ++ found) later).length_le

/-- The last one of the numbers, from the one in the beginning on, is that of all ids known in the
end. -/
theorem Drains.getLast?_sizes (h : session.Drains known queue taken all sizes) :
    (known.length :: sizes).getLast? = some all.length := by
  induction h with
  | done => rfl
  | step _ _ _ ih => rw [List.getLast?_cons_cons, ih]

/-! ## What is taken off -/

/-- If all known ids of the index wait, each once, and no others, then in the end the known ids of the
index have been taken off, each once, and no others. -/
theorem Drains.taken_perm (h : session.Drains known queue taken all sizes)
    (hq : queue.Perm (known.filter (· ∈ session.index.keys))) :
    taken.Perm (all.filter (· ∈ session.index.keys)) := by
  obtain ⟨found, rfl, rfl, -, hfound⟩ := h.exists_found
  have hkeys : found.filter (· ∈ session.index.keys) = found :=
    List.filter_eq_self.mpr fun id hid => decide_eq_true (hfound id hid).1
  rw [List.filter_append, hkeys]
  exact hq.append_right found

/-- If no id is known twice in the beginning, then none is in the end. -/
theorem Drains.nodup_all (h : session.Drains known queue taken all sizes) (hk : known.Nodup) :
    all.Nodup := by
  obtain ⟨found, -, rfl, hf, hfound⟩ := h.exists_found
  refine List.nodup_append.mpr ⟨hk, hf, ?_⟩
  rintro id hid _ hnew rfl
  exact (hfound id hnew).2 hid

end

/-- Following the references of a document forward from some seeds drains the queue of those that are
ids of the index. Every id of the index that is known in the end is taken off once and no other one is,
and after every step it is counted how many ids are known: these numbers do not decrease, they lie
between that of the seeds and that of all ids known in the end, and the last one is the latter. -/
theorem drains_forward (document : Document) (settings : Settings) (seeds : List String) :
    let session := ofDocument document settings
    let all := session.forward seeds
    let sizes := session.forwardTrace seeds
    (∃ taken,
        session.Drains (distinct seeds) (session.index.sortIds (distinct seeds)) taken all sizes ∧
        taken.Nodup ∧ ∀ id, id ∈ taken ↔ id ∈ all ∧ id ∈ session.index.keys) ∧
      all.Nodup ∧ sizes.length = (all.filter (· ∈ session.index.keys)).length ∧
      sizes.Pairwise (· ≤ ·) ∧
      (∀ size ∈ sizes, (distinct seeds).length ≤ size ∧ size ≤ all.length) ∧
      ∀ last ∈ sizes.getLast?, last = all.length := by
  intro session all sizes
  obtain ⟨taken, hdrains⟩ : ∃ taken, session.Drains (distinct seeds)
      (session.index.sortIds (distinct seeds)) taken all sizes := exists_drains ..
  have hwaiting : (session.index.sortIds (distinct seeds)).Perm
      ((distinct seeds).filter (· ∈ session.index.keys)) :=
    Index.sortIds_perm_filter (distinct seeds)
  have htaken : taken.Perm (all.filter (· ∈ session.index.keys)) := hdrains.taken_perm hwaiting
  have hall : all.Nodup := hdrains.nodup_all (nodup_distinct seeds)
  obtain ⟨hleast, hsorted⟩ := List.pairwise_cons.mp hdrains.pairwise_sizes
  refine ⟨⟨taken, hdrains, htaken.nodup_iff.mpr (hall.filter _), fun id => ?_⟩, hall,
    hdrains.length_sizes.trans htaken.length_eq, hsorted,
    fun size hs => ⟨hleast size hs, hdrains.le_length size hs⟩, fun last hl => ?_⟩
  · rw [htaken.mem_iff, List.mem_filter, decide_eq_true_eq]
  · have hlast := hdrains.getLast?_sizes
    rwa [List.getLast?_cons, Option.mem_def.mp hl, Option.getD_some, Option.some_inj] at hlast

end Session

end ContextSlice
