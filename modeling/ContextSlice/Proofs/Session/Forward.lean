import ContextSlice.Proofs.Index.Lookup
import ContextSlice.Session.Closure
import Mathlib.Order.Bounds.Basic

/-!
# Following references forward

The forward part of a closure is the least set of ids that has the seeds and, with an id of the
index, all ids of the index that its object refers to (`Session.ReferenceClosed`). What
`Session.spread` keeps from step to step is that an id which is known waits in the queue or has been
settled (`Session.Settled`): all ids that it refers to are known.
-/

namespace ContextSlice

namespace Session

variable (session : Session)

/-- A set of ids is closed if it has every id of the index that an object found under one of its
ids refers to, itself or inside. -/
def ReferenceClosed (ids : Set String) : Prop :=
  ∀ id ∈ ids, ∀ node, session.index.node? id = some node →
    ∀ ref ∈ session.references node, session.index.has ref = true → ref ∈ ids

/-- An id is settled when all ids of the index that it refers to are known. -/
def Settled (known : List String) (id : String) : Prop :=
  ∀ ref ∈ session.referencesOf id, session.index.has ref = true → ref ∈ known

section
variable {session} {known queue seeds : List String} {id ref : String}

/-- The references of an id are those of the object that is found under it. -/
theorem mem_referencesOf :
    ref ∈ session.referencesOf id ↔
      ∃ node, session.index.node? id = some node ∧ ref ∈ session.references node := by
  unfold referencesOf
  cases session.index.node? id <;> simp

/-- An id that the index does not have refers to nothing. -/
theorem Settled.of_not_has (h : session.index.has id ≠ true) : session.Settled known id := by
  intro ref hr
  obtain ⟨node, hn, -⟩ := mem_referencesOf.mp hr
  exact absurd (Index.node?_isSome_iff.mp (hn ▸ rfl)) h

/-- An id stays settled when more ids are known. -/
theorem Settled.mono {more : List String} (h : session.Settled known id) (hk : known ⊆ more) :
    session.Settled more id :=
  fun ref hr hi => hk (h ref hr hi)

/-- A list of ids is closed if all of them are settled. -/
theorem ReferenceClosed.of_settled (h : ∀ id ∈ known, session.Settled known id) :
    session.ReferenceClosed {id | id ∈ known} :=
  fun id hid node hn ref hr hi => h id hid ref (mem_referencesOf.mpr ⟨node, hn, hr⟩) hi

/-- An id is settled once the new ones among its references are known. -/
theorem settled_append_newIds :
    session.Settled (known ++ session.newIds known (session.referencesOf id)) id := by
  intro ref hr hi
  rw [List.mem_append]
  by_cases hk : ref ∈ known
  · exact .inl hk
  · exact .inr ((session.mem_newIds).mpr ⟨hr, Index.has_iff.mp hi, hk⟩)

/-! ## The queue -/

@[simp] theorem spread_nil : session.spread known [] = (known, []) := by rw [spread]

/-- A step takes the first id off the queue, and puts the new ones among its references on it. -/
theorem spread_cons :
    session.spread known (id :: queue) =
      let found := session.newIds known (session.referencesOf id)
      let rest := session.spread (known ++ found) (queue ++ found)
      (rest.1, (known ++ found).length :: rest.2) := by
  rw [spread]

/-- Induction along the queue, over what is known, the queue, what is known in the end and the
numbers of known ids after the steps. -/
theorem spread_induction {motive : List String → List String → List String → List Nat → Prop}
    (done : ∀ known, motive known [] known [])
    (step : ∀ known id queue found all sizes,
      found = session.newIds known (session.referencesOf id) →
      motive (known ++ found) (queue ++ found) all sizes →
      motive known (id :: queue) all ((known ++ found).length :: sizes))
    (known queue : List String) :
    motive known queue (session.spread known queue).1 (session.spread known queue).2 := by
  induction known, queue using spread.induct session with
  | case1 known => simpa using done known
  | case2 known id queue =>
    rename_i ih
    rw [spread_cons]
    exact step known id queue _ _ _ rfl ih

/-- Sessions that know the same ids, and in which these refer to the same, find the same from a queue. -/
theorem spread_congr {left right : Session} (hh : ∀ id, left.index.has id = right.index.has id)
    (hr : ∀ id, left.referencesOf id = right.referencesOf id) (known queue : List String) :
    left.spread known queue = right.spread known queue := by
  induction known, queue using spread.induct left with
  | case1 known => rw [spread_nil, spread_nil]
  | case2 known id queue =>
    rename_i found _ _ _ ih
    have hfound : right.newIds known (right.referencesOf id) = found := by
      simp only [found, newIds, hr, hh]
    rw [spread_cons, spread_cons, hfound]
    dsimp only
    rw [← ih]

/-- What is known stays known. -/
theorem subset_spread (known queue : List String) : known ⊆ (session.spread known queue).1 := by
  apply spread_induction (motive := fun known _ all _ => known ⊆ all)
  case done => exact List.Subset.refl
  case step =>
    intro known id queue found all sizes hf ih
    exact List.Subset.trans (List.subset_append_left known found) ih

/-- If every known id waits in the queue or is settled, then in the end all of them are. -/
theorem settled_spread (known queue : List String) :
    (∀ id ∈ known, id ∈ queue ∨ session.Settled known id) →
      ∀ id ∈ (session.spread known queue).1,
        session.Settled (session.spread known queue).1 id := by
  apply spread_induction (motive := fun known queue all _ =>
    (∀ id ∈ known, id ∈ queue ∨ session.Settled known id) → ∀ id ∈ all, session.Settled all id)
  case done => exact fun known h id hid => (h id hid).resolve_left List.not_mem_nil
  case step =>
    intro known first queue found all sizes hf ih h
    refine ih fun id hid => ?_
    rcases List.mem_append.mp hid with hid | hid
    · rcases h id hid with hq | hs
      · rcases List.mem_cons.mp hq with rfl | hq
        · subst hf
          exact .inr settled_append_newIds
        · exact .inl (List.mem_append_left found hq)
      · exact .inr (hs.mono (List.subset_append_left known found))
    · exact .inl (List.mem_append_right queue hid)

/-- Nothing becomes known but what a closed set has that has all that is known and all that
waits. -/
theorem spread_subset {ids : Set String} (hc : session.ReferenceClosed ids)
    (known queue : List String) :
    (∀ id ∈ known, id ∈ ids) → (∀ id ∈ queue, id ∈ ids) →
      ∀ id ∈ (session.spread known queue).1, id ∈ ids := by
  apply spread_induction (motive := fun known queue all _ =>
    (∀ id ∈ known, id ∈ ids) → (∀ id ∈ queue, id ∈ ids) → ∀ id ∈ all, id ∈ ids)
  case done => exact fun known hk _ => hk
  case step =>
    intro known first queue found all sizes hf ih hk hq
    have hfound : ∀ id ∈ found, id ∈ ids := by
      intro id hid
      obtain ⟨hr, hi, -⟩ := session.mem_newIds.mp (hf ▸ hid)
      obtain ⟨node, hn, hr⟩ := mem_referencesOf.mp hr
      exact hc first (hq first List.mem_cons_self) node hn id hr (Index.has_iff.mpr hi)
    refine ih (fun id hid => ?_) fun id hid => ?_
    · exact (List.mem_append.mp hid).elim (hk id) (hfound id)
    · exact (List.mem_append.mp hid).elim (fun h => hq id (List.mem_cons_of_mem first h))
        (hfound id)

/-! ## The least closed set -/

/-- The forward part has the seeds. -/
theorem subset_forward (seeds : List String) : seeds ⊆ session.forward seeds :=
  fun _ hid => subset_spread _ _ (mem_distinct.mpr hid)

/-- The forward part is closed: in the beginning every seed waits in the queue, or else is not an
id of the index and so refers to nothing. -/
theorem referenceClosed_forward (seeds : List String) :
    session.ReferenceClosed {id | id ∈ session.forward seeds} := by
  refine .of_settled (settled_spread _ _ fun id hid => ?_)
  by_cases hi : session.index.has id = true
  · exact .inl (Index.mem_sortIds.mpr ⟨hid, hi⟩)
  · exact .inr (.of_not_has hi)

/-- A closed set that has the seeds has the forward part. -/
theorem forward_subset {ids : Set String} (hc : session.ReferenceClosed ids)
    (hs : ∀ id ∈ seeds, id ∈ ids) : ∀ id ∈ session.forward seeds, id ∈ ids :=
  spread_subset hc _ _ (fun id hid => hs id (mem_distinct.mp hid))
    fun id hid => hs id (mem_distinct.mp (Index.mem_sortIds.mp hid).1)

/-- All that is in the forward part, but for the seeds, is in the index. -/
theorem mem_or_has_of_mem_forward (h : id ∈ session.forward seeds) :
    id ∈ seeds ∨ session.index.has id = true := by
  have hc : session.ReferenceClosed {id | id ∈ seeds ∨ session.index.has id = true} :=
    fun _ _ _ _ _ _ hi => .inr hi
  exact forward_subset hc (fun _ hs => .inl hs) id h

/-- More seeds have a larger forward part. -/
theorem forward_mono {more : List String} (h : seeds ⊆ more) :
    session.forward seeds ⊆ session.forward more :=
  forward_subset (referenceClosed_forward more) fun _ hid => subset_forward more (h hid)

end

/-- The forward part of a closure is the least closed set that has the seeds. So it has nothing
that is neither a seed nor in the index, it grows with the seeds, and it is its own forward part. -/
theorem forward_isLeast (seeds : List String) :
    IsLeast {ids : Set String | (∀ id ∈ seeds, id ∈ ids) ∧ session.ReferenceClosed ids}
        {id | id ∈ session.forward seeds} ∧
      (∀ id ∈ session.forward seeds, id ∈ seeds ∨ session.index.has id = true) ∧
      seeds ⊆ session.forward seeds ∧
      (∀ more : List String, seeds ⊆ more → session.forward seeds ⊆ session.forward more) ∧
      ∀ id, id ∈ session.forward (session.forward seeds) ↔ id ∈ session.forward seeds := by
  refine ⟨⟨⟨subset_forward seeds, referenceClosed_forward seeds⟩, ?_⟩,
    fun id => mem_or_has_of_mem_forward, subset_forward seeds, fun more => forward_mono,
    fun id => ⟨?_, fun hid => subset_forward _ hid⟩⟩
  · rintro ids ⟨hs, hc⟩ id hid
    exact forward_subset hc hs id hid
  · exact fun hid => forward_subset (referenceClosed_forward seeds) (fun _ h => h) id hid

end Session

end ContextSlice
