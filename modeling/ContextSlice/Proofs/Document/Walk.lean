import ContextSlice.Document.Walk
import Mathlib.Data.List.Nodup

/-!
# What a walk visits

The equations of `Document.walkFrom`, one for each thing that can wait uppermost on its stack, and
the induction that follows them (`Document.walkFrom_induction`): nothing waits, the uppermost value
is passed over, or a new place is gone to, which is that of an object or of a sequence. By this
induction a walk visits objects only (`Document.variant_of_mem_walk`), each of them once
(`Document.nodup_walk`), and none before the object that it is said to lie in
(`Document.parentsFirst_walk`).
-/

namespace ContextSlice

namespace Document

section
variable {doc : Document} {start : Value} {skip : List String}
variable {parent : Option Nat} {path : List PathPart} {stack : List Pending} {seen : List Nat}
variable {place : Nat}

/-- The values of variant `object` are the references to objects. -/
theorem variant_eq_object_iff :
    doc.variant (.ref place) = .object ↔
      ∃ members, doc.containers[place]? = some (.object members) := by
  unfold variant container?
  split <;> simp_all

/-- A value that refers to an object is a reference to its place. -/
theorem eq_ref_of_object?_eq_some {value : Value} (h : doc.object? value = some place) :
    value = .ref place := by
  unfold object? at h
  split at h
  · split at h
    · cases h
      rfl
    · cases h
  · cases h

/-! ## The steps of a walk -/

@[simp] theorem walkFrom_nil : doc.walkFrom start skip [] seen = [] := by rw [walkFrom]

/-- A leaf is passed over. -/
@[simp] theorem walkFrom_leaf {leaf : Json} :
    doc.walkFrom start skip (⟨.leaf leaf, parent, path⟩ :: stack) seen =
      doc.walkFrom start skip stack seen := by
  rw [walkFrom]

/-- A place that the walk has been to is passed over. -/
theorem walkFrom_of_mem (hs : place ∈ seen) :
    doc.walkFrom start skip (⟨.ref place, parent, path⟩ :: stack) seen =
      doc.walkFrom start skip stack seen := by
  rw [walkFrom, dif_pos hs]

/-- A reference that points nowhere is passed over. -/
theorem walkFrom_dangling (hs : place ∉ seen) (hc : doc.containers[place]? = none) :
    doc.walkFrom start skip (⟨.ref place, parent, path⟩ :: stack) seen =
      doc.walkFrom start skip stack seen := by
  rw [walkFrom, dif_neg hs]
  split
  · rfl
  · rename_i h; cases hc.symm.trans h
  · rename_i h; cases hc.symm.trans h

/-- A new object is visited, and its members are gone into before the rest of the stack. -/
theorem walkFrom_object {members : List (String × Value)} (hs : place ∉ seen)
    (hc : doc.containers[place]? = some (.object members)) :
    doc.walkFrom start skip (⟨.ref place, parent, path⟩ :: stack) seen =
      ⟨place, parent, path⟩ :: doc.walkFrom start skip
        (followed (if .ref place = start then skip else []) place members ++ stack)
        (place :: seen) := by
  rw [walkFrom, dif_neg hs]
  split
  · rename_i h; cases hc.symm.trans h
  · rename_i h; cases hc.symm.trans h; rfl
  · rename_i h; cases hc.symm.trans h

/-- The items of a new sequence are gone into before the rest of the stack. -/
theorem walkFrom_sequence {items : List Value} (hs : place ∉ seen)
    (hc : doc.containers[place]? = some (.sequence items)) :
    doc.walkFrom start skip (⟨.ref place, parent, path⟩ :: stack) seen =
      doc.walkFrom start skip (positioned parent path items ++ stack) (place :: seen) := by
  rw [walkFrom, dif_neg hs]
  split
  · rename_i h; cases hc.symm.trans h
  · rename_i h; cases hc.symm.trans h
  · rename_i h; cases hc.symm.trans h; rfl

/-- Induction along a walk, over its stack, the places that it has been to and the visits that it
goes on to make. The three ways of passing over a value are one case. -/
theorem walkFrom_induction {motive : List Pending → List Nat → List Visit → Prop}
    (done : ∀ seen, motive [] seen [])
    (pass : ∀ pending stack seen visits, motive stack seen visits →
      motive (pending :: stack) seen visits)
    (object : ∀ place parent path stack seen members visits, place ∉ seen →
      doc.containers[place]? = some (.object members) →
      motive (followed (if .ref place = start then skip else []) place members ++ stack)
        (place :: seen) visits →
      motive (⟨.ref place, parent, path⟩ :: stack) seen (⟨place, parent, path⟩ :: visits))
    (sequence : ∀ place parent path stack seen items visits, place ∉ seen →
      doc.containers[place]? = some (.sequence items) →
      motive (positioned parent path items ++ stack) (place :: seen) visits →
      motive (⟨.ref place, parent, path⟩ :: stack) seen visits)
    (stack : List Pending) (seen : List Nat) :
    motive stack seen (doc.walkFrom start skip stack seen) := by
  induction stack, seen using walkFrom.induct doc start skip with
  | case1 seen => simpa using done seen
  | case2 seen leaf parent path stack ih => simpa using pass _ _ _ _ ih
  | case3 seen place parent path stack hs ih =>
    rw [walkFrom_of_mem hs]
    exact pass _ _ _ _ ih
  | case4 seen place parent path stack hs hc ih =>
    rw [walkFrom_dangling hs hc]
    exact pass _ _ _ _ ih
  | case5 seen place parent path stack hs members hc skipped ih =>
    rw [walkFrom_object hs hc]
    exact object _ _ _ _ _ _ _ hs hc ih
  | case6 seen place parent path stack hs items hc ih =>
    rw [walkFrom_sequence hs hc]
    exact sequence _ _ _ _ _ _ _ hs hc ih

/-! ## The values that wait -/

/-- What a walk follows from an object: the values of its members that are neither internal nor
skipped, each with the object as its parent and with the member's name as its path. -/
theorem mem_followed {skipped : List String} {members : List (String × Value)} {pending : Pending} :
    pending ∈ followed skipped place members ↔ ∃ name value, (name, value) ∈ members ∧
      isInternal name = false ∧ name ∉ skipped ∧
      pending = ⟨value, some place, [.member name]⟩ := by
  simp only [followed, List.mem_map, List.mem_filter, Bool.and_eq_true, Bool.not_eq_true',
    List.contains_eq_mem, decide_eq_false_iff_not, Prod.exists]
  constructor
  · rintro ⟨name, value, ⟨hm, hi, hs⟩, rfl⟩
    exact ⟨name, value, hm, hi, hs, rfl⟩
  · rintro ⟨name, value, hm, hi, hs, rfl⟩
    exact ⟨name, value, ⟨hm, hi, hs⟩, rfl⟩

/-- What a walk follows from a sequence: its items, each with the parent of the sequence. -/
theorem parent_of_mem_positioned {items : List Value} {pending : Pending}
    (h : pending ∈ positioned parent path items) :
    pending.value ∈ items ∧ pending.parent = parent := by
  obtain ⟨⟨value, position⟩, hv, rfl⟩ := List.mem_map.mp h
  exact ⟨List.fst_mem_of_mem_zipIdx hv, rfl⟩

/-! ## What is visited -/

/-- A walk visits no place that it has been to before. -/
theorem not_mem_of_mem_walkFrom :
    ∀ visit ∈ doc.walkFrom start skip stack seen, visit.node ∉ seen := by
  apply walkFrom_induction (motive := fun _ seen visits => ∀ visit ∈ visits, visit.node ∉ seen)
  case done => exact fun _ _ hv => absurd hv List.not_mem_nil
  case pass => exact fun _ _ _ _ ih => ih
  case object =>
    intro place parent path stack seen members visits hs hc ih visit hv
    rcases List.mem_cons.mp hv with rfl | hv
    · exact hs
    · exact fun h => ih visit hv (List.mem_cons_of_mem place h)
  case sequence =>
    intro place parent path stack seen items visits hs hc ih visit hv h
    exact ih visit hv (List.mem_cons_of_mem place h)

/-- A walk visits objects only. -/
theorem variant_of_mem_walkFrom :
    ∀ visit ∈ doc.walkFrom start skip stack seen, doc.variant (.ref visit.node) = .object := by
  apply walkFrom_induction
    (motive := fun _ _ visits => ∀ visit ∈ visits, doc.variant (.ref visit.node) = .object)
  case done => exact fun _ _ hv => absurd hv List.not_mem_nil
  case pass => exact fun _ _ _ _ ih => ih
  case object =>
    intro place parent path stack seen members visits hs hc ih visit hv
    rcases List.mem_cons.mp hv with rfl | hv
    · exact variant_eq_object_iff.mpr ⟨members, hc⟩
    · exact ih visit hv
  case sequence => exact fun _ _ _ _ _ _ _ _ _ ih => ih

/-- A walk visits no object twice: when it visits one it has been to its place, so the rest of the
walk does not come there (`not_mem_of_mem_walkFrom`). -/
theorem nodup_walkFrom (stack : List Pending) (seen : List Nat) :
    ((doc.walkFrom start skip stack seen).map Visit.node).Nodup := by
  induction stack, seen using walkFrom.induct doc start skip with
  | case1 seen => simp
  | case2 seen leaf parent path stack ih => simpa using ih
  | case3 seen place parent path stack hs ih => rwa [walkFrom_of_mem hs]
  | case4 seen place parent path stack hs hc ih => rwa [walkFrom_dangling hs hc]
  | case5 seen place parent path stack hs members hc skipped ih =>
    rw [walkFrom_object hs hc, List.map_cons, List.nodup_cons]
    refine ⟨fun h => ?_, ih⟩
    obtain ⟨visit, hv, hn⟩ := List.mem_map.mp h
    exact not_mem_of_mem_walkFrom visit hv (hn ▸ List.mem_cons_self)
  | case6 seen place parent path stack hs items hc ih => rwa [walkFrom_sequence hs hc]

/-- Every visit comes after that of its parent, or its parent is known before. -/
def ParentsFirst (known : List Nat) : List Visit → Prop
  | [] => True
  | visit :: visits =>
    (∀ outer, visit.parent = some outer → outer ∈ known) ∧
      ParentsFirst (visit.node :: known) visits

/-- The parent of a visit is known before or has been visited before it. -/
theorem ParentsFirst.mem {known : List Nat} {visits before after : List Visit} {visit : Visit}
    (h : ParentsFirst known visits) (hv : visits = before ++ visit :: after) {outer : Nat}
    (ho : visit.parent = some outer) : outer ∈ known ∨ outer ∈ before.map Visit.node := by
  induction before generalizing known visits with
  | nil =>
    subst hv
    exact .inl (h.1 outer ho)
  | cons first before ih =>
    subst hv
    rcases ih h.2 rfl with hm | hm
    · rcases List.mem_cons.mp hm with rfl | hm
      · exact .inr List.mem_cons_self
      · exact .inl hm
    · exact .inr (List.mem_cons_of_mem _ hm)

/-- If the parents of all values that wait are known, then a walk visits no object before its
parent. -/
theorem parentsFirst_walkFrom : ∀ known : List Nat,
    (∀ pending ∈ stack, ∀ outer, pending.parent = some outer → outer ∈ known) →
      ParentsFirst known (doc.walkFrom start skip stack seen) := by
  apply walkFrom_induction (motive := fun stack _ visits => ∀ known : List Nat,
    (∀ pending ∈ stack, ∀ outer, pending.parent = some outer → outer ∈ known) →
      ParentsFirst known visits)
  case done => exact fun _ _ _ => trivial
  case pass =>
    intro pending stack seen visits ih known hk
    exact ih known fun pending hp => hk pending (List.mem_cons_of_mem _ hp)
  case object =>
    intro place parent path stack seen members visits hs hc ih known hk
    refine ⟨hk _ List.mem_cons_self, ih _ fun pending hp outer ho => ?_⟩
    rcases List.mem_append.mp hp with hp | hp
    · obtain ⟨name, value, -, -, -, rfl⟩ := mem_followed.mp hp
      cases ho
      exact List.mem_cons_self
    · exact List.mem_cons_of_mem _ (hk pending (List.mem_cons_of_mem _ hp) outer ho)
  case sequence =>
    intro place parent path stack seen items visits hs hc ih known hk
    refine ih known fun pending hp outer ho => ?_
    rcases List.mem_append.mp hp with hp | hp
    · exact hk _ List.mem_cons_self outer ((parent_of_mem_positioned hp).2 ▸ ho)
    · exact hk pending (List.mem_cons_of_mem _ hp) outer ho

end

section
variable (doc : Document) (start : Value) (path : List PathPart) (skip : List String)

/-- The objects that are visited are all different. -/
theorem nodup_walk : ((doc.walk start path skip).map Visit.node).Nodup := nodup_walkFrom _ _

variable {doc start path skip}

/-- What is visited is an object. -/
theorem variant_of_mem_walk {visit : Visit} (hv : visit ∈ doc.walk start path skip) :
    doc.variant (.ref visit.node) = .object := variant_of_mem_walkFrom visit hv

/-- No object is visited before its parent. -/
theorem parentsFirst_walk : ParentsFirst [] (doc.walk start path skip) := by
  refine parentsFirst_walkFrom [] fun pending hp outer ho => ?_
  cases List.mem_singleton.mp hp
  cases ho

end

end Document

end ContextSlice
