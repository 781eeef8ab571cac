import ContextSlice.Proofs.Document.RootApart
import ContextSlice.Proofs.Document.Trail
import ContextSlice.Proofs.Index.Registration

/-!
# The objects that a path leads through

`Document.holders` lists the objects to be indexed that a path leads through, the nearest to its end
first (`Document.mem_holders`). Between the object around a visited object and this one there is no
other: a walk goes from an object to its members, and through sequences only from there
(`Document.Direct`). So if one more visit is made, then the path to it leads through its object and those
through which the path to the object around it leads (`Document.holders_append`).
-/

namespace ContextSlice

namespace Document

section
variable (doc : Document)

/-- The place of the object that a value refers to, if it is one of those to be indexed. -/
def indexed? (value : Value) : Option Nat :=
  (doc.object? value).filter (· ∈ doc.nodes.map Visit.node)

/-- The objects to be indexed that a path leads through, the nearest to its end first, each with the rest
of the path from there. -/
def holders (value : Value) : List PathPart → List (Nat × List PathPart)
  | [] => (doc.indexed? value).toList.map (·, [])
  | part :: path =>
    (doc.step? value part).elim [] (holders · path) ++
      (doc.indexed? value).toList.map (·, part :: path)

/-- The path of a value that waits leads through no object between its ends, and it is not empty if there
is an object around. -/
structure Direct (pending : Pending) : Prop where
  inner : ∀ before after, pending.path = before ++ after → before ≠ [] → after ≠ [] →
    (doc.follow? (doc.origin pending.parent) before).bind doc.object? = none
  start : pending.path = [] → pending.parent = none

end

section
variable {doc : Document} {value mid : Value} {node : Nat} {path more rest : List PathPart}

/-- A path is followed step by step. -/
theorem follow?_cons {part : PathPart} :
    doc.follow? value (part :: path) = (doc.step? value part).bind (doc.follow? · path) :=
  List.foldlM_cons

/-- A sequence is no object. -/
theorem object?_eq_none_of_sequence {place : Nat} {items : List Value}
    (hc : doc.containers[place]? = some (.sequence items)) : doc.object? (.ref place) = none := by
  rw [object?, hc]

/-- An object is listed with the rest of the path if what is before the rest leads to it. -/
theorem mem_holders : (node, rest) ∈ doc.holders value path ↔
    ∃ before, path = before ++ rest ∧ (doc.follow? value before).bind doc.indexed? = some node := by
  induction path generalizing value with
  | nil =>
    simp only [holders, List.mem_map, Option.mem_toList, Prod.mk.injEq, List.nil_eq,
      List.append_eq_nil_iff]
    constructor
    · rintro ⟨_, hn, rfl, rfl⟩
      exact ⟨[], ⟨rfl, rfl⟩, hn⟩
    · rintro ⟨_, ⟨rfl, rfl⟩, hn⟩
      exact ⟨node, hn, rfl, rfl⟩
  | cons part path ih =>
    simp only [holders, List.mem_append, List.mem_map, Option.mem_toList, Prod.mk.injEq]
    constructor
    · rintro (hm | ⟨_, hn, rfl, rfl⟩)
      · cases hs : doc.step? value part with
        | none =>
          rw [hs] at hm
          cases hm
        | some inner =>
          rw [hs] at hm
          obtain ⟨before, rfl, hn⟩ := ih.mp hm
          refine ⟨part :: before, rfl, ?_⟩
          rw [follow?_cons, hs]
          exact hn
      · exact ⟨[], rfl, hn⟩
    · rintro ⟨before, hb, hn⟩
      cases before with
      | nil => exact .inr ⟨node, hn, rfl, hb⟩
      | cons first before =>
        obtain ⟨rfl, rfl⟩ := List.cons.inj hb
        rw [follow?_cons] at hn
        cases hs : doc.step? value part with
        | none =>
          rw [hs] at hn
          cases hn
        | some inner =>
          rw [hs] at hn
          exact .inl (ih.mpr ⟨before, rfl, hn⟩)

/-- Where a path leads through no object before its end, only the object there is listed. -/
theorem holders_of_bare
    (h : ∀ before after, path = before ++ after → after ≠ [] →
      (doc.follow? value before).bind doc.object? = none)
    (hf : doc.follow? value path = some (.ref node)) (hn : doc.indexed? (.ref node) = some node) :
    doc.holders value path = [(node, [])] := by
  induction path generalizing value with
  | nil =>
    cases hf
    rw [holders, hn]
    rfl
  | cons part path ih =>
    rw [follow?_cons] at hf
    obtain ⟨next, hs, hf⟩ := Option.bind_eq_some_iff.mp hf
    have hvalue : doc.object? value = none := h [] _ rfl (List.cons_ne_nil _ _)
    have hnext : doc.holders next path = [(node, [])] := by
      refine ih (fun before after hp ha => ?_) hf
      have hbefore := h (part :: before) after (congrArg _ hp) ha
      rwa [follow?_cons, hs] at hbefore
    rw [holders, hs, indexed?, hvalue]
    exact congrArg (· ++ []) hnext

/-- Where a path leads through no object between its ends, only the objects there are listed. -/
theorem holders_of_direct (hp : path ≠ [])
    (h : ∀ before after, path = before ++ after → before ≠ [] → after ≠ [] →
      (doc.follow? value before).bind doc.object? = none)
    (hf : doc.follow? value path = some (.ref node)) (hn : doc.indexed? (.ref node) = some node) :
    doc.holders value path = (node, []) :: (doc.indexed? value).toList.map (·, path) := by
  cases path with
  | nil => exact absurd rfl hp
  | cons part path =>
    rw [follow?_cons] at hf
    obtain ⟨next, hs, hf⟩ := Option.bind_eq_some_iff.mp hf
    have hnext : doc.holders next path = [(node, [])] := by
      refine holders_of_bare (fun before after hp ha => ?_) hf hn
      have hbefore := h (part :: before) after (congrArg _ hp) (List.cons_ne_nil _ _) ha
      rwa [follow?_cons, hs] at hbefore
    rw [holders, hs, Option.elim_some, hnext, List.singleton_append]

/-- A path that goes on after some value leads through one more object if only that one is met there. -/
theorem holders_append (hf : doc.follow? value path = some mid)
    (hmore : doc.holders mid more = (node, []) :: (doc.indexed? mid).toList.map (·, more)) :
    doc.holders value (path ++ more) =
      (node, []) :: (doc.holders value path).map fun holder => (holder.1, holder.2 ++ more) := by
  induction path generalizing value with
  | nil =>
    cases hf
    rw [List.nil_append, hmore, holders, List.map_map]
    rfl
  | cons part path ih =>
    rw [follow?_cons] at hf
    obtain ⟨next, hs, hf⟩ := Option.bind_eq_some_iff.mp hf
    rw [List.cons_append, holders, holders, hs, Option.elim_some, Option.elim_some, ih hf,
      List.map_append, List.map_map, List.cons_append]
    rfl

/-! ## Visits -/

variable {visit : Visit}

/-- Between a value and a part of it there is no other one. -/
theorem Direct.of_length_le {pending : Pending} (hl : pending.path.length ≤ 1)
    (hs : pending.path = [] → pending.parent = none) : doc.Direct pending where
  inner before after hp hb ha := by
    have hbefore := List.length_pos_iff.mpr hb
    have hafter := List.length_pos_iff.mpr ha
    rw [hp, List.length_append] at hl
    omega
  start := hs

/-- Only sequences are between an object and the items of its members. -/
theorem Direct.item {place : Nat} {around : Option Nat} {items : List Value} {n : Nat}
    (h : doc.Direct ⟨.ref place, around, path⟩) (ht : doc.Trail ⟨.ref place, around, path⟩)
    (hc : doc.containers[place]? = some (.sequence items)) (value : Value) :
    doc.Direct ⟨value, around, path ++ [.position n]⟩ where
  inner before after hp hb ha := by
    obtain ⟨more, last, rfl⟩ := (List.eq_nil_or_concat' after).resolve_left ha
    have hpath : path = before ++ more := by
      rw [← List.append_assoc] at hp
      exact (List.append_inj' hp rfl).1
    cases more with
    | nil =>
      rw [List.append_nil] at hpath
      subst hpath
      exact (congrArg (·.bind doc.object?) ht.leads).trans (object?_eq_none_of_sequence hc)
    | cons first more => exact h.inner before _ hpath hb (List.cons_ne_nil _ _)
  start hp := absurd hp (List.append_ne_nil_of_right_ne_nil _ (List.cons_ne_nil _ _))

/-- A walk that begins near the root comes to every object directly from the one around it. -/
theorem direct_of_mem_walk (hd : doc.DistinctNames) {start : Value} {skip : List String}
    (hstart : doc.Trail ⟨start, none, path⟩) (hl : path.length ≤ 1)
    (hv : visit ∈ doc.walk start path skip) :
    doc.Direct ⟨.ref visit.node, visit.parent, visit.path⟩ := by
  refine (walkFrom_invariant (p := fun pending => doc.Trail pending ∧ doc.Direct pending) ?_ ?_ _ _
    (List.forall_mem_singleton.mpr ⟨hstart, .of_length_le hl fun _ => rfl⟩) visit hv).2
  · intro place parent path members _ hc name value hm hi
    exact ⟨.member hd hc hm hi, .of_length_le (Nat.le_refl 1) fun h => absurd h (List.cons_ne_nil _ _)⟩
  · rintro place parent path items ⟨htrail, hdirect⟩ hc n value hi
    exact ⟨htrail.item hc hi, hdirect.item htrail hc value⟩

/-- Every object to be indexed is found at the end of a path that leads through no other object. -/
theorem direct_of_mem_nodes (hd : doc.DistinctNames) (hv : visit ∈ doc.nodes) :
    doc.Direct ⟨.ref visit.node, visit.parent, visit.path⟩ := by
  cases hm : doc.modules? with
  | none =>
    rw [nodes_of_no_modules hm] at hv
    exact direct_of_mem_walk hd ⟨rfl, fun _ hp => absurd hp List.not_mem_nil⟩ (Nat.zero_le 1) hv
  | some modules =>
    rw [nodes_of_modules hm] at hv
    have hmodules : doc.step? doc.root (.member modulesField) = some modules :=
      (Option.filter_eq_some_iff.mp hm).1
    exact direct_of_mem_walk hd ⟨follow?_singleton.trans hmodules,
      List.forall_mem_singleton.mpr .modules⟩ (Nat.le_refl 1) hv

/-- An object to be indexed is found as one. -/
theorem indexed?_ref (hv : visit ∈ doc.nodes) : doc.indexed? (.ref visit.node) = some visit.node := by
  obtain ⟨members, hc⟩ := variant_eq_object_iff.mp (variant_of_mem_nodes hv)
  have hobj : doc.object? (.ref visit.node) = some visit.node := by rw [object?, hc]
  rw [indexed?, hobj, Option.filter_some_pos]
  exact decide_eq_true (List.mem_map_of_mem hv)

/-- If an object that has none around it is not the first one, then that one is not to be indexed. -/
theorem indexed?_root (ha : doc.RootApart) (hv : visit ∈ doc.nodes) (ho : visit.parent = none)
    (hp : visit.path ≠ []) : doc.indexed? doc.root = none := by
  cases hm : doc.modules? with
  | none =>
    -- Only if the document begins with a sequence there is an object without one around it elsewhere.
    have hinvariant : ∀ visit ∈ doc.walk doc.root [] registryFields, visit.parent = none →
        visit.path = [] ∨ doc.object? doc.root = none := by
      intro visit hv ho
      refine (walkFrom_invariant (p := fun pending => pending.parent = none →
        pending.path = [] ∧ pending.value = doc.root ∨ doc.object? doc.root = none) ?_ ?_ _ _
        (List.forall_mem_singleton.mpr fun _ => .inl ⟨rfl, rfl⟩) visit hv ho).imp_left And.left
      · exact fun _ _ _ _ _ _ _ _ _ _ ho => nomatch ho
      · intro place parent path items h hc n value _ ho
        rcases h ho with ⟨-, hroot⟩ | h
        · exact .inr (hroot ▸ object?_eq_none_of_sequence hc)
        · exact .inr h
    rw [nodes_of_no_modules hm] at hv
    rw [indexed?, (hinvariant visit hv ho).resolve_left hp]
    rfl
  | some modules =>
    refine Option.filter_eq_none_iff.mpr fun place hobj => ?_
    rw [decide_eq_true_eq, nodes_of_modules hm]
    intro hplace
    obtain ⟨visit, hv, rfl⟩ := List.mem_map.mp hplace
    exact ha.modules modules hm _ (reachable_of_mem_walk hv) (eq_ref_of_object?_eq_some hobj).symm

/-- The path to an object that has none around it leads through no other object to be indexed. -/
theorem holders_of_top (hd : doc.DistinctNames) (ha : doc.RootApart) (hv : visit ∈ doc.nodes)
    (ho : visit.parent = none) :
    doc.follow? doc.root visit.path = some (.ref visit.node) ∧
      doc.holders doc.root visit.path = [(visit.node, [])] := by
  have hleads := (trail_of_mem_nodes hd hv).leads
  have hdirect := (direct_of_mem_nodes hd hv).inner
  rw [ho] at hleads hdirect
  refine ⟨hleads, ?_⟩
  by_cases hp : visit.path = []
  · rw [hp] at hleads ⊢
    exact holders_of_bare (fun _ _ h ha => absurd (List.append_eq_nil_iff.mp h.symm).2 ha) hleads
      (indexed?_ref hv)
  · have hroot : doc.indexed? doc.root = none := indexed?_root ha hv ho hp
    have hholders := holders_of_direct hp hdirect hleads (indexed?_ref hv)
    rwa [origin, Option.elim_none, hroot] at hholders

/-- The path to an object that is inside another one leads through it, and through those that the path to
the other one leads through. -/
theorem holders_of_inner (hd : doc.DistinctNames) (hv : visit ∈ doc.nodes) {outer : Nat}
    (ho : visit.parent = some outer) (hf : doc.follow? doc.root path = some (.ref outer)) :
    doc.follow? doc.root (path ++ visit.path) = some (.ref visit.node) ∧
      doc.holders doc.root (path ++ visit.path) = (visit.node, []) ::
        (doc.holders doc.root path).map fun holder => (holder.1, holder.2 ++ visit.path) := by
  have hleads := (trail_of_mem_nodes hd hv).leads
  have hdirect := direct_of_mem_nodes hd hv
  have hp : visit.path ≠ [] := fun hp => Option.some_ne_none _ (ho.symm.trans (hdirect.start hp))
  have hinner := hdirect.inner
  rw [ho] at hleads hinner
  refine ⟨?_, holders_append hf (holders_of_direct hp hinner hleads (indexed?_ref hv))⟩
  rw [follow?_append, hf]
  exact hleads

end

end Document

end ContextSlice
