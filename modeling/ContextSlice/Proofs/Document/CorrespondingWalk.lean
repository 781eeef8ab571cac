import ContextSlice.Proofs.Document.Correspondence
import ContextSlice.Proofs.Document.Reachability

/-!
# Walking through documents that correspond

If a walk passes by all members that are hidden (`Document.PassesBy`), then it makes the same visits in
two documents that correspond: twins, by the same paths (`Document.Corresponds.walk`). The step for one
value on the stack asks only that the containers which are still to be gone to are alike
(`Document.walkFrom_alike`).
-/

namespace ContextSlice

open Relator

section
variable (twin : Nat → Nat → Prop)

/-- Two visits are alike if twins are visited by the same path from twins. -/
structure Visit.Alike (visit other : Visit) : Prop where
  node : twin visit.node other.node
  parent : Option.Rel twin visit.parent other.parent
  path : visit.path = other.path

/-- Two values that wait on a stack are alike if they are so themselves and were reached by the same
path from twins. -/
structure Pending.Alike (pending other : Pending) : Prop where
  value : Value.Alike twin pending.value other.value
  parent : Option.Rel twin pending.parent other.parent
  path : pending.path = other.path

end

namespace Document

/-- A walk passes by what is hidden if every hidden member of a container that it comes to is internal,
or is skipped where the walk begins. -/
def PassesBy (doc : Document) (hidden : Nat → String → Prop) (start : Value) (skip : List String) :
    Prop :=
  ∀ place, doc.Reachable start skip place → ∀ name, hidden place name →
    isInternal name = true ∨ .ref place = start ∧ name ∈ skip

section
variable {left right : Document} {twin : Nat → Nat → Prop} {place other : Nat}
variable {parent parent' : Option Nat} {path : List PathPart}

/-! ## What waits from twins -/

/-- What is followed from twins is alike if all members that need not be alike are internal or
skipped. -/
theorem followed_alike {names skipped : List String} {members others : List (String × Value)}
    (ht : twin place other) (hs : ∀ name ∈ names, isInternal name = true ∨ name ∈ skipped)
    (hm : Assoc.Alike (· = ·) (Value.Alike twin) (members.filter (·.1 ∉ names))
      (others.filter (·.1 ∉ names))) :
    List.Forall₂ (Pending.Alike twin) (followed skipped place members)
      (followed skipped other others) := by
  have hfilter : ∀ members : List (String × Value),
      (members.filter (·.1 ∉ names)).filter
          (fun member => !isInternal member.1 && !skipped.contains member.1) =
        members.filter fun member => !isInternal member.1 && !skipped.contains member.1 := by
    intro members
    rw [List.filter_filter]
    refine List.filter_congr fun member _ => ?_
    by_cases hn : member.1 ∈ names
    · rcases hs member.1 hn with hi | hsk
      · simp [hi]
      · simp [hsk]
    · simp [hn]
  rw [followed, followed, ← hfilter members, ← hfilter others]
  refine List.rel_map ?_ (List.rel_filter ?_ hm)
  · rintro ⟨name, value⟩ ⟨_, value'⟩ ⟨rfl, hv⟩
    exact ⟨hv, .some ht, rfl⟩
  · rintro ⟨name, value⟩ ⟨_, value'⟩ ⟨rfl, hv⟩
    rfl

/-- What is followed from sequences that are alike is alike. -/
theorem positioned_alike {items others : List Value} (hp : Option.Rel twin parent parent')
    (hi : List.Forall₂ (Value.Alike twin) items others) :
    List.Forall₂ (Pending.Alike twin) (positioned parent path items)
      (positioned parent' path others) := by
  refine List.rel_map ?_ (forall₂_zipIdx hi 0)
  rintro ⟨value, position⟩ ⟨value', _⟩ ⟨hv, rfl⟩
  exact ⟨hv, hp, rfl⟩

/-- A stack that is like one that is not empty is not empty either. -/
theorem exists_of_cons_alike {value : Value} {stack stack' : List Pending}
    (h : List.Forall₂ (Pending.Alike twin) (⟨value, parent, path⟩ :: stack) stack') :
    ∃ value' parent' rest, stack' = ⟨value', parent', path⟩ :: rest ∧
      Value.Alike twin value value' ∧ Option.Rel twin parent parent' ∧
      List.Forall₂ (Pending.Alike twin) stack rest := by
  cases h with
  | @cons _ pending _ rest hp hrest =>
    obtain ⟨value', parent', path'⟩ := pending
    obtain ⟨hv, hparent, rfl⟩ := hp
    exact ⟨value', parent', rest, rfl, hv, hparent, hrest⟩

/-! ## Walks that pass by what is hidden -/

/-- If the values that wait are alike, and the walks have been to the same places and containers
elsewhere are alike, then the walks go on to make visits that are alike. -/
theorem walkFrom_alike {hidden : Nat → String → Prop} {start start' : Value} {skip : List String}
    (hu : BiUnique twin) (hstart : Value.Alike twin start start')
    (hpass : left.PassesBy hidden start skip) (stack : List Pending) (seen : List Nat) :
    ∀ stack' seen',
      (∀ place other, twin place other → place ∉ seen →
        left.AlikeAt right twin (hidden place) place other) →
      (∀ pending ∈ stack, ∀ place, pending.value = .ref place → left.Reachable start skip place) →
      List.Forall₂ (Pending.Alike twin) stack stack' → List.Forall₂ twin seen seen' →
      List.Forall₂ (Visit.Alike twin) (left.walkFrom start skip stack seen)
        (right.walkFrom start' skip stack' seen') := by
  induction stack, seen using walkFrom.induct left start skip with
  | case1 seen =>
    intro stack' seen' _ _ hstack _
    cases hstack
    rw [walkFrom_nil, walkFrom_nil]
    exact .nil
  | case2 seen leaf parent path stack ih =>
    intro stack' seen' halike hr hstack hseen
    obtain ⟨_, parent', rest, rfl, hv, -, hrest⟩ := exists_of_cons_alike hstack
    cases hv
    rw [walkFrom_leaf, walkFrom_leaf]
    exact ih _ _ halike (List.forall_mem_cons.mp hr).2 hrest hseen
  | case3 seen place parent path stack hs ih =>
    intro stack' seen' halike hr hstack hseen
    obtain ⟨_, parent', rest, rfl, ⟨⟩ | ht, -, hrest⟩ := exists_of_cons_alike hstack
    rw [walkFrom_of_mem hs, walkFrom_of_mem ((List.rel_mem hu ht hseen).mp hs)]
    exact ih _ _ halike (List.forall_mem_cons.mp hr).2 hrest hseen
  | case4 seen place parent path stack hs hc ih =>
    intro stack' seen' halike hr hstack hseen
    obtain ⟨_, parent', rest, rfl, ⟨⟩ | ht, -, hrest⟩ := exists_of_cons_alike hstack
    rw [walkFrom_dangling hs hc, walkFrom_dangling ((List.rel_mem hu ht hseen).not.mp hs)
      ((halike _ _ ht hs).dangling hc)]
    exact ih _ _ halike (List.forall_mem_cons.mp hr).2 hrest hseen
  | case5 seen place parent path stack hs members hc skipped ih =>
    intro stack' seen' halike hr hstack hseen
    obtain ⟨_, parent', rest, rfl, ⟨⟩ | ht, hparent, hrest⟩ := exists_of_cons_alike hstack
    obtain ⟨hplace, hr⟩ := List.forall_mem_cons.mp hr
    have hplace := hplace place rfl
    obtain ⟨others, names, hc', hnames, hm⟩ := (halike _ _ ht hs).object hc
    have hskipped : ∀ name ∈ names, isInternal name = true ∨ name ∈ skipped := by
      intro name hn
      refine (hpass place hplace name (hnames name hn)).imp_right fun hsk => ?_
      have hskip : skipped = skip := dif_pos hsk.1
      exact hskip ▸ hsk.2
    rw [walkFrom_object hs hc, walkFrom_object ((List.rel_mem hu ht hseen).not.mp hs) hc',
      ← if_congr (hstart.ref_eq_iff hu ht) (rfl : skip = skip) (rfl : ([] : List String) = [])]
    refine .cons ⟨ht, hparent, rfl⟩ (ih _ _
      (fun _ _ ht hs => halike _ _ ht (List.not_mem_of_not_mem_cons hs))
      (fun pending hp inner hi => ?_)
      (List.rel_append (followed_alike ht hskipped hm) hrest) (.cons ht hseen))
    rcases List.mem_append.mp hp with hp | hp
    · exact hplace.step (leads_of_mem_followed hc hp hi)
    · exact hr pending hp inner hi
  | case6 seen place parent path stack hs items hc ih =>
    intro stack' seen' halike hr hstack hseen
    obtain ⟨_, parent', rest, rfl, ⟨⟩ | ht, hparent, hrest⟩ := exists_of_cons_alike hstack
    obtain ⟨hplace, hr⟩ := List.forall_mem_cons.mp hr
    have hplace := hplace place rfl
    obtain ⟨others, hc', hi⟩ := (halike _ _ ht hs).sequence hc
    rw [walkFrom_sequence hs hc,
      walkFrom_sequence ((List.rel_mem hu ht hseen).not.mp hs) hc']
    refine ih _ _ (fun _ _ ht hs => halike _ _ ht (List.not_mem_of_not_mem_cons hs))
      (fun pending hp inner hv => ?_)
      (List.rel_append (positioned_alike hparent hi) hrest) (.cons ht hseen)
    rcases List.mem_append.mp hp with hp | hp
    · exact hplace.step (.item hc (hv ▸ (parent_of_mem_positioned hp).1))
    · exact hr pending hp inner hv

/-- A walk that passes by what is hidden makes visits that are alike. -/
theorem Corresponds.walk {hidden : Nat → String → Prop} (h : left.Corresponds right twin hidden)
    {start start' : Value} {skip : List String} (hstart : Value.Alike twin start start')
    (hpass : left.PassesBy hidden start skip) (path : List PathPart) :
    List.Forall₂ (Visit.Alike twin) (left.walk start path skip) (right.walk start' path skip) := by
  refine walkFrom_alike h.unique hstart hpass _ _ _ _ (fun _ _ ht _ => h.alikeAt ht)
    (fun pending hp place hv => ?_) (.cons ⟨hstart, .none, rfl⟩ .nil) .nil
  cases List.mem_singleton.mp hp
  exact ⟨place, hv, .refl⟩

end

end Document

end ContextSlice
