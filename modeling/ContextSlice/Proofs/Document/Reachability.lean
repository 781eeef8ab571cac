import ContextSlice.Proofs.Document.DepthFirst
import Mathlib.Logic.Relation

/-!
# What a walk reaches

A container leads to the places that its followed members or its items refer to (`Document.Leads`),
and a place is reachable if a chain of such steps leads to it from the start
(`Document.Reachable`). A walk visits the reachable objects and no others
(`Document.mem_walk_iff`). That it comes to all of them is read off the search: where it has been to
at last, all places that a new container leads to are among those that have been gone to, and all
new objects are among the visits (`Exploration.Complete`).
-/

namespace ContextSlice

namespace Document

/-- A container leads to a place that a walk follows a reference to: the value of a member that is
neither internal nor, at the starting value, to be skipped, or an item. -/
inductive Leads (doc : Document) (start : Value) (skip : List String) : Nat → Nat → Prop
  | member {place inner : Nat} {members : List (String × Value)} {name : String} :
      doc.containers[place]? = some (.object members) → (name, .ref inner) ∈ members →
      isInternal name = false → ¬(.ref place = start ∧ name ∈ skip) →
      Leads doc start skip place inner
  | item {place inner : Nat} {items : List Value} :
      doc.containers[place]? = some (.sequence items) → .ref inner ∈ items →
      Leads doc start skip place inner

/-- A place can be reached if the start refers to it, or to a place from which containers lead to
it. -/
def Reachable (doc : Document) (start : Value) (skip : List String) (place : Nat) : Prop :=
  ∃ first, start = .ref first ∧ Relation.ReflTransGen (doc.Leads start skip) first place

section
variable {doc : Document} {start : Value} {skip : List String} {place inner : Nat}

/-- What a reachable container leads to is reachable. -/
theorem Reachable.step (h : doc.Reachable start skip place)
    (hl : doc.Leads start skip place inner) : doc.Reachable start skip inner := by
  obtain ⟨first, hf, hp⟩ := h
  exact ⟨first, hf, hp.tail hl⟩

/-- If nothing is skipped, then it does not matter where the walk begins. -/
theorem Leads.of_nil (hl : doc.Leads start [] place inner) (other : Value) :
    doc.Leads other [] place inner := by
  cases hl with
  | member hc hm hi _ => exact .member hc hm hi fun h => absurd h.2 List.not_mem_nil
  | item hc hi => exact .item hc hi

/-- What is reached from a place that is reached, is reached. -/
theorem Reachable.trans (h : doc.Reachable start [] place)
    (hi : doc.Reachable (.ref place) [] inner) : doc.Reachable start [] inner := by
  obtain ⟨_, hf, hi⟩ := hi
  cases hf
  induction hi with
  | refl => exact h
  | tail _ hl ih => exact ih.step (hl.of_nil start)

/-- The members of an object are those of the container at its place. -/
theorem mem_members_iff {name : String} {value : Value} :
    (name, value) ∈ doc.members place ↔
      ∃ members, doc.containers[place]? = some (.object members) ∧ (name, value) ∈ members := by
  unfold Document.members
  split
  · rename_i members hc
    exact ⟨fun hm => ⟨members, hc, hm⟩, fun ⟨_, hc', hm⟩ => by cases hc.symm.trans hc'; exact hm⟩
  · rename_i hc
    exact ⟨fun hm => absurd hm List.not_mem_nil, fun ⟨members, hc', _⟩ => absurd hc' (hc members)⟩

/-- Only the places of containers lead anywhere. -/
theorem Leads.lt_size (hl : doc.Leads start skip place inner) :
    place < doc.containers.size := by
  cases hl with
  | member hc | item hc => exact (Array.getElem?_eq_some_iff.mp hc).1

/-! ## Only reachable objects are visited -/

/-- What waits from an object that is gone to is what the object leads to. -/
theorem leads_of_mem_followed {members : List (String × Value)}
    (hc : doc.containers[place]? = some (.object members)) {pending : Pending}
    (hp : pending ∈ followed (if .ref place = start then skip else []) place members)
    (hv : pending.value = .ref inner) : doc.Leads start skip place inner := by
  obtain ⟨name, value, hm, hi, hs, rfl⟩ := mem_followed.mp hp
  cases hv
  exact .member hc hm hi fun h => hs (by rw [if_pos h.1]; exact h.2)

/-- If all places that wait on the stack of a walk are reachable, then so are all objects that it
visits. -/
theorem reachable_of_mem_walkFrom {stack : List Pending} {seen : List Nat} :
    (∀ pending ∈ stack, ∀ place, pending.value = .ref place → doc.Reachable start skip place) →
      ∀ visit ∈ doc.walkFrom start skip stack seen, doc.Reachable start skip visit.node := by
  apply walkFrom_induction (motive := fun stack _ visits =>
    (∀ pending ∈ stack, ∀ place, pending.value = .ref place → doc.Reachable start skip place) →
      ∀ visit ∈ visits, doc.Reachable start skip visit.node)
  case done => exact fun _ _ _ hv => absurd hv List.not_mem_nil
  case pass =>
    intro pending stack seen visits ih hr
    exact ih fun pending hp => hr pending (List.mem_cons_of_mem _ hp)
  case object =>
    intro place parent path stack seen members visits hs hc ih hr visit hv
    have hplace := hr _ List.mem_cons_self place rfl
    rcases List.mem_cons.mp hv with rfl | hv
    · exact hplace
    · refine ih (fun pending hp inner hi => ?_) visit hv
      rcases List.mem_append.mp hp with hp | hp
      · exact hplace.step (leads_of_mem_followed hc hp hi)
      · exact hr pending (List.mem_cons_of_mem _ hp) inner hi
  case sequence =>
    intro place parent path stack seen items visits hs hc ih hr
    have hplace := hr _ List.mem_cons_self place rfl
    refine ih fun pending hp inner hi => ?_
    rcases List.mem_append.mp hp with hp | hp
    · exact hplace.step (.item hc (hi ▸ (parent_of_mem_positioned hp).1))
    · exact hr pending (List.mem_cons_of_mem _ hp) inner hi

end

end Document

/-! ## All reachable objects are visited -/

namespace Exploration

/-- A search is complete if a container that it is the first to go to leads only to places that have
been gone to, and if it visits all such objects. References that point nowhere do not count. -/
structure Complete (doc : Document) (start : Value) (skip : List String) {seen : List Nat}
    (search : Exploration seen) : Prop where
  closed : ∀ place ∈ search.reached, place ∉ seen → ∀ inner, doc.Leads start skip place inner →
    inner < doc.containers.size → inner ∈ search.reached
  visited : ∀ place ∈ search.reached, place ∉ seen → doc.variant (.ref place) = .object →
    place ∈ search.visits.map Visit.node

variable {doc : Document} {start : Value} {skip : List String} {seen : List Nat}

/-- Nothing is complete about where nothing is to be visited. -/
theorem Complete.nothing : (nothing seen).Complete doc start skip :=
  ⟨fun _ hp hs => absurd hp hs, fun _ hp hs => absurd hp hs⟩

/-- The search in a container is complete if the one in its parts is and comes to all places that
the container leads to, and if the container is visited in case it is an object. -/
theorem Complete.within {place : Nat} {here : List Visit} {inside : Exploration (place :: seen)}
    (h : inside.Complete doc start skip)
    (hl : ∀ inner, doc.Leads start skip place inner → inner < doc.containers.size →
      inner ∈ inside.reached)
    (hv : doc.variant (.ref place) = .object → place ∈ here.map Visit.node) :
    (within place here inside).Complete doc start skip where
  closed other ho hs := by
    by_cases hp : other = place
    · subst hp
      exact hl
    · exact h.closed other ho fun hm => (List.mem_cons.mp hm).elim hp hs
  visited other ho hs hobj := by
    rw [Exploration.within, List.map_append]
    by_cases hp : other = place
    · subst hp
      exact List.mem_append_left _ (hv hobj)
    · exact List.mem_append_right _
        (h.visited other ho (fun hm => (List.mem_cons.mp hm).elim hp hs) hobj)

/-- The search in an object is complete if the one in its members is and comes to all places that
the members refer to. -/
theorem Complete.object {place : Nat} {members : List (String × Value)}
    {inside : Exploration (place :: seen)} (h : inside.Complete doc start skip)
    (hc : doc.containers[place]? = some (.object members))
    (hreach : ∀ name inner, (name, .ref inner) ∈ members → isInternal name = false →
      ¬(.ref place = start ∧ name ∈ skip) → inner < doc.containers.size → inner ∈ inside.reached)
    (parent : Option Nat) (path : List PathPart) :
    (Exploration.within place [⟨place, parent, path⟩] inside).Complete doc start skip := by
  refine h.within (fun inner hl hi => ?_) fun _ => List.mem_singleton_self place
  cases hl with
  | member hc' hm hn hsk =>
    cases hc.symm.trans hc'
    exact hreach _ _ hm hn hsk hi
  | item hc' => cases hc.symm.trans hc'

/-- The search in a sequence is complete if the one in its items is and comes to all places that the
items refer to. -/
theorem Complete.sequence {place : Nat} {items : List Value}
    {inside : Exploration (place :: seen)} (h : inside.Complete doc start skip)
    (hc : doc.containers[place]? = some (.sequence items))
    (hreach : ∀ inner, .ref inner ∈ items → inner < doc.containers.size →
      inner ∈ inside.reached) :
    (Exploration.within place [] inside).Complete doc start skip := by
  refine h.within (fun inner hl hi => ?_) fun hobj => ?_
  · cases hl with
    | member hc' => cases hc.symm.trans hc'
    | item hc' hm =>
      cases hc.symm.trans hc'
      exact hreach _ hm hi
  · obtain ⟨members, hm⟩ := Document.variant_eq_object_iff.mp hobj
    cases hc.symm.trans hm

/-- Of two complete searches one after the other the whole is complete. -/
theorem Complete.andThen {first : Exploration seen} {rest : Exploration first.reached}
    (hf : first.Complete doc start skip) (hr : rest.Complete doc start skip) :
    (first.andThen rest).Complete doc start skip where
  closed place hp hs inner hl hi := by
    by_cases hfp : place ∈ first.reached
    · exact rest.grows (hf.closed place hfp hs inner hl hi)
    · exact hr.closed place hp hfp inner hl hi
  visited place hp hs hobj := by
    rw [Exploration.andThen, List.map_append]
    by_cases hfp : place ∈ first.reached
    · exact List.mem_append_left _ (hf.visited place hfp hs hobj)
    · exact List.mem_append_right _ (hr.visited place hp hfp hobj)

end Exploration

namespace Document

section
variable (doc : Document) (start : Value) (skip : List String)

/-- The search is complete, and it goes to the place that a value refers to, to those that the
items of a sequence refer to, and to those that the followed members of an object refer to. -/
theorem complete_explore :
    (∀ seen parent path value,
      (doc.explore start skip seen parent path value).Complete doc start skip ∧
        ∀ place, value = .ref place → place < doc.containers.size →
          place ∈ (doc.explore start skip seen parent path value).reached) ∧
    (∀ seen parent path position items,
      (doc.exploreItems start skip seen parent path position items).Complete doc start skip ∧
        ∀ place, .ref place ∈ items → place < doc.containers.size →
          place ∈ (doc.exploreItems start skip seen parent path position items).reached) ∧
    (∀ seen outer members,
      (doc.exploreMembers start skip seen outer members).Complete doc start skip ∧
        ∀ name place, (name, .ref place) ∈ members → isInternal name = false →
          ¬(.ref outer = start ∧ name ∈ skip) → place < doc.containers.size →
          place ∈ (doc.exploreMembers start skip seen outer members).reached) := by
  apply explore.mutual_induct doc start skip
  case case1 =>
    intro seen parent path leaf
    rw [explore_leaf]
    exact ⟨.nothing, fun place h => Value.noConfusion h⟩
  case case2 =>
    intro seen parent path place hs
    rw [explore_of_mem start skip parent path hs]
    refine ⟨.nothing, fun other ho _ => ?_⟩
    cases ho
    exact hs
  case case3 =>
    intro seen parent path place hs hc
    rw [explore_dangling start skip parent path hs hc]
    refine ⟨.nothing, fun other ho hlt => ?_⟩
    cases ho
    exact absurd hlt (Nat.not_lt.mpr (Array.getElem?_eq_none_iff.mp hc))
  case case4 =>
    rintro seen parent path place hs members hc ⟨hcomplete, hreach⟩
    rw [explore_object start skip parent path hs hc]
    refine ⟨hcomplete.object hc hreach parent path, fun other ho _ => ?_⟩
    cases ho
    exact Exploration.mem_reached_within ..
  case case5 =>
    rintro seen parent path place hs items hc ⟨hcomplete, hreach⟩
    rw [explore_sequence start skip parent path hs hc]
    refine ⟨hcomplete.sequence hc hreach, fun other ho _ => ?_⟩
    cases ho
    exact Exploration.mem_reached_within ..
  case case6 =>
    intro seen parent path position
    rw [exploreItems]
    exact ⟨.nothing, fun place h => absurd h List.not_mem_nil⟩
  case case7 =>
    rintro seen parent path position value items first ⟨hcv, hv⟩ ⟨hcr, hr⟩
    rw [exploreItems]
    refine ⟨hcv.andThen hcr, fun place hp hlt => ?_⟩
    rcases List.mem_cons.mp hp with hp | hp
    · exact first.reached_subset_andThen _ (hv place hp.symm hlt)
    · exact hr place hp hlt
  case case8 =>
    intro seen outer
    rw [exploreMembers]
    exact ⟨.nothing, fun name place h => absurd h List.not_mem_nil⟩
  case case9 =>
    rintro seen outer name value members hn ⟨hcomplete, hreach⟩
    rw [exploreMembers, if_pos hn]
    refine ⟨hcomplete, fun other place hp hi hsk hlt => ?_⟩
    rcases List.mem_cons.mp hp with hp | hp
    · cases hp
      rcases hn with hn | hn
      · cases hi.symm.trans hn
      · exact absurd hn hsk
    · exact hreach other place hp hi hsk hlt
  case case10 =>
    rintro seen outer name value members hn first ⟨hcv, hv⟩ ⟨hcr, hr⟩
    rw [exploreMembers, if_neg hn]
    refine ⟨hcv.andThen hcr, fun other place hp hi hsk hlt => ?_⟩
    rcases List.mem_cons.mp hp with hp | hp
    · cases hp
      exact first.reached_subset_andThen _ (hv place rfl hlt)
    · exact hr other place hp hi hsk hlt

end

section
variable {doc : Document} {start : Value} {skip : List String}

/-- The search goes to every place that is reachable. -/
theorem mem_reached_of_reachable (path : List PathPart) {place : Nat}
    (h : doc.Reachable start skip place) (hlt : place < doc.containers.size) :
    place ∈ (doc.explore start skip [] none path start).reached := by
  obtain ⟨hcomplete, hstart⟩ := (complete_explore doc start skip).1 [] none path start
  obtain ⟨first, hf, hp⟩ := h
  induction hp with
  | refl => exact hstart first hf hlt
  | tail _ hl ih => exact hcomplete.closed _ (ih hl.lt_size) List.not_mem_nil _ hl hlt

/-- A walk visits the objects that are reachable, and no others. -/
theorem mem_walk_iff {path : List PathPart} {node : Nat} :
    node ∈ (doc.walk start path skip).map Visit.node ↔
      doc.variant (.ref node) = .object ∧ doc.Reachable start skip node := by
  constructor
  · intro h
    obtain ⟨visit, hv, rfl⟩ := List.mem_map.mp h
    refine ⟨variant_of_mem_walk hv,
      reachable_of_mem_walkFrom (fun pending hp place hpl => ?_) visit hv⟩
    cases List.mem_singleton.mp hp
    exact ⟨place, hpl, .refl⟩
  · rintro ⟨hobj, hr⟩
    obtain ⟨members, hm⟩ := variant_eq_object_iff.mp hobj
    have hlt := (Array.getElem?_eq_some_iff.mp hm).1
    rw [walk_eq_explore]
    exact ((complete_explore doc start skip).1 [] none path start).1.visited node
      (mem_reached_of_reachable path hr hlt) List.not_mem_nil hobj

/-- What is visited can be reached. -/
theorem reachable_of_mem_walk {path : List PathPart} {visit : Visit}
    (hv : visit ∈ doc.walk start path skip) : doc.Reachable start skip visit.node :=
  (mem_walk_iff.mp (List.mem_map_of_mem hv)).2

/-- An object that can be reached is visited. -/
theorem exists_visit_of_reachable (path : List PathPart) {node : Nat}
    (hobj : doc.variant (.ref node) = .object) (hr : doc.Reachable start skip node) :
    ∃ visit ∈ doc.walk start path skip, visit.node = node :=
  List.mem_map.mp (mem_walk_iff.mpr ⟨hobj, hr⟩)

/-- A walk makes the visits of the depth-first search in the same order. So it visits every object
that is reachable, once, and no other one, and where a visit has a parent this has been visited
before. -/
theorem walk_refines_explore (doc : Document) (start : Value) (path : List PathPart)
    (skip : List String) :
    doc.walk start path skip = (doc.explore start skip [] none path start).visits ∧
      ((doc.walk start path skip).map Visit.node).Nodup ∧
      (∀ node, node ∈ (doc.walk start path skip).map Visit.node ↔
        doc.variant (.ref node) = .object ∧ doc.Reachable start skip node) ∧
      ∀ before visit after, doc.walk start path skip = before ++ visit :: after →
        ∀ outer, visit.parent = some outer → outer ∈ before.map Visit.node := by
  refine ⟨walk_eq_explore doc start skip path, nodup_walk doc start path skip,
    fun node => mem_walk_iff, fun before visit after h outer ho => ?_⟩
  exact (parentsFirst_walk.mem h ho).resolve_left List.not_mem_nil

end

end Document

end ContextSlice
