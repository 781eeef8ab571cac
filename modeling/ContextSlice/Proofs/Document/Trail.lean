import ContextSlice.Index.Build
import ContextSlice.Proofs.Document.DistinctNames
import ContextSlice.Proofs.Document.Walk

/-!
# Trails

The path of a visit leads from the object around it, or from where the document begins, to the object
that is visited (`Document.Trail`). Its steps are positions and the names of members that are not
internal (`Document.StepsFrom`). If no object has two members of one name, then this holds of all
values that wait on the stack of a walk, since it is kept from an object to its members and from a
sequence to its items (`Document.walkFrom_invariant`), and so of all objects to be indexed
(`Document.trail_of_mem_nodes`).
-/

namespace ContextSlice

namespace Document

section
variable (doc : Document)

/-- The value that one step of a path leads to. -/
def step? (value : Value) : PathPart → Option Value
  | .member name => (doc.object? value).bind (doc.member? · name)
  | .position n => (doc.items? value).bind (·[n]?)
  | .other _ => none

/-- The value that a path leads to. -/
def follow? (value : Value) (path : List PathPart) : Option Value := path.foldlM doc.step? value

/-- Where a path from an object begins; without an object, where the document begins. -/
def origin (around : Option Nat) : Value := around.elim doc.root .ref

/-- The steps that the path of a visit may have: the name of a member of the object around, positions,
and at the top the name of the member that holds the modules. -/
inductive StepsFrom : Option Nat → PathPart → Prop
  | modules : StepsFrom none (.member modulesField)
  | member {outer : Nat} {name : String} {value : Value} : (name, value) ∈ doc.members outer →
      isInternal name = false → StepsFrom (some outer) (.member name)
  | position {around : Option Nat} {n : Nat} : StepsFrom around (.position n)

/-- A value waits at the end of its path. -/
structure Trail (pending : Pending) : Prop where
  leads : doc.follow? (doc.origin pending.parent) pending.path = some pending.value
  steps : ∀ part ∈ pending.path, doc.StepsFrom pending.parent part

end

section
variable {doc : Document} {place : Nat} {value : Value} {path more : List PathPart}

theorem follow?_append :
    doc.follow? value (path ++ more) = (doc.follow? value path).bind (doc.follow? · more) :=
  List.foldlM_append

theorem follow?_singleton {part : PathPart} : doc.follow? value [part] = doc.step? value part :=
  bind_pure _

/-- The members of an object are those that it was made with. -/
theorem members_eq {members : List (String × Value)}
    (hc : doc.containers[place]? = some (.object members)) : doc.members place = members := by
  rw [Document.members, hc]

/-- The name of a member leads to its value. -/
theorem step?_member (hd : doc.DistinctNames) {members : List (String × Value)} {name : String}
    (hc : doc.containers[place]? = some (.object members)) (hm : (name, value) ∈ members) :
    doc.step? (.ref place) (.member name) = some value := by
  have hn : (Assoc.keys members).Nodup := hd _ (Array.mem_of_getElem? hc)
  have hobject : doc.object? (.ref place) = some place := by rw [object?, hc]
  rw [step?, hobject, Option.bind_some, member?, members_eq hc]
  exact (Assoc.lookup_eq_some_iff_mem hn).mpr hm

/-- A position leads to the item there. -/
theorem step?_position {items : List Value} {n : Nat}
    (hc : doc.containers[place]? = some (.sequence items)) (hi : items[n]? = some value) :
    doc.step? (.ref place) (.position n) = some value := by
  have hitems : doc.items? (.ref place) = some items := by rw [items?, container?, hc]
  rw [step?, hitems, Option.bind_some, hi]

/-- The value of a member waits at the end of its name. -/
theorem Trail.member (hd : doc.DistinctNames) {members : List (String × Value)} {name : String}
    (hc : doc.containers[place]? = some (.object members)) (hm : (name, value) ∈ members)
    (hi : isInternal name = false) : doc.Trail ⟨value, some place, [.member name]⟩ where
  leads := follow?_singleton.trans (step?_member hd hc hm)
  steps := List.forall_mem_singleton.mpr (.member (members_eq hc ▸ hm) hi)

/-- An item waits at the end of the path of its sequence and its own position. -/
theorem Trail.item {around : Option Nat} (h : doc.Trail ⟨.ref place, around, path⟩)
    {items : List Value} {n : Nat} (hc : doc.containers[place]? = some (.sequence items))
    (hi : items[n]? = some value) : doc.Trail ⟨value, around, path ++ [.position n]⟩ where
  leads := by
    have hplace : doc.follow? (doc.origin around) path = some (.ref place) := h.leads
    rw [follow?_append, hplace, Option.bind_some, follow?_singleton, step?_position hc hi]
  steps := by
    intro part hp
    rcases List.mem_append.mp hp with hp | hp
    · exact h.steps part hp
    · rw [List.mem_singleton.mp hp]
      exact .position

end

section
variable {doc : Document} {start : Value} {skip : List String}

/-- What holds of the values on the stack of a walk, and is kept from an object to its members and
from a sequence to its items, holds of the objects that are visited. -/
theorem walkFrom_invariant {p : Pending → Prop}
    (object : ∀ place parent path members, p ⟨.ref place, parent, path⟩ →
      doc.containers[place]? = some (.object members) → ∀ name value, (name, value) ∈ members →
      isInternal name = false → p ⟨value, some place, [.member name]⟩)
    (sequence : ∀ place parent path items, p ⟨.ref place, parent, path⟩ →
      doc.containers[place]? = some (.sequence items) → ∀ n value, items[n]? = some value →
      p ⟨value, parent, path ++ [.position n]⟩)
    (stack : List Pending) (seen : List Nat) : (∀ pending ∈ stack, p pending) →
      ∀ visit ∈ doc.walkFrom start skip stack seen, p ⟨.ref visit.node, visit.parent, visit.path⟩ := by
  apply walkFrom_induction (motive := fun stack _ visits => (∀ pending ∈ stack, p pending) →
    ∀ visit ∈ visits, p ⟨.ref visit.node, visit.parent, visit.path⟩)
  case done => exact fun _ _ _ hv => absurd hv List.not_mem_nil
  case pass =>
    intro pending stack seen visits ih hp
    exact ih fun other ho => hp other (List.mem_cons_of_mem _ ho)
  case object =>
    intro place parent path stack seen members visits hs hc ih hp
    obtain ⟨hfirst, hstack⟩ := List.forall_mem_cons.mp hp
    refine List.forall_mem_cons.mpr ⟨hfirst, ih fun pending hm => ?_⟩
    rcases List.mem_append.mp hm with hm | hm
    · obtain ⟨name, value, hmem, hi, -, rfl⟩ := mem_followed.mp hm
      exact object place parent path members hfirst hc name value hmem hi
    · exact hstack pending hm
  case sequence =>
    intro place parent path stack seen items visits hs hc ih hp
    obtain ⟨hfirst, hstack⟩ := List.forall_mem_cons.mp hp
    refine ih fun pending hm => ?_
    rcases List.mem_append.mp hm with hm | hm
    · obtain ⟨⟨value, n⟩, hz, rfl⟩ := List.mem_map.mp hm
      exact sequence place parent path items hfirst hc n value (List.mem_zipIdx_iff_getElem?.mp hz)
    · exact hstack pending hm

/-- If the start of a walk is at the end of its path, then so is every object that is visited. -/
theorem trail_of_mem_walk (hd : doc.DistinctNames) {path : List PathPart}
    (hstart : doc.Trail ⟨start, none, path⟩) {visit : Visit} (hv : visit ∈ doc.walk start path skip) :
    doc.Trail ⟨.ref visit.node, visit.parent, visit.path⟩ :=
  walkFrom_invariant (p := doc.Trail) (fun _ _ _ _ _ hc _ _ hm hi => .member hd hc hm hi)
    (fun _ _ _ _ h hc _ _ hi => h.item hc hi) _ _ (List.forall_mem_singleton.mpr hstart) visit hv

/-- Every object to be indexed is at the end of its path. -/
theorem trail_of_mem_nodes (hd : doc.DistinctNames) {visit : Visit} (hv : visit ∈ doc.nodes) :
    doc.Trail ⟨.ref visit.node, visit.parent, visit.path⟩ := by
  unfold nodes at hv
  split at hv
  · rename_i modules hm
    have hmodules : doc.step? doc.root (.member modulesField) = some modules :=
      (Option.filter_eq_some_iff.mp hm).1
    have hleads : doc.follow? (doc.origin none) [.member modulesField] = some modules :=
      follow?_singleton.trans hmodules
    exact trail_of_mem_walk hd ⟨hleads, List.forall_mem_singleton.mpr .modules⟩ hv
  · exact trail_of_mem_walk hd ⟨rfl, fun _ hp => absurd hp List.not_mem_nil⟩ hv

end

end Document

end ContextSlice
