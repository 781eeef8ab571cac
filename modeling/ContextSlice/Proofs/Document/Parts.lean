import ContextSlice.Proofs.Document.CorrespondingRegistry
import ContextSlice.Proofs.Document.DistinctNames

/-!
# What is inside a value

A place is inside a value if references lead to it, be they items or members of any name
(`Document.Inside`). A walk comes to fewer places, since it does not follow internal members.
-/

namespace ContextSlice

namespace Document

section
variable (doc : Document)

/-- A container refers to a place if an item or a member of it does. -/
def Refers (place inner : Nat) : Prop :=
  ∃ container, doc.containers[place]? = some container ∧ .ref inner ∈ container.values

/-- A place is inside a value if references lead from the value to it. -/
def Inside (value : Value) (place : Nat) : Prop :=
  ∃ first, value = .ref first ∧ Relation.ReflTransGen doc.Refers first place

end

section
variable {doc : Document} {value inner : Value} {place : Nat} {name : String}

theorem inside_self : doc.Inside (.ref place) place := ⟨place, rfl, .refl⟩

/-- What a container inside a value refers to is inside the value. -/
theorem Inside.step (h : doc.Inside value place) {other : Nat} (hr : doc.Refers place other) :
    doc.Inside value other := by
  obtain ⟨first, hf, hp⟩ := h
  exact ⟨first, hf, hp.tail hr⟩

/-- What holds of the place that a value refers to, and is kept from a container to those that it refers to,
holds of all places inside the value. -/
theorem Inside.invariant {p : Nat → Prop} (start : ∀ first, value = .ref first → p first)
    (step : ∀ place other, p place → doc.Refers place other → p other) (h : doc.Inside value place) :
    p place := by
  obtain ⟨first, hf, hp⟩ := h
  induction hp with
  | refl => exact start first hf
  | tail _ hr ih => exact step _ _ ih hr

/-- What a walk reaches from a value is inside the value. -/
theorem Reachable.inside {skip : List String} (h : doc.Reachable value skip place) :
    doc.Inside value place := by
  obtain ⟨first, rfl, hp⟩ := h
  refine ⟨first, rfl, Relation.ReflTransGen.mono (fun outer inner hl => ?_) _ _ hp⟩
  cases hl with
  | member hc hm => exact ⟨_, hc, List.mem_map_of_mem hm⟩
  | item hc hi => exact ⟨_, hc, hi⟩

/-- The members of an object inside a value are inside the value. -/
theorem Inside.member? (h : doc.Inside value place) {other : Nat}
    (hm : doc.member? place name = some (.ref other)) : doc.Inside value other := by
  obtain ⟨members, hc, hmem⟩ := mem_members_iff.mp (Assoc.mem_of_lookup_eq_some hm)
  exact h.step ⟨_, hc, List.mem_map_of_mem hmem⟩

end

end Document

end ContextSlice
