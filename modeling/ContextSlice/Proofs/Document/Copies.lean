import ContextSlice.Proofs.Document.Parts

/-!
# Copies of documents

A document is a copy of another one if it differs only in the places of the containers inside
(`Document.CopiedBy`). As the places of different containers differ in both documents, shared and cyclic
references are copied as such. Copies correspond, and nothing is hidden
(`Document.CopiedBy.corresponds`).
-/

namespace ContextSlice

/-- The value whose place has been changed. -/
def Value.rename (f : Nat → Nat) : Value → Value
  | .leaf value => .leaf value
  | .ref place => .ref (f place)

/-- The container whose values have had their places changed. -/
def Container.rename (f : Nat → Nat) : Container → Container
  | .object members => .object (members.map fun member => (member.1, member.2.rename f))
  | .sequence items => .sequence (items.map (Value.rename f))

namespace Document

/-- A document is copied to another one by a change of places if different containers inside it have
different places there, and every container inside it is found at its new place, with the places of its
values changed. -/
structure CopiedBy (f : Nat → Nat) (left right : Document) : Prop where
  injective : Set.InjOn f {place | left.Inside left.root place}
  root : right.root = left.root.rename f
  container : ∀ place, left.Inside left.root place →
    right.containers[f place]? = left.containers[place]?.map (Container.rename f)

/-- A place inside a document is paired off with its new one. -/
def CopiedTo (f : Nat → Nat) (doc : Document) (place other : Nat) : Prop :=
  doc.Inside doc.root place ∧ f place = other

section
variable {left right : Document} {f : Nat → Nat} {twin : Nat → Nat → Prop}

/-- A value is like the renamed one if the place that it refers to is paired off with its new one. -/
theorem alike_rename {value : Value} (h : ∀ place, value = .ref place → twin place (f place)) :
    Value.Alike twin value (value.rename f) := by
  cases value with
  | leaf leaf => exact .leaf leaf
  | ref place => exact .ref (h place rfl)

@[inherit_doc alike_rename]
theorem alike_container_rename {container : Container}
    (h : ∀ place, .ref place ∈ container.values → twin place (f place)) :
    Container.Alike twin [] container (container.rename f) := by
  cases container with
  | object members =>
    refine .members (List.forall₂_map_right_iff.mpr (List.forall₂_same.mpr fun member hm => ⟨rfl, ?_⟩))
    exact alike_rename fun place hp => h place (hp ▸ List.mem_map_of_mem hm)
  | sequence items =>
    refine .sequence (List.forall₂_map_right_iff.mpr (List.forall₂_same.mpr fun value hm => ?_))
    exact alike_rename fun place hp => h place (hp ▸ hm)

/-- A document and its copy correspond, and nothing is hidden. -/
theorem CopiedBy.corresponds (h : CopiedBy f left right) :
    left.Corresponds right (left.CopiedTo f) fun _ _ => False where
  unique := by
    constructor
    · rintro place place' _ ⟨hp, rfl⟩ ⟨hp', he⟩
      exact h.injective hp hp' he.symm
    · rintro _ _ _ ⟨-, rfl⟩ ⟨-, rfl⟩
      rfl
  root := h.root ▸ alike_rename fun place hp => ⟨⟨place, hp, .refl⟩, rfl⟩
  alikeAt := by
    rintro place _ ⟨hp, rfl⟩
    rw [AlikeAt, h.container place hp]
    cases hc : left.containers[place]? with
    | none => exact .none
    | some container =>
      refine .some ⟨[], fun _ hn => absurd hn List.not_mem_nil, alike_container_rename fun inner hi => ?_⟩
      exact ⟨hp.step ⟨container, hc, hi⟩, rfl⟩
  spares _ _ hn := hn.elim

end

end Document

end ContextSlice
