import ContextSlice.Proofs.Document.CorrespondingRegistry

/-!
# Documents that differ in their metadata

Two documents differ in their metadata only if they correspond and nothing is hidden but the members of
the first objects that the metadata is taken from (`Document.Twins`, `metadataFields`). The documents are
not read by these members, so what is known of documents that correspond holds here
(`Document.Twins.corresponds`).
-/

namespace ContextSlice

open Relator

/-- The members of the first object that the metadata is taken from. -/
def metadataFields : List String := ["project_structure", "ast"]

namespace Document

/-- The members of the object at a place in which two documents may differ. -/
def exempt (doc : Document) (place : Nat) : List String :=
  if .ref place = doc.root then metadataFields else []

/-- The containers of two documents are paired off so that twins are alike but for the metadata. -/
structure Twins (left right : Document) (twin : Nat → Nat → Prop) : Prop where
  unique : BiUnique twin
  root : Value.Alike twin left.root right.root
  container {place other : Nat} : twin place other →
    Option.Rel (Container.Alike twin (left.exempt place)) left.containers[place]?
      right.containers[other]?

/-- Two documents differ in their metadata only. -/
def SameBut (left right : Document) : Prop := ∃ twin, left.Twins right twin

section
variable {doc : Document} {place : Nat} {name : String}

/-- The two members are exempt in the root only. -/
theorem mem_exempt : name ∈ doc.exempt place ↔ .ref place = doc.root ∧ name ∈ metadataFields := by
  unfold exempt
  split
  · rename_i hroot
    exact (and_iff_right hroot).symm
  · rename_i hroot
    exact iff_of_false List.not_mem_nil fun h => hroot h.1

theorem notMem_exempt_of_notMem (hn : name ∉ metadataFields) : name ∉ doc.exempt place :=
  fun h => hn (mem_exempt.mp h).2

/-- No other object has exempt members. -/
theorem exempt_of_ne (h : .ref place ≠ doc.root) : doc.exempt place = [] := if_neg h

end

section
variable {left right : Document} {twin : Nat → Nat → Prop} (h : left.Twins right twin)
variable {place other : Nat}
include h

/-- Documents that differ in their metadata only correspond. -/
theorem Twins.corresponds : left.Corresponds right twin fun place name => name ∈ left.exempt place where
  unique := h.unique
  root := h.root
  alikeAt ht := optionRel_mono (h.container ht) fun _ _ hc => ⟨_, fun _ hn => hn, hc⟩
  spares place name hn := by
    have hdisjoint : ∀ name ∈ metadataFields, name ∉ readFields := by decide
    exact hdisjoint name (mem_exempt.mp hn).2

/-- Of twins both are the first container or neither is. -/
theorem Twins.eq_root_iff (ht : twin place other) :
    .ref place = left.root ↔ .ref other = right.root :=
  h.root.ref_eq_iff h.unique ht

/-- Twins have the same exempt members. -/
theorem Twins.exempt_eq (ht : twin place other) : left.exempt place = right.exempt other := by
  rw [exempt, exempt]
  exact if_congr (h.eq_root_iff ht) rfl rfl

/-- The documents may change places. -/
theorem Twins.symm : right.Twins left (flip twin) where
  unique := ⟨fun _ _ _ ht ht' => h.unique.right ht ht', fun _ _ _ ht ht' => h.unique.left ht ht'⟩
  root := h.root.flip
  container {other place} ht := by
    have hc := h.container ht
    rw [h.exempt_eq ht] at hc
    generalize left.containers[place]? = container, right.containers[other]? = container' at hc ⊢
    cases hc with
    | none => exact .none
    | some hc => exact .some hc.flip

/-- The twin of an object is an object with the same members, but for the metadata. -/
theorem Twins.object (ht : twin place other) {members : List (String × Value)}
    (hc : left.containers[place]? = some (.object members)) :
    ∃ others, right.containers[other]? = some (.object others) ∧
      Assoc.Alike (· = ·) (Value.Alike twin) (members.filter (·.1 ∉ left.exempt place))
        (others.filter (·.1 ∉ left.exempt place)) := by
  obtain ⟨_, hc', hcontainer⟩ := exists_of_optionRel_some (hc ▸ h.container ht)
  cases hcontainer with
  | object hm => exact ⟨_, hc', hm⟩

end

end Document

end ContextSlice
