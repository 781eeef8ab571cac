import ContextSlice.Proofs.Document.Twins

/-!
# Walking through twins

In two documents that differ in their metadata only, a walk that does not look at the metadata
(`Document.Overlooks`) passes by what is hidden (`Document.Overlooks.passesBy`). A walk that looks at it
reaches the same objects but for those that the metadata leads to (`Document.Twins.reachable`).
-/

namespace ContextSlice

namespace Document

/-- A walk overlooks the metadata if it does not come to the first object, or begins there and skips
the metadata. -/
def Overlooks (doc : Document) (start : Value) (skip : List String) : Prop :=
  ∀ place, doc.Reachable start skip place → .ref place = doc.root →
    .ref place = start ∧ metadataFields ⊆ skip

/-- A place is in the metadata if it can be reached from a member that the metadata is taken from. -/
def InMetadata (doc : Document) (place : Nat) : Prop :=
  ∃ root name value, doc.root = .ref root ∧ (name, value) ∈ doc.members root ∧
    name ∈ metadataFields ∧ doc.Reachable value [] place

section
variable {doc : Document} {start : Value} {skip : List String} {place inner : Nat}

/-- A walk that overlooks the metadata passes by the members in which two documents may differ. -/
theorem Overlooks.passesBy (ho : doc.Overlooks start skip) :
    doc.PassesBy (fun place name => name ∈ doc.exempt place) start skip := by
  intro place hr name hn
  obtain ⟨hroot, hmetadata⟩ := mem_exempt.mp hn
  obtain ⟨hstart, hskip⟩ := ho place hr hroot
  exact .inr ⟨hstart, hskip hmetadata⟩

/-- What can be reached from the metadata is in the metadata. -/
theorem InMetadata.step (h : doc.InMetadata place) (hl : doc.Leads start [] place inner) :
    doc.InMetadata inner := by
  obtain ⟨root, name, value, hroot, hm, hn, hr⟩ := h
  exact ⟨root, name, value, hroot, hm, hn, hr.step (hl.of_nil value)⟩

end

section
variable {left right : Document} {twin : Nat → Nat → Prop} {place other : Nat}
variable (h : left.Twins right twin)
include h

/-- What an object or a sequence leads to has a twin to which its twin leads, or it is in the
metadata. -/
theorem Twins.leads (ht : twin place other) {start : Value} {inner : Nat}
    (hl : left.Leads start [] place inner) (start' : Value) :
    (∃ inner', twin inner inner' ∧ right.Leads start' [] other inner') ∨
      .ref place = left.root ∧ left.InMetadata inner := by
  cases hl with
  | @member members name hc hm hi hs =>
    by_cases hn : name ∈ left.exempt place
    · unfold exempt at hn
      split at hn
      · rename_i hroot
        exact .inr ⟨hroot, place, name, .ref inner, hroot.symm,
          mem_members_iff.mpr ⟨members, hc, hm⟩, hn, inner, rfl, .refl⟩
      · cases hn
    · obtain ⟨others, hc', hmembers⟩ := h.object ht hc
      obtain ⟨⟨_, value⟩, hmem', rfl, hv⟩ := exists_mem_of_forall₂ hmembers
        (List.mem_filter.mpr ⟨hm, decide_eq_true hn⟩)
      cases hv with
      | ref ht' =>
        exact .inl ⟨_, ht', .member hc' (List.mem_filter.mp hmem').1 hi
          fun h => absurd h.2 List.not_mem_nil⟩
  | item hc hm =>
    obtain ⟨others, hc', hitems⟩ := (h.corresponds.alikeAt ht).sequence hc
    obtain ⟨value, hmem', hv⟩ := exists_mem_of_forall₂ hitems hm
    cases hv with
    | ref ht' => exact .inl ⟨_, ht', .item hc' hmem'⟩

/-- What is reached from a place has a twin that is reached from its twin, or it is in the metadata
and the first object is reached as well. -/
theorem Twins.reachable {first first' : Nat} (ht : twin first first')
    (hr : left.Reachable (.ref first) [] place) :
    (∃ other, twin place other ∧ right.Reachable (.ref first') [] other) ∨
      (∃ root, left.root = .ref root ∧ left.Reachable (.ref first) [] root) ∧
        left.InMetadata place := by
  obtain ⟨_, hf, hp⟩ := hr
  cases hf
  induction hp with
  | refl => exact .inl ⟨first', ht, first', rfl, .refl⟩
  | @tail inner place hpath hl ih =>
    rcases ih with ⟨inner', ht', hr'⟩ | ⟨hroot, hin⟩
    · rcases h.leads ht' hl (.ref first') with ⟨other, ho, hl'⟩ | ⟨hroot, hin⟩
      · exact .inl ⟨other, ho, hr'.step hl'⟩
      · exact .inr ⟨⟨inner, hroot.symm, first, rfl, hpath⟩, hin⟩
    · exact .inr ⟨hroot, hin.step hl⟩

end

end Document

end ContextSlice
