import ContextSlice.Proofs.Document.TwinWalk

/-!
# Documents whose first object stands apart

The objects that are indexed and the relationships are read from members of the first object that the
metadata is not taken from. So they are alike in two documents that differ in their metadata only, unless
the first object is met again there: among what the modules lead to, or as the registry itself. Where
neither is so the first object stands apart (`Document.RootApart`), and the metadata is overlooked
(`Document.RootApart.overlooked`).
-/

namespace ContextSlice

namespace Document

/-- The first object of a document stands apart if the modules do not lead to it, and if it is not the
registry of its own relationships. -/
structure RootApart (doc : Document) : Prop where
  modules : ∀ modules, doc.modules? = some modules →
    ∀ place, doc.Reachable modules [] place → .ref place ≠ doc.root
  relationships : ∀ place, doc.registry relationshipsField = .ref place → .ref place ≠ doc.root

section
variable {doc : Document} {start : Value}

/-- If nothing is skipped, then a walk overlooks the metadata if it does not come to the first object. -/
theorem overlooks_nil_iff :
    doc.Overlooks start [] ↔ ∀ place, doc.Reachable start [] place → .ref place ≠ doc.root := by
  refine forall₂_congr fun place _ => imp_congr_right fun _ => iff_of_eq (eq_false fun h => ?_)
  exact List.not_mem_nil (h.2 List.mem_cons_self)

/-- The walk through a whole document skips the metadata. -/
theorem overlooks_root : doc.Overlooks doc.root registryFields :=
  fun _ _ hroot => ⟨hroot, by decide⟩

/-- If the first object stands apart, then the metadata is overlooked where the document is indexed and
where its relationships are read. -/
theorem RootApart.overlooked (ha : doc.RootApart) :
    doc.Overlooked fun place name => name ∈ doc.exempt place where
  modules modules hm := (overlooks_nil_iff.mpr (ha.modules modules hm)).passesBy
  whole := overlooks_root.passesBy
  relationships place hp _ hn := ha.relationships place hp (mem_exempt.mp hn).1

end

section
variable {left right : Document} {twin : Nat → Nat → Prop} (h : left.Twins right twin)
include h

/-- If a walk does not come to the first object, then neither does the one in the other document. -/
theorem Twins.overlooks {start start' : Value} (hv : Value.Alike twin start start')
    (ho : left.Overlooks start []) : right.Overlooks start' [] := by
  rw [overlooks_nil_iff] at ho ⊢
  rintro place ⟨first', rfl, hp⟩ hroot
  cases hv with
  | @ref first _ ht =>
    -- Up to where the first object is met, all that is reached has a twin that is reached.
    have hreached : ∃ other, twin other place ∧ left.Reachable (.ref first) [] other := by
      clear hroot
      induction hp with
      | refl => exact ⟨first, ht, first, rfl, .refl⟩
      | tail _ hl ih =>
        obtain ⟨inner, ht', hr⟩ := ih
        rcases h.symm.leads ht' hl (.ref first) with ⟨other, ho', hl'⟩ | ⟨hroot, -⟩
        · exact ⟨other, ho', hr.step hl'⟩
        · exact absurd ((h.eq_root_iff ht').mpr hroot) (ho inner hr)
    obtain ⟨other, ht', hr⟩ := hreached
    exact ho other hr ((h.eq_root_iff ht').mpr hroot)

/-- If the first object stands apart in one of two documents that differ in their metadata only, then it
does so in the other one. -/
theorem Twins.rootApart (ha : left.RootApart) : right.RootApart where
  modules modules' hm' := by
    obtain ⟨modules, hm, hv⟩ := exists_of_optionRel_some (hm' ▸ h.symm.corresponds.modules?)
    exact overlooks_nil_iff.mp
      (h.overlooks hv.flip (overlooks_nil_iff.mpr (ha.modules modules hm)))
  relationships place hp hroot := by
    have hv := h.corresponds.registry (by decide : relationshipsField ∈ readFields)
    rw [hp] at hv
    generalize hvalue : left.registry relationshipsField = value at hv
    cases hv with
    | ref ht => exact ha.relationships _ hvalue ((h.eq_root_iff ht).mpr hroot)

end

end Document

end ContextSlice
