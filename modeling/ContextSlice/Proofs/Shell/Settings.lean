import ContextSlice.Proofs.Settings.Lists
import ContextSlice.Proofs.Settings.Reordered
import ContextSlice.Shell.Settings

/-!
# What is known of the reader of settings

The reader that the program runs with takes texts as they are (`Shell.settingReader_takesTexts`), and the
order of members is of no account to it (`Shell.settingReader_orderFree`): all that it accepts are data
without parts and lists of texts (`Shell.exists_texts_of_readTexts`), which have no members.
-/

namespace ContextSlice.Shell

section
variable {α : Type} {value other : Datum} {items : List Datum} {texts : List String}

/-! ## Lists of texts -/

/-- A list of texts has no faults. -/
theorem itemFaults_texts (position : Nat) (texts : List String) :
    itemFaults position (texts.map Datum.text) = [] := by
  induction texts generalizing position with
  | nil => rfl
  | cons s texts ih => exact ih (position + 1)

theorem filterMap_texts (texts : List String) : (texts.map Datum.text).filterMap text? = texts := by
  rw [List.filterMap_map]
  exact List.filterMap_some

/-- The items of a list without faults are texts. -/
theorem exists_texts_of_itemFaults {position : Nat} (h : itemFaults position items = []) :
    ∃ texts : List String, items = texts.map Datum.text := by
  induction items generalizing position with
  | nil => exact ⟨[], rfl⟩
  | cons item items ih =>
    unfold itemFaults at h
    split at h
    · rename_i hnil
      cases hnil
    · rename_i s rest hitems
      cases hitems
      obtain ⟨texts, rfl⟩ := ih h
      exact ⟨s :: texts, rfl⟩
    · cases h

/-- Lists of texts are all that is read as one. -/
theorem exists_texts_of_readTexts (h : readTexts value = .ok texts) : ∃ given, value = .texts given := by
  unfold readTexts at h
  split at h
  · split at h
    · rename_i hfaults
      obtain ⟨given, rfl⟩ := exists_texts_of_itemFaults hfaults
      exact ⟨given, rfl⟩
    · cases h
  · cases h

/-- The reader of the program takes texts as they are. -/
theorem settingReader_takesTexts : settingReader.TakesTexts where
  texts items := by
    show readTexts (.list (items.map Datum.text)) = .ok items
    rw [readTexts, itemFaults_texts, filterMap_texts]
  path _ := rfl

/-! ## Data in another order -/

/-- A check that refuses lists and objects gives the same for data in another order. -/
theorem refines_of_scalars {read : Datum → Except Problem α}
    (hlist : ∀ items, ∃ problem, read (.list items) = .error problem)
    (hobject : ∀ members, ∃ problem, read (.object members) = .error problem) (h : value.Reordered other) :
    Refines ((read value).mapError Problem.told) ((read other).mapError Problem.told) := by
  cases value with
  | scalar leaf =>
    rw [h.eq_of_scalar]
    exact fun _ hx => hx
  | list items =>
    obtain ⟨problem, hread⟩ := hlist items
    rw [hread]
    nofun
  | object members =>
    obtain ⟨problem, hread⟩ := hobject members
    rw [hread]
    nofun

/-- The order of members is of no account to the reader of the program. -/
theorem settingReader_orderFree : settingReader.OrderFree where
  bool := refines_of_scalars (fun _ => ⟨_, rfl⟩) fun _ => ⟨_, rfl⟩
  int := refines_of_scalars (fun _ => ⟨_, rfl⟩) fun _ => ⟨_, rfl⟩
  path := refines_of_scalars (fun _ => ⟨_, rfl⟩) fun _ => ⟨_, rfl⟩
  texts h texts ht := by
    obtain ⟨given, rfl⟩ := exists_texts_of_readTexts ht
    rwa [h.eq_of_texts]
  choice _ := refines_of_scalars (fun _ => ⟨_, rfl⟩) fun _ => ⟨_, rfl⟩

end

end ContextSlice.Shell
