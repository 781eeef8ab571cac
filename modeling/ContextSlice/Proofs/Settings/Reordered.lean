import ContextSlice.Proofs.Datum.Reordered
import ContextSlice.Proofs.Steps
import ContextSlice.Settings.Validation

/-!
# Settings from reordered data

If the order of members is of no account to the reader of settings (`SettingReader.OrderFree`), then data
that are accepted as settings are accepted in any other order too, and give the same settings
(`Settings.ofMembers_of_sameMap`), because the settings look the data up.
-/

namespace ContextSlice

/-- What one check accepts another accepts with the same result. -/
def Refines {ε ε' α : Type} (checked : Except ε α) (other : Except ε' α) : Prop :=
  ∀ x, checked = .ok x → other = .ok x

/-- What refines a check still does so if its result is put through a function. -/
theorem Refines.map {ε ε' α β : Type} {checked : Except ε α} {other : Except ε' α} (f : α → β)
    (h : Refines checked other) : Refines (checked.map f) (other.map f) := by
  intro y hy
  obtain ⟨x, hx, rfl⟩ := exists_of_map_eq_ok hy
  rw [h x hx]
  rfl

/-- Checked applications refine each other if their parts do. -/
theorem Refines.apply {α β : Type} {f f' : Checked (α → β)} {x x' : Checked α}
    (hf : Refines f f') (hx : Refines x x') : Refines (Checked.apply f x) (Checked.apply f' x') := by
  intro y h
  rcases f with faults | f <;> rcases x with faults' | x
  · cases h
  · cases h
  · cases h
  · rw [hf f rfl, hx x rfl]
    exact h

/-- What the reader makes of a datum it makes of any other one that is the same but for the order of
members. -/
structure SettingReader.OrderFree (reader : SettingReader) : Prop where
  bool : ∀ {value other : Datum}, value.Reordered other → Refines (reader.bool value) (reader.bool other)
  int : ∀ {value other : Datum}, value.Reordered other → Refines (reader.int value) (reader.int other)
  path : ∀ {value other : Datum}, value.Reordered other → Refines (reader.path value) (reader.path other)
  texts : ∀ {value other : Datum}, value.Reordered other → Refines (reader.texts value) (reader.texts other)
  choice : ∀ {value other : Datum} (names : List String), value.Reordered other →
    Refines (reader.choice names value) (reader.choice names other)

namespace Settings

section
variable {α : Type} {reader : SettingReader} {values others : Members} {name : String} {default : α}
  {read : Datum → Except SettingProblem α}

/-- A setting is read from reordered data as it is from the data themselves. -/
theorem setting_refines (h : Assoc.SameMap values others)
    (hr : ∀ {value other : Datum}, value.Reordered other → Refines (read value) (read other)) :
    Refines (setting values name default read) (setting others name default read) := by
  intro x hx
  have hrel := h name
  unfold setting at hx ⊢
  cases hv : values.lookup name with
  | none =>
    rw [hv] at hx hrel
    rwa [eq_none_of_optionRel hrel]
  | some value =>
    rw [hv] at hx hrel
    obtain ⟨other, ho, hsame⟩ := exists_of_optionRel_some hrel
    dsimp only at hx
    split at hx
    · rename_i hread
      rw [ho]
      dsimp only
      rw [hr hsame _ hread]
      exact hx
    · cases hx

/-- A setting that is a list is read from reordered data as it is from the data themselves. -/
theorem textsSetting_refines {default : List String} (hr : reader.OrderFree)
    (h : Assoc.SameMap values others) :
    Refines (textsSetting reader values name default) (textsSetting reader others name default) := by
  intro texts ht
  have hrel := h name
  unfold textsSetting at ht ⊢
  cases hv : values.lookup name with
  | none =>
    rw [hv] at ht hrel
    rwa [eq_none_of_optionRel hrel]
  | some value =>
    rw [hv] at ht hrel
    obtain ⟨other, ho, hsame⟩ := exists_of_optionRel_some hrel
    dsimp only at ht
    split at ht
    · rename_i hread
      rw [ho]
      dsimp only
      rw [hr.texts hsame _ hread]
      exact ht
    · cases ht

/-! ## Readers made of the reader -/

/-- So is a whole number from one on. -/
theorem readPositive_refines (hr : reader.OrderFree) {value other : Datum} (h : value.Reordered other) :
    Refines (readPositive reader value) (readPositive reader other) := by
  intro n hn
  obtain ⟨m, hm, hn⟩ := exists_of_bind_eq_ok hn
  rw [readPositive, hr.int h m hm]
  exact hn

theorem readPolicy_refines (hr : reader.OrderFree) {value other : Datum} (h : value.Reordered other) :
    Refines (readPolicy reader value) (readPolicy reader other) :=
  (hr.choice _ h).map _

theorem readPath?_refines (hr : reader.OrderFree) {value other : Datum} (h : value.Reordered other) :
    Refines (readPath? reader value) (readPath? reader other) := by
  have hnull : value = .scalar .null ↔ other = .scalar .null :=
    ⟨fun heq => (heq ▸ h).eq_of_scalar, fun heq => (heq ▸ h.symm).eq_of_scalar⟩
  unfold readPath?
  by_cases hv : value = .scalar .null
  · rw [if_pos hv, if_pos (hnull.mp hv)]
    exact fun _ hx => hx
  · rw [if_neg hv, if_neg (mt hnull.mpr hv)]
    exact (hr.path h).map some

/-- Data that are accepted as settings are accepted in any other order, and give the same settings. -/
theorem ofMembers_of_sameMap {settings : Settings} (hr : reader.OrderFree)
    (h : Assoc.SameMap values others) (ho : ofMembers reader values = .ok settings) :
    ofMembers reader others = .ok settings := by
  have hrefines : Refines (ofMembers reader values) (ofMembers reader others) := by
    refine Refines.apply (Refines.apply (Refines.apply (Refines.apply (Refines.apply (Refines.apply
      (Refines.apply (Refines.apply (Refines.apply (Refines.apply (fun _ h => h)
        ?_) ?_) ?_) ?_) ?_) ?_) ?_) ?_) ?_) ?_
    · exact setting_refines h (readPath?_refines hr)
    · exact setting_refines h hr.path
    · exact setting_refines h hr.bool
    · exact textsSetting_refines hr h
    · exact textsSetting_refines hr h
    · exact textsSetting_refines hr h
    · exact textsSetting_refines hr h
    · exact setting_refines h (readPositive_refines hr)
    · exact setting_refines h (readPolicy_refines hr)
    · exact setting_refines h hr.bool
  exact hrefines settings ho

end

end Settings

end ContextSlice
