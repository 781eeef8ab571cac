import ContextSlice.Json.Lookup
import ContextSlice.Proofs.Steps
import Mathlib.Data.List.Basic

/-!
# Looking up what can be looked up

Values that can be looked up make a set (`Json.asSet_of_hashable`), and looking them up in a set gives
an answer (`Json.allIn_eq_all`, `Json.notIn_eq_filter`). A text is found in a set that has it and in no
other (`Json.among_text`), and what is found depends on the members of a set alone
(`Json.among_congr`).
-/

namespace ContextSlice.Json

section
variable {set other values : List Json}

/-- Texts can be looked up. -/
theorem hashable_of_mem_texts {texts : List String} :
    ∀ value ∈ texts.map Json.text, value.hashable = true := by
  intro value hv
  obtain ⟨s, -, rfl⟩ := List.mem_map.mp hv
  rfl

/-- Values that can be looked up make a set. -/
theorem asSet_of_hashable (h : ∀ value ∈ values, value.hashable = true) :
    asSet values = .ok values :=
  mapM_eq_self fun value hv => if_pos (h value hv)

/-- A value that can be looked up is in a set if it is among its members. -/
theorem isIn_eq_among (set : List Json) {value : Json} (h : value.hashable = true) :
    isIn set value = .ok (among set value) := by
  rw [isIn, asMember, if_pos h]
  rfl

/-- Values that can be looked up are all in a set if every one is among its members. -/
theorem allIn_eq_all (set : List Json) (h : ∀ value ∈ values, value.hashable = true) :
    allIn set values = .ok (values.all (among set)) := by
  induction values with
  | nil => rfl
  | cons value values ih =>
    obtain ⟨hvalue, hvalues⟩ := List.forall_mem_cons.mp h
    rw [allIn, isIn_eq_among set hvalue, List.all_cons]
    cases among set value with
    | false => rfl
    | true => exact ih hvalues

/-- Values that can be looked up are not in a set if they are not among its members. -/
theorem notIn_eq_filter (set : List Json) (h : ∀ value ∈ values, value.hashable = true) :
    notIn set values = .ok (values.filter fun value => !among set value) := by
  induction values with
  | nil => rfl
  | cons value values ih =>
    obtain ⟨hvalue, hvalues⟩ := List.forall_mem_cons.mp h
    rw [notIn, isIn_eq_among set hvalue, ih hvalues, List.filter_cons]
    cases among set value <;> rfl

/-- A text is the same as itself and as nothing else. -/
theorem same_text {s : String} {value : Json} : same (.text s) value = true ↔ value = .text s := by
  cases value <;> simp [same, number?, eq_comm]

/-- A text is found in a set if it is a member. -/
theorem among_text {s : String} : among set (.text s) = true ↔ .text s ∈ set := by
  simp [among, same_text]

/-- Sets with the same members have the same values. -/
theorem among_congr (h : ∀ value, value ∈ set ↔ value ∈ other) : among set = among other := by
  funext value
  rw [Bool.eq_iff_iff, among, among, List.any_eq_true, List.any_eq_true]
  simp only [h]

end

end ContextSlice.Json
