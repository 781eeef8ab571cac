import ContextSlice.Assoc
import ContextSlice.Distinct
import Mathlib.Data.List.Forall2

/-!
# Tables that are alike

Two tables are alike if their pairs are, one by one (`Assoc.Alike`). If keys that are alike are in
one-to-one correspondence, then a look-up in two such tables finds values that are alike
(`Assoc.Alike.lookup`), and the tables stay alike when values are put into both or collected in both
(`Assoc.Alike.put`, `Assoc.Alike.append`).
-/

namespace ContextSlice

open Relator

section
variable {α β γ δ : Type} {r : α → β → Prop} {s : γ → δ → Prop}

theorem biUnique_eq : BiUnique (@Eq α) :=
  ⟨fun _ _ _ h h' => h.trans h'.symm, fun _ _ _ h h' => h.symm.trans h'⟩

/-- What is found from optional values that are alike is alike. -/
theorem optionRel_bind {x : Option α} {y : Option β} (h : Option.Rel r x y) {f : α → Option γ}
    {g : β → Option δ} (hf : ∀ a b, r a b → Option.Rel s (f a) (g b)) :
    Option.Rel s (x.bind f) (y.bind g) := by
  cases h with
  | none => exact .none
  | some h => exact hf _ _ h

/-- What is made of optional values that are alike is alike. -/
theorem optionRel_map {x : Option α} {y : Option β} (h : Option.Rel r x y) {f : α → γ} {g : β → δ}
    (hf : ∀ a b, r a b → s (f a) (g b)) : Option.Rel s (x.map f) (y.map g) := by
  cases h with
  | none => exact .none
  | some h => exact .some (hf _ _ h)

/-- A relation between options holds with a weaker one between what is in them. -/
theorem optionRel_mono {x : Option α} {y : Option β} (h : Option.Rel r x y) {r' : α → β → Prop}
    (hr : ∀ a b, r a b → r' a b) : Option.Rel r' x y := by
  cases h with
  | none => exact .none
  | some h => exact .some (hr _ _ h)

/-- Nothing is related to nothing alone. -/
theorem eq_none_of_optionRel {y : Option β} (h : Option.Rel r none y) : y = none := by
  cases h
  rfl

/-- Whatever something is related to is something. -/
theorem exists_of_optionRel_some {a : α} {y : Option β} (h : Option.Rel r (some a) y) :
    ∃ b, y = some b ∧ r a b := by
  cases h with
  | some h => exact ⟨_, rfl, h⟩

/-- Whatever is related to something is something. -/
theorem exists_of_optionRel_right {b : β} {x : Option α} (h : Option.Rel r x (some b)) :
    ∃ a, x = some a ∧ r a b := by
  cases h with
  | some h => exact ⟨_, rfl, h⟩

/-- Optional values that are alike are both there or both not. -/
theorem optionRel_isSome {x : Option α} {y : Option β} (h : Option.Rel r x y) :
    x.isSome = y.isSome := by
  cases h <;> rfl

theorem eq_of_optionRel {x y : Option α} (h : Option.Rel (· = ·) x y) : x = y := by
  cases h with
  | none => rfl
  | some h => rw [h]

/-- What is found from optional values that are alike is the same if it is the same for any two
values that are alike. -/
theorem optionRel_bind_eq {x : Option α} {y : Option β} (h : Option.Rel r x y) {f : α → Option γ}
    {g : β → Option γ} (hf : ∀ a b, r a b → f a = g b) : x.bind f = y.bind g := by
  cases h with
  | none => rfl
  | some h => exact hf _ _ h

variable {xs : List α} {ys : List β}

/-- What is selected from lists that are alike is the same if it is the same for any two members that
are alike. -/
theorem filterMap_eq_of_forall₂ {f : α → Option γ} {g : β → Option γ} (h : List.Forall₂ r xs ys)
    (hf : ∀ a ∈ xs, ∀ b, r a b → f a = g b) : xs.filterMap f = ys.filterMap g := by
  induction h with
  | nil => rfl
  | cons hab _ ih =>
    obtain ⟨hfirst, hrest⟩ := List.forall_mem_cons.mp hf
    rw [List.filterMap_cons, List.filterMap_cons, hfirst _ hab, ih hrest]

/-- Lists that are related member by member give the same if related members do. -/
theorem flatMap_eq_of_forall₂ {f : α → List γ} {g : β → List γ} (h : List.Forall₂ r xs ys)
    (hf : ∀ a ∈ xs, ∀ b, r a b → f a = g b) : xs.flatMap f = ys.flatMap g := by
  induction h with
  | nil => rfl
  | cons hab _ ih =>
    obtain ⟨hfirst, hrest⟩ := List.forall_mem_cons.mp hf
    rw [List.flatMap_cons, List.flatMap_cons, hfirst _ hab, ih hrest]

/-- A member of a list has one that is like it in a list that is alike. -/
theorem exists_mem_of_forall₂ (h : List.Forall₂ r xs ys) {a : α} (ha : a ∈ xs) :
    ∃ b ∈ ys, r a b := by
  induction h with
  | nil => cases ha
  | cons hab _ ih =>
    rcases List.mem_cons.mp ha with rfl | ha
    · exact ⟨_, List.mem_cons_self, hab⟩
    · obtain ⟨b, hb, hr⟩ := ih ha
      exact ⟨b, List.mem_cons_of_mem _ hb, hr⟩

/-- Lists that are alike stay alike when their members are numbered. -/
theorem forall₂_zipIdx (h : List.Forall₂ r xs ys) (first : Nat) :
    List.Forall₂ (fun x y => r x.1 y.1 ∧ x.2 = y.2) (xs.zipIdx first) (ys.zipIdx first) := by
  induction h generalizing first with
  | nil => exact .nil
  | cons hab _ ih => exact .cons ⟨hab, rfl⟩ (ih (first + 1))

end

namespace Assoc

variable {κ κ' ν ν' : Type} [DecidableEq κ] [DecidableEq κ']

/-- Two tables are alike if they have the same number of pairs and these are alike one by one. -/
def Alike (keyRel : κ → κ' → Prop) (valueRel : ν → ν' → Prop) :
    Assoc κ ν → Assoc κ' ν' → Prop :=
  List.Forall₂ fun pair other => keyRel pair.1 other.1 ∧ valueRel pair.2 other.2

variable {keyRel : κ → κ' → Prop} {valueRel : ν → ν' → Prop}
variable {table : Assoc κ ν} {other : Assoc κ' ν'} {key : κ} {key' : κ'}

omit [DecidableEq κ] in
/-- Tables that are alike in the same keys have the same keys. -/
theorem Alike.keys_eq {other : Assoc κ ν'} (h : Alike (· = ·) valueRel table other) :
    keys table = keys other := by
  induction h with
  | nil => rfl
  | cons hpair _ ih => rw [keys, keys, List.map_cons, List.map_cons, ← keys, ← keys, hpair.1, ih]

variable (hu : BiUnique keyRel) (hk : keyRel key key')
include hu hk

/-- A look-up finds values that are alike. -/
theorem Alike.lookup (h : Alike keyRel valueRel table other) :
    Option.Rel valueRel (table.lookup key) (other.lookup key') := by
  induction h with
  | nil => exact .none
  | @cons pair pair' _ _ hpair _ ih =>
    have hsame : key = pair.1 ↔ key' = pair'.1 := rel_eq hu hk hpair.1
    rw [List.lookup_cons, List.lookup_cons]
    by_cases hkey : key = pair.1
    · rw [beq_iff_eq.mpr hkey, beq_iff_eq.mpr (hsame.mp hkey)]
      exact .some hpair.2
    · rw [beq_false_of_ne hkey, beq_false_of_ne (hsame.not.mp hkey)]
      exact ih

/-- Tables stay alike when values that are alike are put into both. -/
theorem Alike.put {value : ν} {value' : ν'} (hv : valueRel value value')
    (h : Alike keyRel valueRel table other) :
    Alike keyRel valueRel (put key value table) (Assoc.put key' value' other) := by
  induction h with
  | nil => exact .cons ⟨hk, hv⟩ .nil
  | @cons pair pair' rest rest' hpair hrest ih =>
    have hsame : pair.1 = key ↔ pair'.1 = key' := rel_eq hu hpair.1 hk
    rw [Assoc.put, Assoc.put]
    by_cases hkey : pair.1 = key
    · rw [if_pos hkey, if_pos (hsame.mp hkey)]
      exact .cons ⟨hpair.1, hv⟩ hrest
    · rw [if_neg hkey, if_neg (hsame.not.mp hkey)]
      exact .cons hpair ih

/-- Tables stay alike when values that are alike are collected in both. -/
theorem Alike.append {table : Assoc κ (List ν)} {other : Assoc κ' (List ν')} {value : ν}
    {value' : ν'} (hv : valueRel value value')
    (h : Alike keyRel (List.Forall₂ valueRel) table other) :
    Alike keyRel (List.Forall₂ valueRel) (append key value table)
      (Assoc.append key' value' other) := by
  induction h with
  | nil => exact .cons ⟨hk, .cons hv .nil⟩ .nil
  | @cons pair pair' rest rest' hpair hrest ih =>
    have hsame : pair.1 = key ↔ pair'.1 = key' := rel_eq hu hpair.1 hk
    rw [Assoc.append, Assoc.append]
    by_cases hkey : pair.1 = key
    · rw [if_pos hkey, if_pos (hsame.mp hkey)]
      exact .cons ⟨hpair.1, List.rel_append hpair.2 (.cons hv .nil)⟩ hrest
    · rw [if_neg hkey, if_neg (hsame.not.mp hkey)]
      exact .cons hpair ih

/-- Two keys that are alike have collected values that are alike. -/
theorem Alike.collected {table : Assoc κ (List ν)} {other : Assoc κ' (List ν')}
    (h : Alike keyRel (List.Forall₂ valueRel) table other) :
    List.Forall₂ valueRel (collected table key) (Assoc.collected other key') := by
  have hfound := h.lookup hu hk
  unfold Assoc.collected
  generalize table.lookup key = values, other.lookup key' = others at hfound ⊢
  cases hfound with
  | none => exact .nil
  | some hv => exact hv

omit hk in
/-- Pairs that are alike make tables that are alike. -/
theorem Alike.ofPairs {pairs : List (κ × ν)} {others : List (κ' × ν')}
    (h : Alike keyRel valueRel pairs others) :
    Alike keyRel valueRel (ofPairs pairs) (Assoc.ofPairs others) :=
  List.rel_foldl (fun _ _ ht _ _ hp => Alike.put hu hp.1 hp.2 ht) List.Forall₂.nil h

end Assoc

end ContextSlice
