import ContextSlice.Proofs.Snapshot.Names
import Mathlib.Data.List.Lex
import Mathlib.Data.String.Basic

/-!
# The order of stamps

Numbers that are written with equally many digits compare as their digits do (`Instant.digits_lt`), so the
stamps of instants whose years have four digits compare as the instants do, and so do the names of
snapshots, whatever their numbers (`Snapshot.name_lt_of_before`). Among the names with one stamp the one
without a number is the greatest (`Snapshot.name_succ_lt`).
-/

namespace ContextSlice

/-- Of two lists of one length the lesser one stays the lesser one, whatever follows. -/
theorem append_lt_append {α : Type} [LT α] {xs ys : List α} (h : xs < ys)
    (hlength : xs.length = ys.length) (us vs : List α) : xs ++ us < ys ++ vs := by
  induction xs generalizing ys with
  | nil =>
    cases ys with
    | nil => cases h
    | cons => cases hlength
  | cons x xs ih =>
    cases ys with
    | nil => cases hlength
    | cons y ys =>
      rw [List.cons_append, List.cons_append, List.cons_lt_cons_iff]
      rcases List.cons_lt_cons_iff.mp h with hfirst | ⟨rfl, hrest⟩
      · exact .inl hfirst
      · exact .inr ⟨rfl, ih hrest (Nat.succ.inj hlength)⟩

namespace Instant

/-- Padded digits are as many as was asked for. -/
theorem length_digits (width n : Nat) : (digits width n).length = width := by
  induction width generalizing n with
  | zero => rfl
  | succ width ih => rw [digits, List.length_append, ih, List.length_singleton]

/-- Of two numbers with equally many digits the lesser one has the lesser digits. -/
theorem digits_lt {width m n : Nat} (h : m < n) (hn : n < 10 ^ width) :
    digits width m < digits width n := by
  induction width generalizing m n with
  | zero => exact absurd (Nat.lt_of_le_of_lt (Nat.zero_le m) h) (by simpa using hn)
  | succ width ih =>
    rw [digits, digits]
    by_cases hhead : m / 10 < n / 10
    · have hbound : n / 10 < 10 ^ width := by rw [Nat.pow_succ] at hn; omega
      exact append_lt_append (ih hhead hbound) (by rw [length_digits, length_digits]) _ _
    · have heq : m / 10 = n / 10 := by omega
      have hlast : m % 10 < n % 10 := by omega
      have hdigit : ∀ d < 10, ∀ e < d, Nat.digitChar e < Nat.digitChar d := by decide
      rw [heq]
      refine List.append_left_lt (List.cons_lt_cons_iff.mpr (.inl ?_))
      exact hdigit _ (Nat.mod_lt _ (by decide)) _ hlast

/-- Numbers in fields of a fixed width, each with a sign after it. -/
def fieldChars : (fields : List (Nat × Char)) → List Nat → List Char
  | (width, sign) :: fields, n :: parts => digits width n ++ sign :: fieldChars fields parts
  | _, _ => []

/-- Whether numbers fit into fields. -/
def Fits (fields : List (Nat × Char)) (parts : List Nat) : Prop :=
  List.Forall₂ (fun field n => n < 10 ^ field.1) fields parts

/-- Numbers in fields compare as the lists of the numbers do, whatever comes after the fields. -/
theorem fieldChars_lt {fields : List (Nat × Char)} {parts others : List Nat} (h : parts < others)
    (hparts : Fits fields parts) (hothers : Fits fields others) (us vs : List Char) :
    fieldChars fields parts ++ us < fieldChars fields others ++ vs := by
  induction hparts generalizing others with
  | nil =>
    cases hothers
    cases h
  | @cons field n fields parts _ _ ih =>
    cases hothers with
    | @cons _ m _ others hm hothers =>
      rw [fieldChars, fieldChars, List.append_assoc, List.append_assoc, List.cons_append, List.cons_append]
      rcases List.cons_lt_cons_iff.mp h with hlt | ⟨rfl, hlt⟩
      · exact append_lt_append (digits_lt hlt hm) (by rw [length_digits, length_digits]) _ _
      · exact List.append_left_lt (List.cons_lt_cons_iff.mpr (.inr ⟨rfl, ih hlt hothers⟩))

/-- The fields of a stamp. -/
def stampFields : List (Nat × Char) :=
  [(4, '-'), (2, '-'), (2, 'T'), (2, '-'), (2, '-'), (2, '-'), (6, 'Z')]

/-- The parts of an instant fit the fields of a stamp. -/
theorem fits_parts (instant : Instant) : Fits stampFields instant.parts := by
  have hdate := instant.date_inRange
  have htime := instant.time_inRange
  simp only [Fits, stampFields, parts, List.forall₂_cons, List.Forall₂.nil, and_true]
  omega

/-- A year of four digits is written with all of them. -/
theorem yearDigits_eq {year : Nat} (h : 1000 ≤ year) (hy : year < 10000) :
    yearDigits year = digits 4 year := by
  have hfirst : Nat.digitChar (year / 10 / 10 / 10 % 10) ≠ '0' := by
    have hdigit : ∀ d < 10, d ≠ 0 → Nat.digitChar d ≠ '0' := by decide
    exact hdigit _ (Nat.mod_lt _ (by decide)) (by omega)
  simp [yearDigits, digits, hfirst]

/-- A stamp with a year of four digits is its parts in fields of fixed width. -/
theorem stampChars_eq {instant : Instant} (h : 1000 ≤ instant.year) :
    instant.stampChars = fieldChars stampFields instant.parts := by
  rw [stampChars, yearDigits_eq h instant.date_inRange.1]
  simp [fieldChars, stampFields, parts]

/-- The earlier of two instants has the lesser stamp, whatever comes after the stamps. -/
theorem stampChars_lt {a b : Instant} (h : a.before b = true) (ha : 1000 ≤ a.year) (us vs : List Char) :
    a.stampChars ++ us < b.stampChars ++ vs := by
  have hparts : a.parts < b.parts := by simpa [before] using h
  have hb : 1000 ≤ b.year := by
    rcases List.cons_lt_cons_iff.mp hparts with hyear | ⟨hyear, -⟩ <;> omega
  rw [stampChars_eq ha, stampChars_eq hb]
  exact fieldChars_lt hparts a.fits_parts b.fits_parts us vs

/-- Of two instants one is earlier, if they are not the same. -/
theorem before_or_before {a b : Instant} (h : a ≠ b) : a.before b = true ∨ b.before a = true := by
  have hparts : a.parts ≠ b.parts := by
    intro hparts
    refine h ?_
    cases a
    cases b
    simpa [parts] using hparts
  rcases lt_or_gt_of_ne hparts with hlt | hlt
  · exact .inl (by simpa [before] using hlt)
  · exact .inr (by simpa [before] using hlt)

end Instant

namespace Snapshot

/-- Of two names the one of the earlier instant is the lesser one, whatever the numbers. -/
theorem name_lt_of_before {a b : Instant} (h : a.before b = true) (ha : 1000 ≤ a.year) (m n : Nat) :
    name a.stamp m < name b.stamp n := by
  have htail (clock : Instant) (number : Nat) : ∃ rest,
      (name clock.stamp number).toList = nameStart.toList ++ (clock.stampChars ++ rest) := by
    cases number with
    | zero => exact ⟨nameEnd.toList, by simp [name, Instant.stamp]⟩
    | succ number =>
      exact ⟨"-".toList ++ (toString (number + 1)).toList ++ nameEnd.toList, by
        simp only [name, Instant.stamp, String.toList_append, String.toList_ofList, List.append_assoc]⟩
  obtain ⟨us, hus⟩ := htail a m
  obtain ⟨vs, hvs⟩ := htail b n
  rw [String.lt_iff_toList_lt, hus, hvs]
  exact List.append_left_lt (Instant.stampChars_lt h ha us vs)

/-- A name with a number is less than the name without one. -/
theorem name_succ_lt (stamp : String) (number : Nat) : name stamp (number + 1) < name stamp 0 := by
  rw [String.lt_iff_toList_lt]
  simp only [name, String.toList_append, List.append_assoc]
  refine List.append_left_lt (List.append_left_lt ?_)
  exact List.cons_lt_cons_iff.mpr (.inl (by decide))

end Snapshot

end ContextSlice
