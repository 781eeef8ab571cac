import ContextSlice.Datum
import ContextSlice.Proofs.Assoc
import ContextSlice.Proofs.Assoc.Alike

/-!
# Data that are the same but for the order of members

To whoever only looks members up, the order in which they stand in an object is of no account
(`Datum.Reordered`). Tables are the same then if each key has data in them that are
(`Assoc.SameMap`), and they stay the same when a member is put into both or taken from both.
-/

namespace ContextSlice

/-- Two data are the same but for the order of the members of objects. -/
inductive Datum.Reordered : Datum → Datum → Prop
  | refl (value : Datum) : Reordered value value
  | list {items others : List Datum} (hlength : items.length = others.length)
      (hitems : ∀ (position : Nat) (item other : Datum), items[position]? = some item →
        others[position]? = some other → Reordered item other) : Reordered (.list items) (.list others)
  | object {members others : Members}
      (hkeys : ∀ key, (members.lookup key).isSome = (others.lookup key).isSome)
      (hvalues : ∀ (key : String) (value other : Datum), members.lookup key = some value →
        others.lookup key = some other → Reordered value other) :
      Reordered (.object members) (.object others)

/-- Two tables have the same keys, and under each key data that are the same but for the order of
members. -/
def Assoc.SameMap (table other : Members) : Prop :=
  ∀ key, Option.Rel Datum.Reordered (table.lookup key) (other.lookup key)

section
variable {value other third : Datum} {table table' table'' : Members} {key : String}

namespace Datum

theorem Reordered.symm (h : value.Reordered other) : other.Reordered value := by
  induction h with
  | refl value => exact .refl value
  | list hlength _ ih => exact .list hlength.symm fun position item other hi ho => ih position other item ho hi
  | object hkeys _ ih =>
    exact .object (fun key => (hkeys key).symm) fun key value other hv ho => ih key other value ho hv

theorem Reordered.trans (h : value.Reordered other) (h' : other.Reordered third) :
    value.Reordered third := by
  induction h generalizing third with
  | refl => exact h'
  | @list items others hlength hitems ih =>
    cases h' with
    | refl => exact .list hlength hitems
    | @list _ thirds hlength' hitems' =>
      refine .list (hlength.trans hlength') fun position item third hi ht => ?_
      have hlt : position < others.length := hlength ▸ (List.getElem?_eq_some_iff.mp hi).1
      have hother := List.getElem?_eq_getElem hlt
      exact ih position item _ hi hother (hitems' position _ third hother ht)
  | @object members others hkeys hvalues ih =>
    cases h' with
    | refl => exact .object hkeys hvalues
    | @object _ thirds hkeys' hvalues' =>
      refine .object (fun key => (hkeys key).trans (hkeys' key)) fun key value third hv ht => ?_
      obtain ⟨between, hb⟩ := Option.isSome_iff_exists.mp (hkeys key ▸ Option.isSome_of_eq_some hv)
      exact ih key value between hv hb (hvalues' key between third hb ht)

/-- A datum without parts is the same as itself only. -/
theorem Reordered.eq_of_scalar {leaf : Scalar} (h : (Datum.scalar leaf).Reordered other) :
    other = .scalar leaf := by
  cases h
  rfl

/-- A list of data without parts is the same as itself only. -/
theorem Reordered.eq_of_scalars {leaves : List Scalar}
    (h : (Datum.list (leaves.map .scalar)).Reordered other) : other = .list (leaves.map .scalar) := by
  cases h with
  | refl => rfl
  | @list _ others hlength hitems =>
    rw [List.ext_getElem hlength fun position hi ho => ?_]
    have hitem := hitems position _ _ (List.getElem?_eq_getElem hi) (List.getElem?_eq_getElem ho)
    rw [List.getElem_map] at hitem ⊢
    exact hitem.eq_of_scalar.symm

/-- A list of texts is the same as itself only. -/
theorem Reordered.eq_of_texts {items : List String} (h : (Datum.texts items).Reordered other) :
    other = .texts items := by
  have htexts : Datum.texts items = .list ((items.map Scalar.text).map .scalar) := by
    rw [texts, List.map_map]
    rfl
  rw [htexts] at h ⊢
  exact h.eq_of_scalars

/-- Objects are the same if their members are. -/
theorem Reordered.of_sameMap (h : Assoc.SameMap table table') :
    (Datum.object table).Reordered (.object table') := by
  refine .object (fun key => optionRel_isSome (h key)) fun key value other hv ho => ?_
  have hrel := h key
  rw [hv, ho] at hrel
  cases hrel with
  | some hrel => exact hrel

/-- The members of objects that are the same are the same table. -/
theorem Reordered.sameMap (h : (Datum.object table).Reordered (.object table')) :
    Assoc.SameMap table table' := by
  intro key
  cases h with
  | refl => cases table.lookup key with
    | none => exact .none
    | some value => exact .some (.refl value)
  | object hkeys hvalues =>
    cases hv : table.lookup key with
    | none =>
      have hnone : table'.lookup key = none := by simpa [hv] using (hkeys key).symm
      rw [hnone]
      exact .none
    | some value =>
      obtain ⟨other, ho⟩ := Option.isSome_iff_exists.mp (hkeys key ▸ Option.isSome_of_eq_some hv)
      rw [ho]
      exact .some (hvalues key value other hv ho)

/-- The members of objects that are the same are the same, and only an object has members. -/
theorem Reordered.members? (h : value.Reordered other) :
    Option.Rel Assoc.SameMap value.members? other.members? := by
  cases value with
  | object table =>
    cases h with
    | refl => exact .some (refl (.object table)).sameMap
    | object hkeys hvalues => exact .some (object hkeys hvalues).sameMap
  | list items => cases h <;> exact .none
  | scalar leaf =>
    cases h
    exact .none

end Datum

namespace Assoc

theorem SameMap.refl (table : Members) : SameMap table table :=
  (Datum.Reordered.refl (.object table)).sameMap

theorem SameMap.symm (h : SameMap table table') : SameMap table' table :=
  (Datum.Reordered.of_sameMap h).symm.sameMap

theorem SameMap.trans (h : SameMap table table') (h' : SameMap table' table'') : SameMap table table'' :=
  ((Datum.Reordered.of_sameMap h).trans (.of_sameMap h')).sameMap

/-- Tables stay the same when data that are the same are put under a key of both. -/
theorem SameMap.put (h : SameMap table table') (hv : value.Reordered other) (key : String) :
    SameMap (put key value table) (Assoc.put key other table') := by
  intro found
  rw [lookup_put, lookup_put]
  split
  · exact .some hv
  · exact h found

end Assoc

end

end ContextSlice
