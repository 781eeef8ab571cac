import ContextSlice.Json.Reader
import ContextSlice.Proofs.Assoc
import ContextSlice.Proofs.Steps

/-!
# What values are made of

An object has at most one member of a name (`Json.DistinctNames`), and the leaves of a value may all have
a property; a value of which both can be said is made of such leaves (`Json.MadeOf`). What is read from a
text is made of the leaves that the readers of strings, numbers and constants find, since of several
members with one name the reader keeps the last (`Json.madeOf_of_read`). So every value that is read has
distinct names (`Json.distinctNames_of_read`).
-/

namespace ContextSlice.Json

/-- No object in a value has two members of one name. -/
inductive DistinctNames : Json → Prop
  | leaf {value : Json} : value.hashable = true → DistinctNames value
  | list {items : List Json} : (∀ item ∈ items, DistinctNames item) → DistinctNames (.list items)
  | object {members : List (String × Json)} : (Assoc.keys members).Nodup →
      (∀ member ∈ members, DistinctNames member.2) → DistinctNames (.object members)

/-- A value is made of leaves with a property, and no object in it has two members of one name. -/
inductive MadeOf (P : Json → Prop) : Json → Prop
  | leaf {value : Json} : value.hashable = true → P value → MadeOf P value
  | list {items : List Json} : (∀ item ∈ items, MadeOf P item) → MadeOf P (.list items)
  | object {members : List (String × Json)} : (Assoc.keys members).Nodup →
      (∀ member ∈ members, MadeOf P member.2) → MadeOf P (.object members)

section
variable {P Q : Json → Prop} {value leaf : Json}

/-! ## Leaves -/

/-- A value without parts is its own only leaf. -/
theorem leaves_of_hashable (h : value.hashable = true) : value.leaves = [value] := by
  cases value with
  | list | object => cases h
  | null | bool | int | real | text => rfl

@[simp] theorem leaves_list (items : List Json) : (Json.list items).leaves = items.flatMap leaves := by
  rw [leaves]
  induction items with
  | nil => rfl
  | cons item items ih => rw [leavesOfItems, ih, List.flatMap_cons]

@[simp] theorem leaves_object (members : List (String × Json)) :
    (Json.object members).leaves = members.flatMap fun member => member.2.leaves := by
  rw [leaves]
  induction members with
  | nil => rfl
  | cons member members ih => rw [leavesOfMembers, ih, List.flatMap_cons]

/-- A value whose objects have distinct names, whatever its leaves are, has distinct names. -/
theorem MadeOf.distinctNames (h : value.MadeOf P) : value.DistinctNames := by
  induction h with
  | leaf hl => exact .leaf hl
  | list _ ih => exact .list ih
  | object hn _ ih => exact .object hn ih

/-- All leaves of a value are such as it is made of. -/
theorem MadeOf.of_mem_leaves (h : value.MadeOf P) (hl : leaf ∈ value.leaves) : P leaf := by
  induction h with
  | leaf hh hp =>
    rw [leaves_of_hashable hh, List.mem_singleton] at hl
    rwa [hl]
  | list _ ih =>
    rw [leaves_list] at hl
    obtain ⟨item, hi, hl⟩ := List.mem_flatMap.mp hl
    exact ih item hi hl
  | object _ _ ih =>
    rw [leaves_object] at hl
    obtain ⟨member, hm, hl⟩ := List.mem_flatMap.mp hl
    exact ih member hm hl

theorem madeOf_object_iff {members : List (String × Json)} :
    (Json.object members).MadeOf P ↔
      (Assoc.keys members).Nodup ∧ ∀ member ∈ members, member.2.MadeOf P :=
  ⟨fun h => by cases h with | leaf hh => cases hh | object hn hm => exact ⟨hn, hm⟩,
    fun h => .object h.1 h.2⟩

/-- A value with distinct names is made of its leaves. -/
theorem DistinctNames.madeOf (h : value.DistinctNames) (hl : ∀ leaf ∈ value.leaves, P leaf) :
    value.MadeOf P := by
  induction h with
  | leaf hh => exact .leaf hh (hl _ (by rw [leaves_of_hashable hh]; exact List.mem_singleton_self _))
  | list _ ih =>
    rw [leaves_list] at hl
    exact .list fun item hi => ih item hi fun leaf hm => hl leaf (List.mem_flatMap.mpr ⟨item, hi, hm⟩)
  | object hn _ ih =>
    rw [leaves_object] at hl
    exact .object hn fun member hm =>
      ih member hm fun leaf hmem => hl leaf (List.mem_flatMap.mpr ⟨member, hm, hmem⟩)

/-- An object that is made of members, the last of equal names remaining, has distinct names. -/
theorem MadeOf.ofMembers {members : List (String × Json)} (h : ∀ member ∈ members, member.2.MadeOf P) :
    (Json.ofMembers members).MadeOf P :=
  .object (Assoc.nodup_keys_ofPairs members) fun member hm => h member (Assoc.mem_of_mem_ofPairs hm)

/-! ## Values that are read -/

/-- A number or a constant has no members. -/
theorem hashable_of_readScalar {cs left : List Char} (h : readScalar cs = .ok (value, left)) :
    value.hashable = true := by
  unfold readScalar at h
  split at h
  · rename_i name found hf
    cases h
    have hconstants : ∀ constant ∈ constants, constant.2.hashable = true := by decide
    exact hconstants _ (List.mem_of_find?_eq_some hf)
  · unfold readNumber at h
    grind [hashable]

/-- Whatever the fuel is, the values that are read are made of the leaves that can be read. -/
theorem madeOf_of_readValue (htext : ∀ s, P (.text s))
    (hscalar : ∀ {cs left value}, readScalar cs = .ok (value, left) → P value) (fuel : Nat) :
    (∀ {cs left value}, readValue fuel cs = .ok (value, left) → value.MadeOf P) ∧
      (∀ {cs left items}, readItems fuel cs = .ok (items, left) → ∀ item ∈ items, item.MadeOf P) ∧
      (∀ {cs left members}, readMembers fuel cs = .ok (members, left) →
        ∀ member ∈ members, member.2.MadeOf P) := by
  induction fuel with
  | zero => exact ⟨nofun, nofun, nofun⟩
  | succ fuel ih =>
    obtain ⟨hvalue, hitems, hmembers⟩ := ih
    refine ⟨fun {cs left value} h => ?_, fun {cs left items} h => ?_, fun {cs left members} h => ?_⟩
    · rw [readValue.eq_def] at h
      dsimp only at h
      split at h
      · obtain ⟨found, -, h⟩ := exists_of_bind_eq_ok h
        cases h
        exact .leaf rfl (htext _)
      · split at h
        · cases h
          exact .list fun _ hm => absurd hm List.not_mem_nil
        · obtain ⟨found, hf, h⟩ := exists_of_bind_eq_ok h
          cases h
          exact .list (hitems hf)
      · split at h
        · cases h
          exact .object List.nodup_nil fun _ hm => absurd hm List.not_mem_nil
        · obtain ⟨found, hf, h⟩ := exists_of_bind_eq_ok h
          cases h
          exact .ofMembers (hmembers hf)
      · exact .leaf (hashable_of_readScalar h) (hscalar h)
    · rw [readItems.eq_def] at h
      obtain ⟨item, hi, h⟩ := exists_of_bind_eq_ok h
      dsimp only at h
      split at h
      · cases h
        exact List.forall_mem_singleton.mpr (hvalue hi)
      · obtain ⟨rest, hr, h⟩ := exists_of_bind_eq_ok h
        cases h
        exact List.forall_mem_cons.mpr ⟨hvalue hi, hitems hr⟩
      · cases h
    · rw [readMembers.eq_def] at h
      obtain ⟨key, -, h⟩ := exists_of_bind_eq_ok h
      obtain ⟨member, hm, h⟩ := exists_of_bind_eq_ok h
      dsimp only at h
      split at h
      · cases h
        exact List.forall_mem_singleton.mpr (hvalue hm)
      · obtain ⟨rest, hr, h⟩ := exists_of_bind_eq_ok h
        cases h
        exact List.forall_mem_cons.mpr ⟨hvalue hm, hmembers hr⟩
      · cases h

/-- A text that is read has characters that are read. -/
theorem readChars_of_read {s : String} (h : Json.read s = .ok value) : readChars s.toList = .ok value := by
  unfold Json.read at h
  split at h
  · rename_i hchars
    cases h
    exact hchars
  · cases h

/-- A text is read as a value if the value is read at its start and nothing but blanks is left. -/
theorem readChars_eq_ok {cs : List Char} (h : readChars cs = .ok value) : ∃ left,
    readValue (2 * cs.length + 1) (skipSpace cs) = .ok (value, left) ∧ skipSpace left = [] := by
  unfold readChars at h
  split at h
  · cases h
  · obtain ⟨⟨found, left⟩, hfound, h⟩ := exists_of_bind_eq_ok h
    dsimp only at h
    split at h
    · rename_i hleft
      cases h
      exact ⟨left, hfound, hleft⟩
    · cases h

/-- A value that is read from a text is made of the leaves that can be read. -/
theorem madeOf_of_read {s : String} (htext : ∀ s, P (.text s))
    (hscalar : ∀ {cs left value}, readScalar cs = .ok (value, left) → P value)
    (h : Json.read s = .ok value) : value.MadeOf P := by
  obtain ⟨left, hvalue, -⟩ := readChars_eq_ok (readChars_of_read h)
  exact (madeOf_of_readValue htext hscalar _).1 hvalue

/-- A value that is read from a text has distinct names. -/
theorem distinctNames_of_read {s : String} (h : Json.read s = .ok value) : value.DistinctNames :=
  (madeOf_of_read (P := fun _ => True) (fun _ => trivial) (fun _ => trivial) h).distinctNames

end

end ContextSlice.Json
