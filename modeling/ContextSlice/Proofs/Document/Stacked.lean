import ContextSlice.Document.OfJson
import ContextSlice.Proofs.Document.DistinctNames
import ContextSlice.Proofs.Document.RootApart

/-!
# Stacked containers

When a JSON value is made into a document, the containers are stacked: each comes after those that it
refers to (`Document.stacked_ofJson`). What values that are added one after another come to is
`Document.Adds`. In a document whose containers are stacked nothing leads back to the first object
(`Document.rootApart_of_stacked`).
-/

namespace ContextSlice

/-- Induction over a JSON value: it has no parts, or what is to be shown holds of its items or of the
values of its members. -/
theorem Json.induction {motive : Json → Prop}
    (leaf : ∀ value, value.hashable = true → motive value)
    (list : ∀ items, (∀ item ∈ items, motive item) → motive (.list items))
    (object : ∀ members, (∀ member ∈ members, motive member.2) → motive (.object members)) :
    ∀ value, motive value
  | .null | .bool _ | .int _ | .real _ | .text _ => leaf _ rfl
  | .list items => list items fun item _ => Json.induction leaf list object item
  | .object members => object members fun member hm =>
      have hlt : sizeOf member.2 < 1 + sizeOf members := by
        have hmember := List.sizeOf_lt_of_mem hm
        rw [Prod.mk.sizeOf_spec] at hmember
        omega
      Json.induction leaf list object member.2
termination_by value => sizeOf value

/-- A value refers to a place below some place only. -/
def Value.Below (value : Value) (place : Nat) : Prop := ∀ inner, value = .ref inner → inner < place

/-- What is below a place is below all that come later. -/
theorem Value.Below.mono {value : Value} {place other : Nat} (h : value.Below place)
    (hle : place ≤ other) : value.Below other :=
  fun inner hi => Nat.lt_of_lt_of_le (h inner hi) hle

namespace Document

/-- Containers are stacked if each of them refers only to those below it. -/
def Stacked (table : Array Container) : Prop :=
  ∀ (place : Nat) (container : Container), table[place]? = some container →
    ∀ value ∈ container.values, value.Below place

/-! ## Adding values -/

/-- Some values have been added to the containers if containers have been put after them, and they are
stacked if they were so before, with the values below the end. -/
structure Adds (table : Array Container) (values : List Value) (after : Array Container) : Prop where
  grows : ∃ more, after = table ++ more
  stacked : Stacked table → Stacked after ∧ ∀ value ∈ values, value.Below after.size

section
variable {table after last : Array Container} {value : Value} {values : List Value}

theorem Adds.nil : Adds table [] table :=
  ⟨⟨#[], Array.append_empty.symm⟩, fun h => ⟨h, fun _ hv => absurd hv List.not_mem_nil⟩⟩

theorem Adds.leaf (leaf : Json) : Adds table [.leaf leaf] table :=
  ⟨⟨#[], Array.append_empty.symm⟩,
    fun h => ⟨h, List.forall_mem_singleton.mpr fun _ hi => Value.noConfusion hi⟩⟩

/-- Values that are added leave no fewer containers. -/
theorem Adds.size_le (h : Adds table values after) : table.size ≤ after.size := by
  obtain ⟨more, rfl⟩ := h.grows
  rw [Array.size_append]
  exact Nat.le_add_right _ _

/-- One value is added and then some others. -/
theorem Adds.cons (h : Adds table [value] after) (hs : Adds after values last) :
    Adds table (value :: values) last where
  grows := by
    obtain ⟨more, rfl⟩ := h.grows
    obtain ⟨rest, rfl⟩ := hs.grows
    exact ⟨more ++ rest, Array.append_assoc⟩
  stacked ht := by
    obtain ⟨hafter, hvalue⟩ := h.stacked ht
    obtain ⟨hlast, hvalues⟩ := hs.stacked hafter
    refine ⟨hlast, List.forall_mem_cons.mpr ⟨?_, hvalues⟩⟩
    exact (List.forall_mem_singleton.mp hvalue).mono hs.size_le

/-- A container is added after the values that it holds. -/
theorem Adds.push (container : Container) (h : Adds table container.values after) :
    Adds table [.ref after.size] (after.push container) where
  grows := by
    obtain ⟨more, rfl⟩ := h.grows
    exact ⟨more.push container, Array.append_push.symm⟩
  stacked ht := by
    obtain ⟨hafter, hvalues⟩ := h.stacked ht
    refine ⟨fun place found hf => ?_, List.forall_mem_singleton.mpr fun inner hi => ?_⟩
    · rw [Array.getElem?_push] at hf
      split at hf
      · rename_i hp
        cases hf
        exact hp ▸ hvalues
      · exact hafter place found hf
    · cases hi
      rw [Array.size_push]
      exact Nat.lt_succ_self _

end

section
variable {P : Array Container → List Value → Array Container → Prop}

/-- What holds when nothing is added, and is kept when values are added one after another, holds when some
JSON values are added for each of which it holds. -/
theorem addItems_invariant (nil : ∀ table, P table [] table)
    (cons : ∀ table value after values last, P table [value] after → P after values last →
      P table (value :: values) last) {items : List Json}
    (h : ∀ item ∈ items, ∀ table, P table [(addValue (fun _ => none) table item).1]
      (addValue (fun _ => none) table item).2) :
    ∀ table, P table (addItems (fun _ => none) table items).1 (addItems (fun _ => none) table items).2 := by
  induction items with
  | nil => intro table; rw [addItems]; exact nil table
  | cons item items ih =>
    obtain ⟨hitem, hitems⟩ := List.forall_mem_cons.mp h
    intro table
    rw [addItems]
    exact cons _ _ _ _ _ (hitem table) (ih hitems _)

/-- What holds when nothing or a leaf is added, and is kept when values are added one after another and
when a container is added after its values, holds when a JSON value is added to some containers. -/
theorem addValue_invariant (nil : ∀ table, P table [] table)
    (leaf : ∀ leaf table, P table [.leaf leaf] table)
    (cons : ∀ table value after values last, P table [value] after → P after values last →
      P table (value :: values) last)
    (push : ∀ table container after, P table container.values after →
      P table [.ref after.size] (after.push container)) (value : Json) :
    ∀ table, P table [(addValue (fun _ => none) table value).1]
      (addValue (fun _ => none) table value).2 := by
  induction value using Json.induction with
  | leaf value hl =>
    intro table
    cases value with
    | list | object => cases hl
    | null | bool | int | real | text => rw [addValue.eq_def]; exact leaf _ table
  | list items ih =>
    intro table
    rw [addValue]
    exact push _ (.sequence _) _ (addItems_invariant nil cons ih table)
  | object members ih =>
    intro table
    have hmembers : ∀ table, P table ((addMembers (fun _ => none) table members).1.map (·.2))
        (addMembers (fun _ => none) table members).2 := by
      clear table
      induction members with
      | nil => intro table; rw [addMembers]; exact nil table
      | cons member members ih' =>
        obtain ⟨hmember, hmembers⟩ := List.forall_mem_cons.mp ih
        intro table
        rw [addMembers]
        exact cons _ _ _ _ _ (hmember table) (ih' hmembers _)
    rw [addValue]
    exact push _ (.object _) _ (hmembers table)

/-- A JSON value is added to the containers after its parts. -/
theorem adds_addValue (value : Json) : ∀ table, Adds table [(addValue (fun _ => none) table value).1]
    (addValue (fun _ => none) table value).2 :=
  addValue_invariant (fun _ => .nil) (fun leaf _ => .leaf leaf) (fun _ _ _ _ _ => .cons)
    (fun _ container _ => .push container) value

/-- The items of a list are added above the containers that were there. -/
theorem adds_addItems (items : List Json) (table : Array Container) :
    Adds table (addItems (fun _ => none) table items).1 (addItems (fun _ => none) table items).2 :=
  addItems_invariant (fun _ => .nil) (fun _ _ _ _ _ => .cons) (fun item _ => adds_addValue item) table

/-- The containers of a JSON value are stacked. -/
theorem stacked_ofJson (value : Json) : Stacked (ofJson value).containers := by
  have hempty : Stacked #[] := fun place container hc => by simp at hc
  exact ((adds_addValue value #[]).stacked hempty).1

end

/-! ## Nothing leads back -/

section
variable {doc : Document} (hs : Stacked doc.containers) {start value : Value} {name : String}
variable {place inner : Nat}
include hs

/-- The member of an object is below it. -/
theorem Stacked.member?_below (h : doc.member? place name = some value) : value.Below place := by
  obtain ⟨members, hc, hm⟩ := mem_members_iff.mp (Assoc.mem_of_lookup_eq_some h)
  exact hs place _ hc value (List.mem_map_of_mem hm)

/-- So are all containers to which one leads. -/
theorem Stacked.leads_lt (hl : doc.Leads start [] place inner) : inner < place := by
  cases hl with
  | member hc hm => exact hs place _ hc _ (List.mem_map_of_mem hm) inner rfl
  | item hc hi => exact hs place _ hc _ hi inner rfl

/-- What is reached is below what the start is below. -/
theorem Stacked.reachable_lt (hv : start.Below place) (h : doc.Reachable start [] inner) :
    inner < place := by
  obtain ⟨first, hf, hp⟩ := h
  induction hp with
  | refl => exact hv first hf
  | tail _ hl ih => exact Nat.lt_trans (hs.leads_lt hl) ih

/-- A member of the root is below it. -/
theorem Stacked.rootMember?_below (h : doc.rootMember? name = some value) :
    ∃ root, doc.root = .ref root ∧ value.Below root := by
  obtain ⟨root, hroot, hm⟩ := Option.bind_eq_some_iff.mp h
  exact ⟨root, eq_ref_of_object?_eq_some hroot, hs.member?_below hm⟩

/-- If the containers are stacked, then nothing leads back to the first object. -/
theorem rootApart_of_stacked : doc.RootApart where
  modules modules hm place hr hroot := by
    obtain ⟨root, hroot', hbelow⟩ := hs.rootMember?_below (Option.filter_eq_some_iff.mp hm).1
    cases hroot.trans hroot'
    exact Nat.lt_irrefl _ (hs.reachable_lt hbelow hr)
  relationships place hp hroot := by
    obtain ⟨value, hv, rfl⟩ : ∃ value, ((doc.rootMember? graphField).bind doc.object?).bind
        (doc.member? · relationshipsField) = some value ∧ value = .ref place := by
      unfold registry at hp
      cases hr : ((doc.rootMember? graphField).bind doc.object?).bind
          (doc.member? · relationshipsField) with
      | none => rw [hr] at hp; cases hp
      | some value => rw [hr] at hp; exact ⟨value, rfl, hp⟩
    obtain ⟨graph, hg, hm⟩ := Option.bind_eq_some_iff.mp hv
    obtain ⟨value, hvalue, hobj⟩ := Option.bind_eq_some_iff.mp hg
    obtain ⟨root, hroot', hbelow⟩ := hs.rootMember?_below hvalue
    cases hroot.trans hroot'
    have hgraph : graph < place := hbelow graph (eq_ref_of_object?_eq_some hobj)
    exact Nat.lt_asymm hgraph (hs.member?_below hm place rfl)

end

end Document

end ContextSlice
