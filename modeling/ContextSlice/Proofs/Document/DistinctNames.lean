import ContextSlice.Document.File
import ContextSlice.Proofs.Json.MadeOf

/-!
# Distinct names of members

An object of a document has at most one member of a name (`Document.DistinctNames`). This is so when values
with distinct names are made into a document, be it with shared containers or not
(`Document.distinctNames_link`), and the leaves of the document are leaves of the values then
(`Document.madeOf_link`). A value that is read from a file has distinct names, so every document that is
loaded has them (`Document.distinctNames_of_loadDocument`).
-/

namespace ContextSlice

/-- A container has no two members of one name. -/
def Container.DistinctNames : Container → Prop
  | .object members => (Assoc.keys members).Nodup
  | .sequence _ => True

instance (container : Container) : Decidable container.DistinctNames :=
  match container with
  | .object members => inferInstanceAs (Decidable (Assoc.keys members).Nodup)
  | .sequence _ => isTrue trivial

/-- The values that a container holds. -/
def Container.values : Container → List Value
  | .object members => members.map (·.2)
  | .sequence items => items

/-- A value of a document is a reference, or a leaf with a property. -/
inductive Value.MadeOf (P : Json → Prop) : Value → Prop
  | leaf {leaf : Json} : leaf.hashable = true → P leaf → MadeOf P (.leaf leaf)
  | ref (place : Nat) : MadeOf P (.ref place)

/-- A container has distinct names, and the leaves in it have a property. -/
structure Container.MadeOf (P : Json → Prop) (container : Container) : Prop where
  distinctNames : container.DistinctNames
  values : ∀ value ∈ container.values, value.MadeOf P

namespace Document

/-- The containers of a table have distinct names, and the leaves in them have a property. -/
def AllMadeOf (P : Json → Prop) (table : Array Container) : Prop :=
  ∀ container ∈ table, container.MadeOf P

/-- No object among some containers has two members of one name. -/
def AllDistinctNames (table : Array Container) : Prop :=
  ∀ container ∈ table, container.DistinctNames

/-- No object of a document has two members of one name. -/
def DistinctNames (doc : Document) : Prop := AllDistinctNames doc.containers

instance (doc : Document) : Decidable doc.DistinctNames :=
  inferInstanceAs (Decidable (∀ container ∈ doc.containers, container.DistinctNames))

section
variable {P : Json → Prop} {target : Json → Option Nat} {table : Array Container}

/-- Members keep their names when their values are added to the containers. -/
theorem keys_addMembers {members : List (String × Json)} :
    Assoc.keys (addMembers target table members).1 = Assoc.keys members := by
  induction members generalizing table with
  | nil => rw [addMembers]; rfl
  | cons member members ih =>
    rw [addMembers]
    exact congrArg (member.1 :: ·) ih

/-- What is said of adding one value to the containers. -/
def Keeps (P : Json → Prop) (target : Json → Option Nat) (value : Json) : Prop :=
  ∀ {table}, AllMadeOf P table →
    (addValue target table value).1.MadeOf P ∧ AllMadeOf P (addValue target table value).2

/-- Adding the items of a list keeps what the containers are made of. -/
theorem madeOf_addItems {items : List Json} (h : ∀ item ∈ items, Keeps P target item)
    (ht : AllMadeOf P table) :
    (∀ value ∈ (addItems target table items).1, value.MadeOf P) ∧
      AllMadeOf P (addItems target table items).2 := by
  induction items generalizing table with
  | nil =>
    rw [addItems]
    exact ⟨fun _ hv => absurd hv List.not_mem_nil, ht⟩
  | cons item items ih =>
    obtain ⟨hitem, hitems⟩ := List.forall_mem_cons.mp h
    obtain ⟨hvalue, htable⟩ := hitem ht
    obtain ⟨hvalues, hlast⟩ := ih hitems htable
    rw [addItems]
    exact ⟨List.forall_mem_cons.mpr ⟨hvalue, hvalues⟩, hlast⟩

/-- So does adding the members of an object. -/
theorem madeOf_addMembers {members : List (String × Json)}
    (h : ∀ member ∈ members, Keeps P target member.2) (ht : AllMadeOf P table) :
    (∀ value ∈ (addMembers target table members).1.map (·.2), value.MadeOf P) ∧
      AllMadeOf P (addMembers target table members).2 := by
  induction members generalizing table with
  | nil =>
    rw [addMembers]
    exact ⟨fun _ hv => absurd hv List.not_mem_nil, ht⟩
  | cons member members ih =>
    obtain ⟨hmember, hmembers⟩ := List.forall_mem_cons.mp h
    obtain ⟨hvalue, htable⟩ := hmember ht
    obtain ⟨hvalues, hlast⟩ := ih hmembers htable
    rw [addMembers]
    exact ⟨List.forall_mem_cons.mpr ⟨hvalue, hvalues⟩, hlast⟩

/-- The container of an object's members, when their values have been added. -/
theorem madeOf_object {members : List (String × Json)} (hn : (Assoc.keys members).Nodup)
    (hv : ∀ value ∈ (addMembers target table members).1.map (·.2), value.MadeOf P) :
    (Container.object (addMembers target table members).1).MadeOf P :=
  ⟨by rwa [Container.DistinctNames, keys_addMembers], hv⟩

/-- The containers of a value are made of what the value is made of. -/
theorem madeOf_addValue {value : Json} (h : value.MadeOf P) : Keeps P target value := by
  induction h with
  | @leaf value hl hp =>
    intro table ht
    cases value with
    | list | object => cases hl
    | null | bool | int | real | text =>
      rw [addValue.eq_def]
      exact ⟨.leaf rfl hp, ht⟩
  | @list items _ ih =>
    intro table ht
    rw [addValue]
    split
    · exact ⟨.ref _, ht⟩
    · obtain ⟨hvalues, hlast⟩ := madeOf_addItems ih ht
      exact ⟨.ref _, Array.forall_mem_push.mpr ⟨⟨trivial, hvalues⟩, hlast⟩⟩
  | @object members hn _ ih =>
    intro table ht
    rw [addValue]
    split
    · exact ⟨.ref _, ht⟩
    · obtain ⟨hvalues, hlast⟩ := madeOf_addMembers ih ht
      exact ⟨.ref _, Array.forall_mem_push.mpr ⟨madeOf_object hn hvalues, hlast⟩⟩

/-- So does putting a container that is made of the same at a place. -/
theorem madeOf_setIfInBounds {place : Nat} {container : Container} (hc : container.MadeOf P)
    (ht : AllMadeOf P table) : AllMadeOf P (table.setIfInBounds place container) := by
  intro other ho
  rcases Array.mem_or_eq_of_mem_setIfInBounds ho with ho | rfl
  · exact ht other ho
  · exact hc

/-- So does filling a shared container. -/
theorem madeOf_addAt {place : Nat} {shared : List Json} (hd : ∀ value ∈ shared, value.MadeOf P)
    (ht : AllMadeOf P table) : AllMadeOf P (addAt target table place shared) := by
  induction shared generalizing table place with
  | nil => exact ht
  | cons value shared ih =>
    obtain ⟨hvalue, hshared⟩ := List.forall_mem_cons.mp hd
    cases hvalue with
    | @leaf value hl =>
      cases value with
      | list | object => cases hl
      | null | bool | int | real | text =>
        rw [addAt.eq_def]
        exact ih hshared ht
    | @list items hi =>
      rw [addAt]
      obtain ⟨hvalues, hlast⟩ := madeOf_addItems (fun item hm => madeOf_addValue (hi item hm)) ht
      exact ih hshared (madeOf_setIfInBounds ⟨trivial, hvalues⟩ hlast)
    | @object members hn hm =>
      rw [addAt]
      obtain ⟨hvalues, hlast⟩ := madeOf_addMembers (fun member hmem => madeOf_addValue (hm member hmem)) ht
      exact ih hshared (madeOf_setIfInBounds (madeOf_object hn hvalues) hlast)

/-- The containers of a document are made of what the values are made of that it is made from. -/
theorem madeOf_link {shared : List Json} {root : Json} (hs : ∀ value ∈ shared, value.MadeOf P)
    (hr : root.MadeOf P) : AllMadeOf P (link target shared root).containers := by
  have hnew : AllMadeOf P (Array.replicate shared.length (.sequence [])) := by
    intro container hc
    rw [(Array.mem_replicate.mp hc).2]
    exact ⟨trivial, fun _ hv => absurd hv List.not_mem_nil⟩
  exact (madeOf_addValue hr (madeOf_addAt hs hnew)).2

/-- A document that is made of values with distinct names has distinct names. -/
theorem distinctNames_link {shared : List Json} {root : Json}
    (hs : ∀ value ∈ shared, value.DistinctNames) (hr : root.DistinctNames) :
    (link target shared root).DistinctNames := by
  have hmade : AllMadeOf (fun _ => True) (link target shared root).containers :=
    madeOf_link (fun value hv => (hs value hv).madeOf fun _ _ => trivial) (hr.madeOf fun _ _ => trivial)
  exact fun container hc => (hmade container hc).distinctNames

/-- The document of a JSON value with distinct names has distinct names. -/
theorem distinctNames_ofJson {value : Json} (h : value.DistinctNames) : (ofJson value).DistinctNames :=
  distinctNames_link (fun _ hm => absurd hm List.not_mem_nil) h

/-- A value that is loaded is made of the leaves that can be read. -/
theorem madeOf_of_loadDocument {host : Host} {path? : Option FilePath} {value : Json}
    (hread : ∀ {s value}, Json.read s = .ok value → value.MadeOf P)
    (h : loadDocument host path? = .ok value) : value.MadeOf P := by
  obtain ⟨path, hpath⟩ : ∃ path, readDocument host.disk path = .ok value := by
    unfold loadDocument at h
    split at h
    · cases h
    · obtain ⟨path, -, h⟩ := exists_of_bind_eq_ok h
      exact ⟨path, h⟩
  obtain ⟨found, hf, rfl⟩ : ∃ found, host.disk.readJson path = .ok found ∧ asDocument found = value := by
    unfold readDocument at hpath
    grind
  have hfound : found.MadeOf P := by
    unfold Disk.readJson at hf
    split at hf
    · cases hf
    · split at hf
      · cases hf
      · rename_i hr
        cases hf
        exact hread hr
  have hkeys (value : Json) : (Assoc.keys [(modulesField, value)]).Nodup := List.nodup_singleton _
  cases hfound with
  | object hn hm => exact .object hn hm
  | list hi => exact .object (hkeys _) (List.forall_mem_singleton.mpr (.list hi))
  | leaf hl =>
    cases found with
    | list | object => cases hl
    | null | bool | int | real | text =>
      exact .object (hkeys _) (List.forall_mem_singleton.mpr (.list fun _ h => absurd h List.not_mem_nil))

/-- A document that is loaded has distinct names. -/
theorem distinctNames_of_loadDocument {host : Host} {path? : Option FilePath} {value : Json}
    (h : loadDocument host path? = .ok value) : (ofJson value).DistinctNames := by
  have hmade : value.MadeOf fun _ => True :=
    madeOf_of_loadDocument (fun hread => (Json.distinctNames_of_read hread).madeOf fun _ _ => trivial) h
  exact distinctNames_ofJson hmade.distinctNames

end

end Document

end ContextSlice
