import ContextSlice.Proofs.Document.CorrespondingWalk

/-!
# What is indexed of documents that correspond

The objects that are indexed and the relationships are read from members of the first object. If what is
hidden is passed by there (`Document.Overlooked`), then the objects to be indexed are twins
(`Document.Corresponds.nodes`), and the relationships have the same ends
(`Document.Corresponds.relationships`).
-/

namespace ContextSlice

open Relator

namespace Document

/-- The value that lists the modules of a document, if there is one. -/
def modules? (doc : Document) : Option Value :=
  (doc.rootMember? modulesField).filter fun value => (doc.items? value).isSome

theorem nodes_of_modules {doc : Document} {modules : Value} (hm : doc.modules? = some modules) :
    doc.nodes = doc.walk modules [.member modulesField] [] := by
  rw [nodes, ← modules?, hm]

theorem nodes_of_no_modules {doc : Document} (hm : doc.modules? = none) :
    doc.nodes = doc.walk doc.root [] registryFields := by
  rw [nodes, ← modules?, hm]

/-- What is hidden in a document is passed by where its objects are looked for, among the modules and in
the whole document, and where its relationships are read nothing is hidden. -/
structure Overlooked (doc : Document) (hidden : Nat → String → Prop) : Prop where
  modules : ∀ modules, doc.modules? = some modules → doc.PassesBy hidden modules []
  whole : doc.PassesBy hidden doc.root registryFields
  relationships : ∀ place, doc.registry relationshipsField = .ref place → ∀ name, ¬hidden place name

section
variable {left right : Document} {twin : Nat → Nat → Prop} {hidden : Nat → String → Prop}
variable (h : left.Corresponds right twin hidden) {value value' : Value} {name : String}
include h

/-! ## The objects to be indexed -/

/-- A member of the first objects by which the documents are read is alike. -/
theorem Corresponds.rootMember? (hn : name ∈ readFields) :
    Option.Rel (Value.Alike twin) (left.rootMember? name) (right.rootMember? name) :=
  optionRel_bind (h.object? h.root) fun _ _ ht => h.member? ht hn

/-- The sequences of modules are alike. -/
theorem Corresponds.modules? : Option.Rel (Value.Alike twin) left.modules? right.modules? := by
  have hmodules := h.rootMember? (by decide : modulesField ∈ readFields)
  unfold Document.modules?
  generalize left.rootMember? modulesField = value, right.rootMember? modulesField = value'
    at hmodules ⊢
  cases hmodules with
  | none => exact .none
  | some hv =>
    rw [Option.filter_some, Option.filter_some, optionRel_isSome (h.items? hv)]
    split
    · exact .some hv
    · exact .none

/-- The objects to be indexed are twins, and their paths are the same. -/
theorem Corresponds.nodes (ho : left.Overlooked hidden) :
    List.Forall₂ (Visit.Alike twin) left.nodes right.nodes := by
  cases hl : left.modules? with
  | none =>
    have hr : right.modules? = none := eq_none_of_optionRel (hl ▸ h.modules?)
    rw [nodes_of_no_modules hl, nodes_of_no_modules hr]
    exact h.walk h.root ho.whole []
  | some modules =>
    obtain ⟨modules', hr, hv⟩ := exists_of_optionRel_some (hl ▸ h.modules?)
    rw [nodes_of_modules hl, nodes_of_modules hr]
    exact h.walk hv (ho.modules modules hl) _

/-! ## The relationships -/

/-- Members that are alike have records that are. -/
theorem Corresponds.memberRecords {members others : List (String × Value)}
    (hm : Assoc.Alike (· = ·) (Value.Alike twin) members others) :
    Assoc.Alike (· = ·) twin (left.memberRecords members) (right.memberRecords others) := by
  refine List.rel_filterMap ?_ hm
  rintro ⟨key, value⟩ ⟨_, value'⟩ ⟨rfl, hv⟩
  exact optionRel_map (h.object? hv) fun _ _ ht => ⟨rfl, ht⟩

/-- So have lists whose items are alike. -/
theorem Corresponds.listedRecords {items others : List Value}
    (hi : List.Forall₂ (Value.Alike twin) items others) :
    Assoc.Alike (· = ·) twin (left.listedRecords items) (right.listedRecords others) := by
  refine List.rel_filterMap ?_ (forall₂_zipIdx hi 0)
  rintro ⟨item, position⟩ ⟨item', _⟩ ⟨hv, rfl⟩
  refine optionRel_map (h.object? hv) fun _ _ ht => ⟨?_, ht⟩
  simp only [h.referenceMember?_eq ht (by decide : "id" ∈ readFields)]

/-- Values that are alike hold records that are twins, unless something is hidden in the container that
holds them. -/
theorem Corresponds.table (hv : Value.Alike twin value value')
    (hbare : ∀ place, value = .ref place → ∀ name, ¬hidden place name) :
    Assoc.Alike (· = ·) twin (left.table value) (right.table value') := by
  cases hv with
  | leaf => exact .nil
  | @ref place other ht =>
    have hc := h.alikeAt ht
    rw [Document.table, Document.table, Document.container?, Document.container?]
    unfold AlikeAt at hc
    generalize left.containers[place]? = container, right.containers[other]? = container' at hc ⊢
    cases hc with
    | none => exact .nil
    | some hc =>
      obtain ⟨names, hnames, hc⟩ := hc
      cases hc with
      | object hm =>
        have hnil : names = [] := List.eq_nil_iff_forall_not_mem.mpr fun name hn =>
          hbare place rfl name (hnames name hn)
        have hall : ∀ members : List (String × Value), members.filter (·.1 ∉ []) = members := by
          simp
        rw [hnil, hall, hall] at hm
        exact (h.memberRecords hm).ofPairs biUnique_eq
      | sequence hi => exact (h.listedRecords hi).ofPairs biUnique_eq

/-- Registries under a name that is read are alike. -/
theorem Corresponds.registry (hn : name ∈ readFields) :
    Value.Alike twin (left.registry name) (right.registry name) := by
  have hfound : Option.Rel (Value.Alike twin)
      (((left.rootMember? graphField).bind left.object?).bind (left.member? · name))
      (((right.rootMember? graphField).bind right.object?).bind (right.member? · name)) :=
    optionRel_bind (optionRel_bind (h.rootMember? (by decide)) fun _ _ hv => h.object? hv)
      fun _ _ ht => h.member? ht hn
  unfold Document.registry
  generalize ((left.rootMember? graphField).bind left.object?).bind (left.member? · name) = value,
    ((right.rootMember? graphField).bind right.object?).bind (right.member? · name) = value'
    at hfound ⊢
  cases hfound with
  | none => exact .leaf _
  | some hv => exact hv

/-- The relationships have the same ends. -/
theorem Corresponds.relationships (ho : left.Overlooked hidden) :
    List.Forall₂ (fun relationship other => relationship.source = other.source ∧
      relationship.target = other.target) left.relationships right.relationships := by
  refine List.rel_map ?_ (h.table (h.registry (by decide)) ho.relationships)
  rintro ⟨key, record⟩ ⟨_, record'⟩ ⟨rfl, ht⟩
  exact ⟨h.referenceMember?_eq ht (by decide), h.referenceMember?_eq ht (by decide)⟩

end

end Document

end ContextSlice
