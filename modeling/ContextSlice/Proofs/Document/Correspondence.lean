import ContextSlice.Document.Walk
import ContextSlice.Index.Build
import ContextSlice.Proofs.Assoc.Alike
import ContextSlice.Registry

/-!
# Documents whose containers are paired off

Two documents correspond if their containers can be paired off, beginning with the first ones, so that
the containers of a pair are alike (`Document.Corresponds`): they have the same leaves and refer to
twins. A pair of objects may differ in some of its members, which are hidden; which ones they are may
depend on the place of the object. Containers that only hidden members lead to need no twin, so the two
documents may have any containers there. What is read from twins is the same or alike, unless it is
read from a hidden member (`Document.AlikeAt.member?`, `Document.AlikeAt.textMember?_eq`).
-/

namespace ContextSlice

open Relator

section
variable (twin : Nat → Nat → Prop)

/-- Two values are alike if they are the same leaf or refer to twins. -/
inductive Value.Alike : Value → Value → Prop
  | leaf (leaf : Json) : Alike (.leaf leaf) (.leaf leaf)
  | ref {place other : Nat} : twin place other → Alike (.ref place) (.ref other)

/-- Two containers are alike if they have the same members, but for those of some names, or the same
number of items, and their values are alike one by one. -/
inductive Container.Alike (names : List String) : Container → Container → Prop
  | object {members others : List (String × Value)} :
      Assoc.Alike (· = ·) (Value.Alike twin) (members.filter (·.1 ∉ names))
        (others.filter (·.1 ∉ names)) →
      Alike names (.object members) (.object others)
  | sequence {items others : List Value} : List.Forall₂ (Value.Alike twin) items others →
      Alike names (.sequence items) (.sequence others)

/-- Two containers are alike but for their hidden members. -/
def Container.AlikeBut (hidden : String → Prop) (container other : Container) : Prop :=
  ∃ names : List String, (∀ name ∈ names, hidden name) ∧ Alike twin names container other

end

namespace Document

/-- The names of the members that an index and the registries are made from, whatever the settings. -/
def readFields : List String :=
  [modulesField, graphField, relationshipsField, "id", "name", "from", "to"]

/-- What is at two places is alike but for hidden members: nothing, or containers that are alike. -/
def AlikeAt (left right : Document) (twin : Nat → Nat → Prop) (hidden : String → Prop)
    (place other : Nat) : Prop :=
  Option.Rel (Container.AlikeBut twin hidden) left.containers[place]? right.containers[other]?

/-- The containers of two documents are paired off so that twins are alike but for their hidden
members, none of which the documents are read by. -/
structure Corresponds (left right : Document) (twin : Nat → Nat → Prop)
    (hidden : Nat → String → Prop) : Prop where
  unique : BiUnique twin
  root : Value.Alike twin left.root right.root
  alikeAt {place other : Nat} : twin place other → left.AlikeAt right twin (hidden place) place other
  spares : ∀ place name, hidden place name → name ∉ readFields

end Document

section
variable {twin : Nat → Nat → Prop}

theorem Value.Alike.flip {value other : Value} (h : Value.Alike twin value other) :
    Value.Alike (flip twin) other value := by
  cases h with
  | leaf leaf => exact .leaf leaf
  | ref h => exact .ref h

theorem Container.Alike.flip {names : List String} {container other : Container}
    (h : Container.Alike twin names container other) :
    Container.Alike (flip twin) names other container := by
  cases h with
  | object h => exact .object (.flip (h.imp fun _ _ hp => ⟨hp.1.symm, hp.2.flip⟩))
  | sequence h => exact .sequence (.flip (h.imp fun _ _ hv => hv.flip))

/-- Values that are alike stay so if there are more twins. -/
theorem Value.Alike.mono {twin' : Nat → Nat → Prop} (ht : Subrelation twin twin') {value other : Value}
    (h : Value.Alike twin value other) : Value.Alike twin' value other := by
  cases h with
  | leaf leaf => exact .leaf leaf
  | ref h => exact .ref (ht h)

@[inherit_doc Value.Alike.mono]
theorem Container.Alike.mono {twin' : Nat → Nat → Prop} (ht : Subrelation twin twin') {names : List String}
    {container other : Container} (h : Container.Alike twin names container other) :
    Container.Alike twin' names container other := by
  cases h with
  | object h => exact .object (h.imp fun _ _ hp => ⟨hp.1, hp.2.mono ht⟩)
  | sequence h => exact .sequence (h.imp fun _ _ hv => hv.mono ht)

/-- A value is like itself if the place that it refers to is paired off with itself. -/
theorem Value.Alike.of_self {value : Value} (h : ∀ place, value = .ref place → twin place place) :
    Value.Alike twin value value := by
  cases value with
  | leaf leaf => exact .leaf leaf
  | ref place => exact .ref (h place rfl)

/-- Objects with the same members are alike, whatever members are left out. -/
theorem Container.Alike.members {names : List String} {members others : List (String × Value)}
    (h : Assoc.Alike (· = ·) (Value.Alike twin) members others) :
    Container.Alike twin names (.object members) (.object others) := by
  refine .object (List.rel_filter ?_ h)
  rintro ⟨name, value⟩ ⟨_, value'⟩ ⟨rfl, hv⟩
  rfl

/-- Values that are alike are the same text. -/
theorem Value.Alike.text?_eq {value other : Value} (h : Value.Alike twin value other) :
    value.text? = other.text? := by
  cases h <;> rfl

/-- Values that are alike are alike as texts that are not empty. -/
theorem Value.Alike.nonempty?_eq {value other : Value} (h : Value.Alike twin value other) :
    value.nonempty? = other.nonempty? := by
  rw [Value.nonempty?, Value.nonempty?, h.text?_eq]

/-- If values are alike, then twins are both what they refer to or neither is. -/
theorem Value.Alike.ref_eq_iff {value other : Value} (h : Value.Alike twin value other)
    (hu : BiUnique twin) {place place' : Nat} (ht : twin place place') :
    .ref place = value ↔ .ref place' = other := by
  cases h with
  | leaf => exact iff_of_false Value.noConfusion Value.noConfusion
  | ref hr =>
    rw [Value.ref.injEq, Value.ref.injEq]
    exact rel_eq hu ht hr

/-- Values that are alike make the same reference. -/
theorem Value.Alike.reference?_eq {value other : Value} (h : Value.Alike twin value other) :
    value.reference? = other.reference? := by
  cases h <;> rfl

end

namespace Document

/-- Leaving other members out does not change what is found. -/
theorem lookup_filter_notMem {members : List (String × Value)} {names : List String} {name : String}
    (hn : name ∉ names) : (members.filter (·.1 ∉ names)).lookup name = members.lookup name := by
  induction members with
  | nil => rfl
  | cons member members ih =>
    rw [List.filter_cons]
    by_cases hm : member.1 ∉ names
    · rw [if_pos (by simpa using hm), List.lookup_cons, List.lookup_cons, ih]
    · have hne : name ≠ member.1 := fun he => hm (he ▸ hn)
      rw [if_neg (by simpa using hm), ih, List.lookup_cons, beq_false_of_ne hne]

section
variable {left right : Document} {twin : Nat → Nat → Prop} {hidden : String → Prop}
variable {place other : Nat} {name : String} (h : left.AlikeAt right twin hidden place other)
include h

/-! ## What is read at two places -/

/-- If there is nothing at one place, then there is nothing at the other one. -/
theorem AlikeAt.dangling (hc : left.containers[place]? = none) : right.containers[other]? = none := by
  rw [AlikeAt, hc] at h
  exact eq_none_of_optionRel h

/-- The other place of an object is that of an object with the same members, but for hidden ones. -/
theorem AlikeAt.object {members : List (String × Value)}
    (hc : left.containers[place]? = some (.object members)) :
    ∃ (others : List (String × Value)) (names : List String),
      right.containers[other]? = some (.object others) ∧
      (∀ name ∈ names, hidden name) ∧ Assoc.Alike (· = ·) (Value.Alike twin)
        (members.filter (·.1 ∉ names)) (others.filter (·.1 ∉ names)) := by
  rw [AlikeAt, hc] at h
  obtain ⟨_, hc', names, hnames, hcontainer⟩ := exists_of_optionRel_some h
  cases hcontainer with
  | object hm => exact ⟨_, names, hc', hnames, hm⟩

/-- The other place of a sequence is that of a sequence with the same items. -/
theorem AlikeAt.sequence {items : List Value}
    (hc : left.containers[place]? = some (.sequence items)) :
    ∃ others, right.containers[other]? = some (.sequence others) ∧
      List.Forall₂ (Value.Alike twin) items others := by
  rw [AlikeAt, hc] at h
  obtain ⟨_, hc', names, -, hcontainer⟩ := exists_of_optionRel_some h
  cases hcontainer with
  | sequence hi => exact ⟨_, hc', hi⟩

/-- A member that is not hidden is alike. -/
theorem AlikeAt.member? (hn : ¬hidden name) :
    Option.Rel (Value.Alike twin) (left.member? place name) (right.member? other name) := by
  unfold Document.member? Document.members
  unfold AlikeAt at h
  generalize left.containers[place]? = container, right.containers[other]? = container' at h ⊢
  cases h with
  | none => exact .none
  | some h =>
    obtain ⟨names, hnames, h⟩ := h
    cases h with
    | object hm =>
      have hname : name ∉ names := fun hm => hn (hnames name hm)
      have hfound := hm.lookup biUnique_eq (rfl : name = name)
      rwa [lookup_filter_notMem hname, lookup_filter_notMem hname] at hfound
    | sequence => exact .none

/-- Members that are not hidden have the same texts. -/
theorem AlikeAt.textMember?_eq {names : List String} (hn : ∀ name ∈ names, ¬hidden name) :
    left.textMember? place names = right.textMember? other names := by
  induction names with
  | nil => rfl
  | cons name names ih =>
    obtain ⟨hname, hnames⟩ := List.forall_mem_cons.mp hn
    have hsame : (left.member? place name).bind Value.nonempty? =
        (right.member? other name).bind Value.nonempty? :=
      optionRel_bind_eq (h.member? hname) fun _ _ hv => hv.nonempty?_eq
    have ih := ih hnames
    unfold textMember? at ih ⊢
    rw [List.findSome?_cons, List.findSome?_cons, hsame, ih]

/-- The same id is stated. -/
theorem AlikeAt.statedId?_eq (hn : ¬hidden "id") : left.statedId? place = right.statedId? other := by
  have hid := h.member? hn
  unfold statedId?
  generalize left.member? place "id" = id, right.member? other "id" = id' at hid ⊢
  cases hid with
  | none => rfl
  | some hv => cases hv <;> rfl

/-- The same reference is made. -/
theorem AlikeAt.referenceMember?_eq (hn : ¬hidden name) :
    left.referenceMember? place name = right.referenceMember? other name :=
  optionRel_bind_eq (h.member? hn) fun _ _ hv => hv.reference?_eq

end

section
variable {left right : Document} {twin : Nat → Nat → Prop} {hidden : Nat → String → Prop}
variable (h : left.Corresponds right twin hidden) {place other : Nat} {value value' : Value}
include h

/-! ## What is read from twins -/

/-- A member by which the documents are read is alike. -/
theorem Corresponds.member? (ht : twin place other) {name : String} (hn : name ∈ readFields) :
    Option.Rel (Value.Alike twin) (left.member? place name) (right.member? other name) :=
  (h.alikeAt ht).member? fun hh => h.spares place name hh hn

/-- Twins make the same reference in a member by which the documents are read. -/
theorem Corresponds.referenceMember?_eq (ht : twin place other) {name : String}
    (hn : name ∈ readFields) :
    left.referenceMember? place name = right.referenceMember? other name :=
  (h.alikeAt ht).referenceMember?_eq fun hh => h.spares place name hh hn

/-- Values that are alike refer to the same kind of container. -/
theorem Corresponds.container? (hv : Value.Alike twin value value') :
    Option.Rel (fun container other => ∃ names, Container.Alike twin names container other)
      (left.container? value) (right.container? value') := by
  cases hv with
  | leaf => exact .none
  | ref ht => exact optionRel_mono (h.alikeAt ht) fun _ _ ⟨names, _, hc⟩ => ⟨names, hc⟩

/-- Values that are alike refer to twins if they refer to objects. -/
theorem Corresponds.object? (hv : Value.Alike twin value value') :
    Option.Rel twin (left.object? value) (right.object? value') := by
  have hc := h.container? hv
  cases hv with
  | leaf => exact .none
  | @ref place other ht =>
    rw [Document.container?, Document.container?] at hc
    rw [Document.object?, Document.object?]
    generalize left.containers[place]? = container, right.containers[other]? = container' at hc ⊢
    cases hc with
    | none => exact .none
    | some hc =>
      obtain ⟨_, hc⟩ := hc
      cases hc with
      | object => exact .some ht
      | sequence => exact .none

/-- Sequences that are alike have items that are alike. -/
theorem Corresponds.items? (hv : Value.Alike twin value value') :
    Option.Rel (List.Forall₂ (Value.Alike twin)) (left.items? value) (right.items? value') := by
  have hc := h.container? hv
  unfold Document.items?
  generalize left.container? value = container, right.container? value' = container' at hc ⊢
  cases hc with
  | none => exact .none
  | some hc =>
    obtain ⟨_, hc⟩ := hc
    cases hc with
    | object => exact .none
    | sequence hi => exact .some hi

/-- They are of the same kind. -/
theorem Corresponds.variant_eq (hv : Value.Alike twin value value') :
    left.variant value = right.variant value' := by
  have hc := h.container? hv
  unfold variant
  generalize left.container? value = container, right.container? value' = container' at hc ⊢
  cases hc with
  | none => rfl
  | some hc =>
    obtain ⟨_, hc⟩ := hc
    cases hc <;> rfl

/-- Values that are alike hold the same texts. -/
theorem Corresponds.heldTexts_eq (hv : Value.Alike twin value value') :
    left.heldTexts value = right.heldTexts value' := by
  rw [heldTexts, heldTexts, hv.text?_eq]
  cases value'.text? with
  | some s => rfl
  | none =>
    have hi := h.items? hv
    generalize left.items? value = items, right.items? value' = items' at hi ⊢
    cases hi with
    | none => rfl
    | some hi => exact filterMap_eq_of_forall₂ hi fun _ _ _ hv => hv.text?_eq

end

end Document

end ContextSlice
