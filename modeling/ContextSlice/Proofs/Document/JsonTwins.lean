import ContextSlice.Proofs.Document.Stacked

/-!
# Documents of JSON values that differ in their metadata

If two JSON objects differ in the members that the metadata is taken from, then their documents differ
in their metadata only (`Document.sameBut_ofJson`). The containers of equal values are paired off while
these are added (`Document.Coupled`), and what is added on one side only needs no twin.
-/

namespace ContextSlice

open Relator

namespace Document

/-! ## Pairing off what is added -/

/-- Containers have been paired off so that twins are alike. -/
structure Coupled (twin : Nat → Nat → Prop) (left right : Array Container) : Prop where
  unique : BiUnique twin
  lt_size {place other : Nat} : twin place other → place < left.size ∧ other < right.size
  container {place other : Nat} : twin place other →
    Option.Rel (Container.Alike twin []) left[place]? right[other]?

/-- If the containers before have been paired off, then those of a value can be as well when it is added
on both sides. -/
def Couples (value : Json) : Prop :=
  ∀ (twin : Nat → Nat → Prop) (left right : Array Container), Coupled twin left right →
    ∃ twin', Subrelation twin twin' ∧
      Coupled twin' (addValue (fun _ => none) left value).2 (addValue (fun _ => none) right value).2 ∧
      Value.Alike twin' (addValue (fun _ => none) left value).1 (addValue (fun _ => none) right value).1

section
variable {twin twin' : Nat → Nat → Prop} {left right : Array Container}

/-- More containers on the left side do not part those that are coupled. -/
theorem Coupled.append_left (h : Coupled twin left right) (more : Array Container) :
    Coupled twin (left ++ more) right where
  unique := h.unique
  lt_size ht := by
    rw [Array.size_append]
    exact ⟨Nat.lt_add_right _ (h.lt_size ht).1, (h.lt_size ht).2⟩
  container ht := by
    rw [Array.getElem?_append_left (h.lt_size ht).1]
    exact h.container ht

/-- Nor do more containers on the right side. -/
theorem Coupled.append_right (h : Coupled twin left right) (more : Array Container) :
    Coupled twin left (right ++ more) where
  unique := h.unique
  lt_size ht := by
    rw [Array.size_append]
    exact ⟨(h.lt_size ht).1, Nat.lt_add_right _ (h.lt_size ht).2⟩
  container ht := by
    rw [Array.getElem?_append_left (h.lt_size ht).2]
    exact h.container ht

/-- The two places after all others become twins. -/
def joined (twin : Nat → Nat → Prop) (last last' place other : Nat) : Prop :=
  twin place other ∨ place = last ∧ other = last'

/-- Containers that are added on both sides at once are each other's only twins. -/
theorem Coupled.biUnique_joined (h : Coupled twin left right) :
    BiUnique (joined twin left.size right.size) := by
  constructor
  · rintro p q other (hp | ⟨rfl, ho⟩) (hq | ⟨rfl, ho'⟩)
    · exact h.unique.left hp hq
    · exact absurd ho' (Nat.ne_of_lt (h.lt_size hp).2)
    · exact absurd ho (Nat.ne_of_lt (h.lt_size hq).2)
    · rfl
  · rintro place p q (hp | ⟨ho, rfl⟩) (hq | ⟨ho', rfl⟩)
    · exact h.unique.right hp hq
    · exact absurd ho' (Nat.ne_of_lt (h.lt_size hp).1)
    · exact absurd ho (Nat.ne_of_lt (h.lt_size hq).1)
    · rfl

/-- A container is added on both sides after what it holds has been. -/
theorem Coupled.push (h : Coupled twin left right) {container other : Container}
    (hc : Container.Alike twin [] container other) :
    Coupled (joined twin left.size right.size) (left.push container) (right.push other) where
  unique := h.biUnique_joined
  lt_size ht := by
    rw [Array.size_push, Array.size_push]
    rcases ht with ht | ⟨rfl, rfl⟩
    · exact ⟨Nat.lt_succ_of_lt (h.lt_size ht).1, Nat.lt_succ_of_lt (h.lt_size ht).2⟩
    · exact ⟨Nat.lt_succ_self _, Nat.lt_succ_self _⟩
  container {place other'} ht := by
    rw [Array.getElem?_push, Array.getElem?_push]
    rcases ht with ht | ⟨rfl, rfl⟩
    · rw [if_neg (Nat.ne_of_lt (h.lt_size ht).1), if_neg (Nat.ne_of_lt (h.lt_size ht).2)]
      exact optionRel_mono (h.container ht) fun _ _ hc => hc.mono .inl
    · rw [if_pos rfl, if_pos rfl]
      exact .some (hc.mono .inl)

/-- Items that are added on both sides are paired off one after another. -/
theorem exists_coupled_addItems {items : List Json} (hi : ∀ item ∈ items, Couples item)
    (h : Coupled twin left right) :
    ∃ twin', Subrelation twin twin' ∧
      Coupled twin' (addItems (fun _ => none) left items).2 (addItems (fun _ => none) right items).2 ∧
      List.Forall₂ (Value.Alike twin') (addItems (fun _ => none) left items).1
        (addItems (fun _ => none) right items).1 := by
  induction items generalizing twin left right with
  | nil =>
    rw [addItems, addItems]
    exact ⟨twin, id, h, .nil⟩
  | cons item items ih =>
    obtain ⟨hitem, hitems⟩ := List.forall_mem_cons.mp hi
    obtain ⟨twin₁, hle, hc, hv⟩ := hitem twin left right h
    obtain ⟨twin₂, hle', hc', hvs⟩ := ih hitems hc
    rw [addItems, addItems]
    exact ⟨twin₂, fun ht => hle' (hle ht), hc', .cons (hv.mono hle') hvs⟩

section
variable {names : List String} {name : String} {member : Json} {members others : List (String × Json)}

theorem filter_cons_of_mem {α : Type} {value : α} {members : List (String × α)} (hn : name ∈ names) :
    ((name, value) :: members).filter (·.1 ∉ names) = members.filter (·.1 ∉ names) :=
  List.filter_cons_of_neg (by simpa using hn)

theorem filter_cons_of_notMem {α : Type} {value : α} {members : List (String × α)}
    (hn : name ∉ names) :
    ((name, value) :: members).filter (·.1 ∉ names) =
      (name, value) :: members.filter (·.1 ∉ names) :=
  List.filter_cons_of_pos (by simpa using hn)

/-- What members that are added on both sides come to. -/
def CouplesMembers (names : List String) (members others : List (String × Json)) : Prop :=
  ∀ (twin : Nat → Nat → Prop) (left right : Array Container), Coupled twin left right →
    ∃ twin', Subrelation twin twin' ∧
      Coupled twin' (addMembers (fun _ => none) left members).2
        (addMembers (fun _ => none) right others).2 ∧
      Assoc.Alike (· = ·) (Value.Alike twin')
        ((addMembers (fun _ => none) left members).1.filter (·.1 ∉ names))
        ((addMembers (fun _ => none) right others).1.filter (·.1 ∉ names))

/-- The members of an object are added one after another. -/
theorem addMembers_cons {target : Json → Option Nat} {table : Array Container} :
    addMembers target table ((name, member) :: members) =
      ((name, (addValue target table member).1) ::
          (addMembers target (addValue target table member).2 members).1,
        (addMembers target (addValue target table member).2 members).2) := by
  rw [addMembers]

theorem CouplesMembers.nil : CouplesMembers names [] [] := by
  intro twin left right hc
  rw [addMembers, addMembers]
  exact ⟨twin, id, hc, .nil⟩

/-- A member of one of the names may be added on one side only. -/
theorem CouplesMembers.cons_left (hn : name ∈ names) (h : CouplesMembers names members others) :
    CouplesMembers names ((name, member) :: members) others := by
  intro twin left right hc
  obtain ⟨more, hmore⟩ := (adds_addValue member left).grows
  simp only [addMembers_cons, filter_cons_of_mem hn]
  exact h twin _ right (hmore ▸ hc.append_left more)

/-- A further member under one of the names that are left out does not matter. -/
theorem CouplesMembers.cons_right (hn : name ∈ names) (h : CouplesMembers names members others) :
    CouplesMembers names members ((name, member) :: others) := by
  intro twin left right hc
  obtain ⟨more, hmore⟩ := (adds_addValue member right).grows
  simp only [addMembers_cons, filter_cons_of_mem hn]
  exact h twin left _ (hmore ▸ hc.append_right more)

/-- One member is added on both sides. -/
theorem CouplesMembers.cons (hn : name ∉ names) (hv : Couples member)
    (h : CouplesMembers names members others) :
    CouplesMembers names ((name, member) :: members) ((name, member) :: others) := by
  intro twin left right hc
  obtain ⟨twin₁, hle, hc₁, hvalue⟩ := hv twin left right hc
  obtain ⟨twin₂, hle', hc₂, hrest⟩ := h twin₁ _ _ hc₁
  simp only [addMembers_cons, filter_cons_of_notMem hn]
  exact ⟨twin₂, fun ht => hle' (hle ht), hc₂, .cons ⟨rfl, hvalue.mono hle'⟩ hrest⟩

/-- Members that are the same but for those of some names are paired off one after another. -/
theorem couplesMembers (hm : ∀ member ∈ members, Couples member.2)
    (hsame : members.filter (·.1 ∉ names) = others.filter (·.1 ∉ names)) :
    CouplesMembers names members others := by
  -- Of two first members one is passed over, or they are the same; so the induction is on the members of
  -- one side and, inside, on those of the other.
  induction members generalizing others with
  | nil =>
    induction others with
    | nil => exact .nil
    | cons other others ih =>
      by_cases hn : other.1 ∈ names
      · exact (ih (by rw [hsame, filter_cons_of_mem hn])).cons_right hn
      · rw [filter_cons_of_notMem hn] at hsame
        cases hsame
  | cons member members ih =>
    obtain ⟨hmember, hmembers⟩ := List.forall_mem_cons.mp hm
    by_cases hn : member.1 ∈ names
    · exact (ih hmembers (by rw [← hsame, filter_cons_of_mem hn])).cons_left hn
    · induction others with
      | nil =>
        rw [filter_cons_of_notMem hn] at hsame
        cases hsame
      | cons other others ih' =>
        by_cases hn' : other.1 ∈ names
        · exact (ih' (by rw [hsame, filter_cons_of_mem hn'])).cons_right hn'
        · rw [filter_cons_of_notMem hn, filter_cons_of_notMem hn'] at hsame
          obtain ⟨hfirst, hrest⟩ := List.cons.inj hsame
          obtain rfl : member = other := hfirst
          exact (ih hmembers hrest).cons hn hmember

end

/-- The containers of a value that is added on both sides are paired off. -/
theorem couples (value : Json) : Couples value := by
  induction value using Json.induction with
  | leaf value hl =>
    intro twin left right hc
    cases value with
    | list | object => cases hl
    | null | bool | int | real | text =>
      rw [addValue.eq_def, addValue.eq_def]
      exact ⟨twin, id, hc, .leaf _⟩
  | list items ih =>
    intro twin left right hc
    obtain ⟨twin', hle, hc', hi⟩ := exists_coupled_addItems ih hc
    rw [addValue, addValue]
    exact ⟨_, fun ht => .inl (hle ht), hc'.push (.sequence hi), .ref (.inr ⟨rfl, rfl⟩)⟩
  | object members ih =>
    intro twin left right hc
    have hmembers : CouplesMembers [] members members := couplesMembers ih rfl
    obtain ⟨twin', hle, hc', hm⟩ := hmembers twin left right hc
    rw [addValue, addValue]
    exact ⟨_, fun ht => .inl (hle ht), hc'.push (.object hm), .ref (.inr ⟨rfl, rfl⟩)⟩

end

/-- If the last containers are the first objects of two documents, then they may differ in the
metadata. -/
theorem Coupled.twins {twin : Nat → Nat → Prop} {left right : Array Container}
    (h : Coupled twin left right) {first other : Container}
    (hc : Container.Alike twin metadataFields first other) :
    Twins ⟨left.push first, .ref left.size⟩ ⟨right.push other, .ref right.size⟩
      (joined twin left.size right.size) where
  unique := h.biUnique_joined
  root := .ref (.inr ⟨rfl, rfl⟩)
  container {place other'} ht := by
    rw [Array.getElem?_push, Array.getElem?_push]
    rcases ht with ht | ⟨rfl, rfl⟩
    · have hne := Nat.ne_of_lt (h.lt_size ht).1
      rw [if_neg hne, if_neg (Nat.ne_of_lt (h.lt_size ht).2),
        exempt_of_ne fun h => hne (Value.ref.inj h)]
      exact optionRel_mono (h.container ht) fun _ _ hc => hc.mono .inl
    · rw [if_pos rfl, if_pos rfl, exempt, if_pos rfl]
      exact .some (hc.mono .inl)

/-- If two objects have the same members but for those that the metadata is taken from, then their
documents differ in their metadata only. -/
theorem sameBut_ofJson {members others : List (String × Json)}
    (hsame : members.filter (·.1 ∉ metadataFields) = others.filter (·.1 ∉ metadataFields)) :
    (ofJson (.object members)).SameBut (ofJson (.object others)) := by
  have hempty : Coupled (fun _ _ => False) #[] #[] :=
    ⟨⟨fun _ _ _ h => h.elim, fun _ _ _ h => h.elim⟩, False.elim, False.elim⟩
  obtain ⟨twin, -, hc, hm⟩ := couplesMembers (fun member _ => couples member.2) hsame _ _ _ hempty
  have htwins := hc.twins (.object hm)
  have hdocument : ∀ members, ofJson (.object members) =
      ⟨(addMembers (fun _ => none) #[] members).2.push
        (.object (addMembers (fun _ => none) #[] members).1),
        .ref (addMembers (fun _ => none) #[] members).2.size⟩ := by
    intro members
    rw [ofJson, link, addValue]
    rfl
  rw [hdocument, hdocument]
  exact ⟨_, htwins⟩

end Document

end ContextSlice
