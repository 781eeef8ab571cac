import ContextSlice.Proofs.Document.CorrespondingRegistry
import ContextSlice.Proofs.Document.Stacked

/-!
# Longer lists of modules

The list of modules is lengthened if in another document it is followed by more items, be it the same list
or a new one, while what its items lead to stays as it is (`Document.Lengthens`). Then the objects of the
first document are the first ones of the second (`Document.Lengthens.growsTo`): the walk comes to them
before it comes to what is added. The items must not lead to the old list if there is a new one: a
container is known by its place, so the walk of the second document would find the old list inside an
object and come to its items on another path.
-/

namespace ContextSlice

open Relator

namespace Document

/-- The list of modules of one document is at `list` and has some items. The one of the other document is at
`longer` and has more items after these. What the items lead to is the same in both documents, and if there
are two lists, then the items lead to neither. -/
structure Lengthens (left right : Document) (list longer : Nat) (items more : List Value) : Prop where
  modules : left.modules? = some (.ref list)
  sequence : left.containers[list]? = some (.sequence items)
  longerModules : right.modules? = some (.ref longer)
  longerSequence : right.containers[longer]? = some (.sequence (items ++ more))
  kept : ∀ place, left.Reachable (.ref list) [] place → place ≠ list →
    right.containers[place]? = left.containers[place]?
  apart : list = longer ∨ ∀ item ∈ items, ∀ place, left.Reachable item [] place →
    place ≠ list ∧ place ≠ longer

/-- The objects of a document to be indexed are the first ones of another document, where they are
unchanged. -/
structure GrowsTo (left right : Document) : Prop where
  nodes : left.nodes <+: right.nodes
  unchanged : ∀ visit ∈ left.nodes, right.containers[visit.node]? = left.containers[visit.node]?

section
variable {left right : Document} {list longer place inner : Nat} {items more : List Value}

/-- What is followed from a list of modules and is not the list itself is followed from one of the items. -/
theorem exists_item_of_reachable (hc : left.containers[list]? = some (.sequence items))
    (hr : left.Reachable (.ref list) [] place) (hne : place ≠ list) :
    ∃ item ∈ items, left.Reachable item [] place := by
  obtain ⟨_, hf, hp⟩ := hr
  cases hf
  rcases hp.cases_head with rfl | ⟨first, hl, hp⟩
  · exact absurd rfl hne
  · cases hl with
    | member hc' => cases hc.symm.trans hc'
    | item hc' hi =>
      cases hc.symm.trans hc'
      exact ⟨.ref first, hi, first, rfl,
        Relation.ReflTransGen.mono (fun _ _ hl => hl.of_nil _) _ _ hp⟩

/-- A container is like itself but for internal members if the places that are followed from it are paired
off with themselves. -/
theorem alikeBut_self {doc : Document} {twin : Nat → Nat → Prop} {container : Container}
    (hc : doc.containers[place]? = some container)
    (h : ∀ inner, doc.Leads (.ref place) [] place inner → twin inner inner) :
    Container.AlikeBut twin (fun name => isInternal name = true) container container := by
  cases container with
  | object members =>
    refine ⟨(members.map (·.1)).filter isInternal, fun name hn => (List.mem_filter.mp hn).2,
      .object (List.forall₂_same.mpr ?_)⟩
    rintro ⟨name, value⟩ hmem
    obtain ⟨hm, hn⟩ := List.mem_filter.mp hmem
    have hplain : isInternal name = false := Bool.eq_false_iff.mpr fun hinternal =>
      of_decide_eq_true hn (List.mem_filter.mpr ⟨List.mem_map_of_mem hm, hinternal⟩)
    refine ⟨rfl, .of_self ?_⟩
    rintro inner rfl
    exact h inner (.member hc hm hplain fun hs => absurd hs.2 List.not_mem_nil)
  | sequence values =>
    refine ⟨[], fun _ hn => absurd hn List.not_mem_nil, .sequence (List.forall₂_same.mpr fun value hv => ?_)⟩
    exact .of_self fun inner hi => h inner (.item hc (hi ▸ hv))

/-- The list of modules is the one that the first object holds. -/
theorem modules?_of_root {doc : Document} {root : Nat} {members : List (String × Value)}
    (hr : doc.root = .ref root) (ho : doc.containers[root]? = some (.object members))
    (hm : members.lookup modulesField = some (.ref list))
    (hc : doc.containers[list]? = some (.sequence items)) : doc.modules? = some (.ref list) := by
  have hobj : doc.object? doc.root = some root := by rw [hr, object?, ho]
  have hmember : doc.rootMember? modulesField = some (.ref list) := by
    rw [rootMember?, hobj, Option.bind_some, member?, Document.members, ho, ← hm]
  have hitems : (doc.items? (.ref list)).isSome = true := by rw [items?, container?, hc, Option.isSome_some]
  rw [modules?, hmember]
  exact Option.filter_some_pos hitems

/-- The objects are looked for in the items of the list of modules. -/
theorem nodes_of_sequence {doc : Document} (hm : doc.modules? = some (.ref list))
    (hc : doc.containers[list]? = some (.sequence items)) :
    doc.nodes = doc.walkFrom (.ref list) [] (positioned none [.member modulesField] items) [list] := by
  rw [nodes_of_modules hm, walk, walkFrom_sequence List.not_mem_nil hc, List.append_nil]

/-- A walk through some items comes to the first of them before it comes to the others. -/
theorem prefix_walkFrom_positioned (doc : Document) (start : Value) (skip : List String)
    (parent : Option Nat) (path : List PathPart) (items more : List Value) (seen : List Nat) :
    doc.walkFrom start skip (positioned parent path items) seen <+:
      doc.walkFrom start skip (positioned parent path (items ++ more)) seen := by
  have hitems := (walkFrom_eq_explore doc start skip).2.1 seen parent path 0 items
  have hfirst := hitems []
  rw [List.append_nil, walkFrom_nil, List.append_nil] at hfirst
  rw [positioned, positioned, List.zipIdx_append, List.map_append, hfirst, hitems]
  exact List.prefix_append _ _

/-- A place is paired off with itself, but for the list of modules with the longer one. -/
def Lengthened (left : Document) (list longer place other : Nat) : Prop :=
  left.Reachable (.ref list) [] place ∧ if place = list then other = longer else place = other

/-- But for the list every container is its own twin. -/
theorem Lengthened.eq {other : Nat} (ht : left.Lengthened list longer place other) (hne : place ≠ list) :
    place = other := by
  have hother := ht.2
  rwa [if_neg hne] at hother

/-- The twin of the list is the longer one. -/
theorem Lengthened.eq_longer {other : Nat} (ht : left.Lengthened list longer place other)
    (hp : place = list) : other = longer := by
  have hother := ht.2
  rwa [if_pos hp] at hother

namespace Lengthens

variable (h : left.Lengthens right list longer items more)
include h

/-- Besides the lists of modules themselves no place that is followed is that of the longer one. -/
theorem ne_longer (hr : left.Reachable (.ref list) [] place) (hne : place ≠ list) : place ≠ longer := by
  rcases h.apart with rfl | happart
  · exact hne
  · obtain ⟨item, hi, hr⟩ := exists_item_of_reachable h.sequence hr hne
    exact (happart item hi place hr).2

/-- Every container has one twin at most. -/
theorem biUnique : BiUnique (left.Lengthened list longer) := by
  constructor
  · intro place place' other ht ht'
    by_cases hp : place = list <;> by_cases hp' : place' = list
    · exact hp.trans hp'.symm
    · exact absurd ((ht'.eq hp').trans (ht.eq_longer hp)) (h.ne_longer ht'.1 hp')
    · exact absurd ((ht.eq hp).trans (ht'.eq_longer hp')) (h.ne_longer ht.1 hp)
    · exact (ht.eq hp).trans (ht'.eq hp').symm
  · intro place other other' ht ht'
    by_cases hp : place = list
    · exact (ht.eq_longer hp).trans (ht'.eq_longer hp).symm
    · exact (ht.eq hp).symm.trans (ht'.eq hp)

/-- What is followed from the items is paired off with itself. -/
theorem lengthened_self {item : Value} (hi : item ∈ items) (hr : left.Reachable item [] inner) :
    left.Lengthened list longer inner inner := by
  refine ⟨?_, ?_⟩
  · obtain ⟨first, rfl, hp⟩ := hr
    have hlist : left.Reachable (.ref list) [] list := ⟨list, rfl, .refl⟩
    exact (hlist.step (.item h.sequence hi)).trans ⟨first, rfl, hp⟩
  · split
    · rename_i hinner
      exact h.apart.elim (hinner.trans ·) fun happart => absurd hinner (happart item hi inner hr).1
    · rfl

/-- Besides the lists of modules, what is at the places that are paired off is alike but for internal
members. -/
theorem alikeAt {other : Nat} (ht : left.Lengthened list longer place other) (hne : place ≠ list) :
    left.AlikeAt right (left.Lengthened list longer) (fun name => isInternal name = true) place other := by
  obtain rfl := ht.eq hne
  rw [AlikeAt, h.kept place ht.1 hne]
  obtain ⟨item, hitem, hr⟩ := exists_item_of_reachable h.sequence ht.1 hne
  cases hc : left.containers[place]? with
  | none => exact .none
  | some container =>
    exact .some (alikeBut_self hc fun inner hl => h.lengthened_self hitem (hr.step (hl.of_nil _)))

/-- Neither the objects to be indexed nor those around them are the list of modules. -/
theorem ne_list : ∀ visit ∈ left.nodes,
    visit.node ≠ list ∧ ∀ outer, visit.parent = some outer → outer ≠ list := by
  rw [nodes_of_sequence h.modules h.sequence]
  have hnode : ∀ visit ∈ left.walkFrom (.ref list) [] (positioned none [.member modulesField] items) [list],
      visit.node ∉ [list] := not_mem_of_mem_walkFrom
  intro visit hv
  refine ⟨List.ne_of_not_mem_cons (hnode visit hv), fun outer ho => ?_⟩
  obtain ⟨before, after, hvisits⟩ := List.append_of_mem hv
  have hparents : ParentsFirst [] (left.walkFrom (.ref list) [] (positioned none [.member modulesField] items)
      [list]) := parentsFirst_walkFrom [] fun pending hp outer ho => by
    rw [(parent_of_mem_positioned hp).2] at ho
    cases ho
  have houter := (hparents.mem hvisits ho).resolve_left List.not_mem_nil
  obtain ⟨holder, hb, rfl⟩ := List.mem_map.mp houter
  exact List.ne_of_not_mem_cons (hnode holder (hvisits ▸ List.mem_append_left _ hb))

/-- The walk through the items makes visits that are alike in both documents. -/
theorem visits_alike : List.Forall₂ (Visit.Alike (left.Lengthened list longer)) left.nodes
    (right.walkFrom (.ref longer) [] (positioned none [.member modulesField] items) [longer]) := by
  have hlist : left.Lengthened list longer list longer := ⟨⟨list, rfl, .refl⟩, by rw [if_pos rfl]⟩
  have hitems : List.Forall₂ (Value.Alike (left.Lengthened list longer)) items items := by
    refine List.forall₂_same.mpr fun item hi => .of_self fun inner hinner => ?_
    exact h.lengthened_self hi ⟨inner, hinner, .refl⟩
  have hpass : left.PassesBy (fun _ name => isInternal name = true) (.ref list) [] :=
    fun _ _ _ hn => .inl hn
  rw [nodes_of_sequence h.modules h.sequence]
  refine walkFrom_alike h.biUnique (.ref hlist) hpass _ _ _ _
    (fun place other ht hs => h.alikeAt ht (List.ne_of_not_mem_cons hs)) (fun pending hp place hv => ?_)
    (positioned_alike .none hitems) (.cons hlist .nil)
  exact hlist.1.step (.item h.sequence (hv ▸ (parent_of_mem_positioned hp).1))

/-- The objects of the document are the first ones of the one with the longer list, and unchanged there. -/
theorem growsTo : left.GrowsTo right := by
  -- The list is no object, so the objects and those around them are paired off with themselves.
  have hsame : left.nodes =
      right.walkFrom (.ref longer) [] (positioned none [.member modulesField] items) [longer] := by
    rw [← List.forall₂_eq_eq_eq]
    refine ((List.forall₂_and_left _ _).mpr ⟨h.ne_list, h.visits_alike⟩).imp ?_
    rintro ⟨node, parent, path⟩ ⟨node', parent', path'⟩ ⟨⟨hnode, hparent⟩, ⟨ht, hp, hpath⟩⟩
    cases ht.eq hnode
    cases hpath
    cases hp with
    | none => rfl
    | some hp =>
      cases hp.eq (hparent _ rfl)
      rfl
  refine ⟨?_, fun visit hv => ?_⟩
  · rw [hsame, nodes_of_sequence h.longerModules h.longerSequence]
    exact prefix_walkFrom_positioned ..
  · have hwalk : visit ∈ left.walk (.ref list) [.member modulesField] [] := nodes_of_modules h.modules ▸ hv
    exact h.kept visit.node (reachable_of_mem_walk hwalk) (h.ne_list visit hv).1

end Lengthens

end

/-! ## Documents of JSON values -/

/-- The items of a list are added one part after the other. -/
theorem addItems_append (target : Json → Option Nat) (table : Array Container) (items more : List Json) :
    addItems target table (items ++ more) =
      ((addItems target table items).1 ++
          (addItems target (addItems target table items).2 more).1,
        (addItems target (addItems target table items).2 more).2) := by
  induction items generalizing table with
  | nil => rw [List.nil_append, addItems]; rfl
  | cons item items ih =>
    simp only [List.cons_append, addItems, ih]

/-- The document of a JSON value that holds nothing but modules. -/
theorem ofJson_modules {values : List Value} {table : Array Container} {items : List Json}
    (h : addItems (fun _ => none) #[] items = (values, table)) :
    ofJson (.object [(modulesField, .list items)]) =
      ⟨(table.push (.sequence values)).push (.object [(modulesField, .ref table.size)]),
        .ref (table.size + 1)⟩ := by
  simp [ofJson, link, addAt, addValue, addMembers, h]

/-- The list of modules comes after the values that it holds. -/
theorem ofJson_modules_sequence {values : List Value} {table : Array Container} {items : List Json}
    (h : addItems (fun _ => none) #[] items = (values, table)) :
    (ofJson (.object [(modulesField, .list items)])).containers[table.size]? = some (.sequence values) ∧
      (ofJson (.object [(modulesField, .list items)])).modules? = some (.ref table.size) ∧
      ∀ place < table.size,
        (ofJson (.object [(modulesField, .list items)])).containers[place]? = table[place]? := by
  rw [ofJson_modules h]
  have hroot : ((table.push (.sequence values)).push
      (.object [(modulesField, .ref table.size)]))[table.size + 1]? =
      some (.object [(modulesField, .ref table.size)]) := by
    rw [← Array.size_push (.sequence values), Array.getElem?_push_size]
  have hsequence : ((table.push (.sequence values)).push
      (.object [(modulesField, .ref table.size)]))[table.size]? = some (.sequence values) := by
    rw [Array.getElem?_push, Array.size_push, if_neg (Nat.ne_of_lt (Nat.lt_succ_self _)),
      Array.getElem?_push_size]
  refine ⟨hsequence, modules?_of_root rfl hroot List.lookup_cons_self hsequence, fun place hp => ?_⟩
  rw [Array.getElem?_push, Array.getElem?_push, Array.size_push, if_neg (by omega), if_neg (by omega)]

/-- When more items are put after the modules of a JSON value, the list of modules is lengthened. -/
theorem lengthens_ofJson (items more : List Json) : ∃ list longer values added,
    (ofJson (.object [(modulesField, .list items)])).Lengthens
      (ofJson (.object [(modulesField, .list (items ++ more))])) list longer values added := by
  obtain ⟨values, table, hvalues⟩ : ∃ values table,
      addItems (fun _ => none) #[] items = (values, table) := ⟨_, _, rfl⟩
  obtain ⟨added, after, hadded⟩ : ∃ added after,
      addItems (fun _ => none) table more = (added, after) := ⟨_, _, rfl⟩
  have hall : addItems (fun _ => none) #[] (items ++ more) = (values ++ added, after) := by
    rw [addItems_append, hvalues, hadded]
  obtain ⟨hsequence, hmodules, hbelow⟩ := ofJson_modules_sequence hvalues
  obtain ⟨hlonger, hlongerModules, hbelow'⟩ := ofJson_modules_sequence hall
  have hitems : Adds #[] values table := by
    have hitems := adds_addItems items #[]
    rwa [hvalues] at hitems
  have hmore : Adds table added after := by
    have hmore := adds_addItems more table
    rwa [hadded] at hmore
  -- The items lead to containers before both lists only.
  have hlow : ∀ value ∈ values, ∀ place,
      (ofJson (.object [(modulesField, .list items)])).Reachable value [] place → place < table.size :=
    fun value hv place hr => (stacked_ofJson _).reachable_lt
      ((hitems.stacked fun _ _ hc => by cases hc).2 value hv) hr
  refine ⟨table.size, after.size, values, added, hmodules, hsequence, hlongerModules, hlonger,
    fun place hr hne => ?_, .inr fun value hv place hr => ?_⟩
  · obtain ⟨value, hv, hr⟩ := exists_item_of_reachable hsequence hr hne
    have hp := hlow value hv place hr
    obtain ⟨rest, rfl⟩ := hmore.grows
    rw [hbelow place hp, hbelow' place (Nat.lt_of_lt_of_le hp hmore.size_le),
      Array.getElem?_append_left hp]
  · have hp := hlow value hv place hr
    exact ⟨Nat.ne_of_lt hp, Nat.ne_of_lt (Nat.lt_of_lt_of_le hp hmore.size_le)⟩

end Document

end ContextSlice
