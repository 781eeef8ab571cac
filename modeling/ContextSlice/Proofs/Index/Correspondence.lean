import ContextSlice.Proofs.Document.CorrespondingWalk
import ContextSlice.Proofs.Index.Lookup

/-!
# Indexes that are alike

If the same is read of the twins among the objects of two documents (`Document.ReadsAlike`), then the
indexes are alike (`Index.ofDocument_alike`): the same ids, names and files find twins, but for the kinds,
which are left out of account. The step is that indexes stay alike when entries that are alike are
registered (`Index.Alike.register`). What is asked of indexes that are alike has the same answer.
-/

namespace ContextSlice

open Relator

/-- The same id, name and file are read of two objects. -/
structure Document.ReadsAlike (left right : Document) (settings : Settings) (node other : Nat) :
    Prop where
  id : left.statedId? node = right.statedId? other
  name : left.textMember? node ["name"] = right.textMember? other ["name"]
  file : left.textMember? node settings.fileFields = right.textMember? other settings.fileFields

/-- The same is read at two places that are alike, unless a member that is read is hidden. -/
theorem Document.AlikeAt.readsAlike {left right : Document} {twin : Nat → Nat → Prop}
    {hidden : String → Prop} {settings : Settings} {node other : Nat}
    (h : left.AlikeAt right twin hidden node other) (hid : ¬hidden "id") (hname : ¬hidden "name")
    (hfile : ∀ name ∈ settings.fileFields, ¬hidden name) :
    left.ReadsAlike right settings node other :=
  ⟨h.statedId?_eq hid, h.textMember?_eq (List.forall_mem_singleton.mpr hname), h.textMember?_eq hfile⟩

/-- A table of an index with the ids of the objects in place of the objects. -/
def Index.idTable (index : Index) (table : Assoc String (List Nat)) :
    Assoc String (List (Option String)) :=
  table.map fun (key, nodes) => (key, nodes.map index.idOf?)

section
variable (twin : Nat → Nat → Prop)

/-- Two entries are alike if they register twins by the same id, name and file. -/
structure Registration.Alike (entry other : Registration) : Prop where
  node : twin entry.node other.node
  id : entry.id = other.id
  name : entry.name = other.name
  file : entry.file = other.file

/-- Two indexes are alike if their tables are, but for the one of kinds. -/
structure Index.Alike (index other : Index) : Prop where
  nodes : Assoc.Alike (· = ·) twin index.nodes other.nodes
  names : Assoc.Alike (· = ·) (List.Forall₂ twin) index.names other.names
  files : Assoc.Alike (· = ·) (List.Forall₂ twin) index.files other.files
  ids : Assoc.Alike twin (· = ·) index.ids other.ids
  sources : Assoc.Alike twin (· = ·) index.sources other.sources

end

namespace Index

section
variable {twin : Nat → Nat → Prop} {index other : Index} {node node' : Nat}

/-! ## Answers -/

/-- Indexes that are alike have the same ids. -/
theorem Alike.keys_eq (h : index.Alike twin other) : index.keys = other.keys := h.nodes.keys_eq

theorem Alike.has_eq (h : index.Alike twin other) (id : String) : index.has id = other.has id := by
  have hkeys : Assoc.keys index.nodes = Assoc.keys other.nodes := h.nodes.keys_eq
  rw [Bool.eq_iff_iff, has, has, Assoc.has_eq_true_iff, Assoc.has_eq_true_iff, hkeys]

/-- Twins are found under an id. -/
theorem Alike.node? (h : index.Alike twin other) (id : String) :
    Option.Rel twin (index.node? id) (other.node? id) := h.nodes.lookup biUnique_eq rfl

/-- Ids are sorted in the same way. -/
theorem Alike.sortIds_eq (h : index.Alike twin other) (ids : List String) :
    index.sortIds ids = other.sortIds ids := by
  rw [sortIds_eq_flatMap, sortIds_eq_flatMap, h.keys_eq]

variable (hu : BiUnique twin) (h : index.Alike twin other)
include hu h

/-- Twins have the same id. -/
theorem Alike.idOf?_eq (ht : twin node node') : index.idOf? node = other.idOf? node' :=
  eq_of_optionRel (h.ids.lookup hu ht)

/-- They lie in the same file. -/
theorem Alike.sourceOf?_eq (ht : twin node node') :
    index.sourceOf? node = other.sourceOf? node' := eq_of_optionRel (h.sources.lookup hu ht)

/-- The files of ids are the same. -/
theorem Alike.fileOf?_eq (id : String) : index.fileOf? id = other.fileOf? id :=
  optionRel_bind_eq (h.node? id) fun _ _ ht => h.sourceOf?_eq hu ht

/-- Lists of twins have the same ids. -/
theorem Alike.idsOf_eq {nodes nodes' : List Nat} (hn : List.Forall₂ twin nodes nodes') :
    index.idsOf nodes = other.idsOf nodes' := by
  rw [idsOf, idsOf, filterMap_eq_of_forall₂ hn fun _ _ _ ht => h.idOf?_eq hu ht]

/-- Names stand for the same ids. -/
theorem Alike.idsNamed_eq (name : String) : index.idsNamed name = other.idsNamed name :=
  h.idsOf_eq hu (h.names.collected biUnique_eq rfl)

/-- Files hold the same ids. -/
theorem Alike.idsInFile_eq (file : String) : index.idsInFile file = other.idsInFile file :=
  h.idsOf_eq hu (h.files.collected biUnique_eq rfl)

/-- The tables of alike indexes have the same ids under the same keys. -/
theorem Alike.idTable_eq {table table' : Assoc String (List Nat)}
    (ht : Assoc.Alike (· = ·) (List.Forall₂ twin) table table') :
    index.idTable table = other.idTable table' := by
  rw [idTable, idTable, ← List.forall₂_eq_eq_eq]
  refine List.rel_map ?_ ht
  rintro ⟨key, nodes⟩ ⟨_, nodes'⟩ ⟨rfl, hn⟩
  have hids : nodes.map index.idOf? = nodes'.map other.idOf? := by
    rw [← List.forall₂_eq_eq_eq]
    exact List.rel_map (fun _ _ ht => h.idOf?_eq hu ht) hn
  exact congrArg (Prod.mk key) hids

/-! ## Registering -/

omit hu h in
/-- Tables stay alike when twins are added under the same keys. -/
theorem alike_addUnder {table table' : Assoc String (List Nat)} (ht : twin node node')
    (h : Assoc.Alike (· = ·) (List.Forall₂ twin) table table') (keys : List String) :
    Assoc.Alike (· = ·) (List.Forall₂ twin) (addUnder keys node table)
      (addUnder keys node' table') := by
  induction keys generalizing table table' with
  | nil => exact h
  | cons key keys ih => exact ih (h.append biUnique_eq rfl ht)

/-- Indexes stay alike when entries that are alike are registered. -/
theorem Alike.register {entry entry' : Registration} (he : entry.Alike twin entry') :
    (index.register entry).Alike twin (other.register entry') := by
  obtain ⟨ht, hid, hname, hfile⟩ := he
  refine ⟨?_, ?_, ?_, ?_, ?_⟩
  · exact h.nodes.put biUnique_eq hid ht
  · rw [Index.register, Index.register, hname]
    exact alike_addUnder ht h.names _
  · rw [Index.register, Index.register, hfile]
    exact alike_addUnder ht h.files _
  · exact h.ids.put hu ht hid
  · rw [Index.register, Index.register, hfile]
    refine List.rel_foldl (fun _ _ h _ _ hf => h.put hu ht hf) h.sources ?_
    exact List.forall₂_eq_eq_eq ▸ rfl

variable {left right : Document} {settings : Settings}

/-- Visits that are alike have entries that are alike if the same is read of their objects. -/
theorem Alike.registration {visit visit' : Visit} (hv : visit.Alike twin visit')
    (hr : left.ReadsAlike right settings visit.node visit'.node) :
    (registration left settings index visit).Alike twin
      (Index.registration right settings other visit') := by
  refine ⟨hv.node, ?_, hr.name, ?_⟩
  · have hpath : index.pathId visit = other.pathId visit' := by
      rw [pathId, pathId, hv.path, optionRel_bind_eq hv.parent fun _ _ ht => h.idOf?_eq hu ht]
    simp only [Index.registration, hpath, hr.id]
  · simp only [Index.registration, hr.file,
      optionRel_bind_eq hv.parent fun _ _ ht => h.sourceOf?_eq hu ht]

/-- Indexes stay alike when the objects of visits that are alike are registered one after another. -/
theorem Alike.extend {visits visits' : List Visit} (hv : List.Forall₂ (Visit.Alike twin) visits visits')
    (hr : ∀ visit ∈ visits, ∀ other, twin visit.node other →
      left.ReadsAlike right settings visit.node other) :
    (extend left settings index visits).Alike twin (Index.extend right settings other visits') := by
  induction hv generalizing index other with
  | nil => exact h
  | cons hv _ ih =>
    obtain ⟨hfirst, hrest⟩ := List.forall_mem_cons.mp hr
    exact ih (h.register hu (h.registration hu hv (hfirst _ hv.node))) hrest

omit hu h in
/-- The tables of kinds stay alike as well if the objects have the same kinds. -/
theorem alike_kinds_extend {visits visits' : List Visit}
    (hv : List.Forall₂ (Visit.Alike twin) visits visits')
    (hkind : ∀ visit ∈ visits, ∀ other, twin visit.node other →
      left.textMember? visit.node settings.kindFields = right.textMember? other settings.kindFields)
    (h : Assoc.Alike (· = ·) (List.Forall₂ twin) index.kinds other.kinds) :
    Assoc.Alike (· = ·) (List.Forall₂ twin) (extend left settings index visits).kinds
      (extend right settings other visits').kinds := by
  induction hv generalizing index other with
  | nil => exact h
  | @cons visit visit' _ _ hv _ ih =>
    obtain ⟨hfirst, hrest⟩ := List.forall_mem_cons.mp hkind
    have hnext : Assoc.Alike (· = ·) (List.Forall₂ twin)
        (index.register (registration left settings index visit)).kinds
        (other.register (registration right settings other visit')).kinds := by
      rw [register, register, registration, registration, hfirst _ hv.node]
      exact alike_addUnder hv.node h _
    exact ih hrest hnext

end

/-- If the objects of two documents to be indexed are twins of which the same is read, then the indexes
are alike. -/
theorem ofDocument_alike {left right : Document} {twin : Nat → Nat → Prop} {settings : Settings}
    (hu : BiUnique twin) (hv : List.Forall₂ (Visit.Alike twin) left.nodes right.nodes)
    (hr : ∀ visit ∈ left.nodes, ∀ other, twin visit.node other →
      left.ReadsAlike right settings visit.node other) :
    (ofDocument left settings).Alike twin (ofDocument right settings) :=
  have hempty : Alike twin ({} : Index) {} := ⟨.nil, .nil, .nil, .nil, .nil⟩
  hempty.extend hu hv hr

end Index

end ContextSlice
