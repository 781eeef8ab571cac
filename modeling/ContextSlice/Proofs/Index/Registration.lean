import ContextSlice.Index.Build
import ContextSlice.Proofs.Document.Walk
import ContextSlice.Proofs.Index.Lookup

/-!
# What registering leaves in the tables

After some entries are registered one after another (`Index.registerAll`), an id finds the object
of the last entry that has it (`Index.node?_registerAll`), an object has the id of its own last
entry (`Index.idOf?_registerAll`), and a name finds the objects of all entries that are found under
it, in their order (`Index.collected_names_registerAll`), as a file does
(`Index.collected_files_registerAll`). The entries of a document are those of its
objects, each registered once (`Index.registrations`), so that an id finds the last of the objects
that have it (`Index.node?_ofDocument`) and an object keeps its id (`Index.Keeps`) unless one after
it is given the same (`Index.keeps_iff`).
-/

namespace ContextSlice

namespace Document

variable {doc : Document}

/-- A text found among the members of an object is not empty. -/
theorem textMember?_ne_empty {node : Nat} {names : List String} {s : String}
    (h : doc.textMember? node names = some s) : s ≠ "" := by
  obtain ⟨name, -, hs⟩ := List.exists_of_findSome?_eq_some h
  obtain ⟨value, -, hv⟩ := Option.bind_eq_some_iff.mp hs
  simpa using (Option.filter_eq_some_iff.mp hv).2

/-- The objects to be indexed are visited once each. -/
theorem nodup_nodes (doc : Document) : (doc.nodes.map Visit.node).Nodup := by
  unfold nodes
  split <;> exact nodup_walk ..

/-- What is to be indexed is an object. -/
theorem variant_of_mem_nodes {visit : Visit} (hv : visit ∈ doc.nodes) :
    doc.variant (.ref visit.node) = .object := by
  unfold nodes at hv
  split at hv <;> exact variant_of_mem_walk hv

end Document

/-- The keys under which the name of an entry is found. -/
def Registration.names (entry : Registration) : List String :=
  (Index.filled entry.name).flatMap Index.spellings

namespace Index

/-- The two spellings of a name differ, or there is one. -/
theorem nodup_spellings (name : String) : (spellings name).Nodup := by
  unfold spellings
  split
  · exact List.nodup_singleton name
  · rename_i h
    exact List.nodup_cons.mpr ⟨by simpa using Ne.symm h, List.nodup_singleton _⟩

/-- A name is a spelling of itself. -/
theorem mem_spellings_self (name : String) : name ∈ spellings name := by
  unfold spellings
  split <;> exact List.mem_cons_self

/-- An entry gives one text at most. -/
theorem nodup_filled (value : Option String) : (filled value).Nodup := by
  unfold filled
  cases value.filter (· ≠ "") with
  | none => exact List.nodup_nil
  | some _ => exact List.nodup_singleton _

/-- A name is found under its spellings, each once. -/
theorem nodup_names (entry : Registration) : entry.names.Nodup := by
  unfold Registration.names filled
  cases entry.name.filter (· ≠ "") with
  | none => exact List.nodup_nil
  | some name => simpa using nodup_spellings name

/-- A name that is not empty is found under itself. -/
theorem mem_names_of_name {entry : Registration} {name : String} (h : entry.name = some name)
    (hn : name ≠ "") : name ∈ entry.names := by
  rw [Registration.names, filled, h, Option.filter_some_pos (by simpa using hn)]
  exact List.mem_flatMap.mpr ⟨name, List.mem_cons_self, mem_spellings_self name⟩

/-- An object is added once to what each of some keys has collected. -/
theorem collected_addUnder {keys : List String} (hn : keys.Nodup) (node : Nat)
    (table : Assoc String (List Nat)) (key : String) :
    Assoc.collected (addUnder keys node table) key =
      Assoc.collected table key ++ if key ∈ keys then [node] else [] := by
  induction keys generalizing table with
  | nil => simp [addUnder]
  | cons first keys ih =>
    obtain ⟨hf, hn⟩ := List.nodup_cons.mp hn
    have ih := ih hn (Assoc.append first node table)
    rw [addUnder] at ih
    rw [addUnder, List.foldl_cons, ih, Assoc.collected_append, List.append_assoc]
    by_cases h : key = first
    · subst h
      simp [hf]
    · simp [h]

/-! ## Entries one after another -/

/-- The index after some entries. -/
def registerAll (entries : List Registration) : Index := entries.foldl register {}

/-- If every entry's object is added under some keys, then a key collects the objects of the entries
that have it, in their order. -/
theorem collected_foldl_addUnder {keysOf : Registration → List String}
    (hn : ∀ entry, (keysOf entry).Nodup) (entries : List Registration)
    (table : Assoc String (List Nat)) (key : String) :
    Assoc.collected
        (entries.foldl (fun table entry => addUnder (keysOf entry) entry.node table) table) key =
      Assoc.collected table key ++ (entries.filter fun entry => key ∈ keysOf entry).map (·.node) := by
  induction entries generalizing table with
  | nil => simp
  | cons entry entries ih =>
    rw [List.foldl_cons, ih, collected_addUnder (hn entry), List.append_assoc, List.filter_cons]
    by_cases h : key ∈ keysOf entry <;> simp [h]

section
variable (entries : List Registration)

/-- The objects by id are those of the entries, put one after another. -/
theorem nodes_registerAll :
    (registerAll entries).nodes = Assoc.ofPairs (entries.map fun entry => (entry.id, entry.node)) := by
  rw [Assoc.ofPairs, List.foldl_map, registerAll]
  exact (List.foldl_hom nodes fun _ _ => rfl).symm

/-- The ids of objects are those of their last registrations. -/
theorem ids_registerAll :
    (registerAll entries).ids = Assoc.ofPairs (entries.map fun entry => (entry.node, entry.id)) := by
  rw [Assoc.ofPairs, List.foldl_map, registerAll]
  exact (List.foldl_hom ids fun _ _ => rfl).symm

/-- The ids are those of the entries, in the order in which they first come. -/
theorem keys_registerAll : (registerAll entries).keys = distinct (entries.map (·.id)) := by
  rw [keys, nodes_registerAll, Assoc.keys_ofPairs, List.map_map]
  rfl

/-- An id finds the object of the last entry that has it. -/
theorem node?_registerAll (id : String) :
    (registerAll entries).node? id =
      (entries.reverse.find? fun entry => entry.id = id).map (·.node) := by
  rw [node?, nodes_registerAll, Assoc.lookup_ofPairs, ← List.map_reverse, List.find?_map,
    Option.map_map]
  rfl

/-- An object has the id of its last entry. -/
theorem idOf?_registerAll (node : Nat) :
    (registerAll entries).idOf? node =
      (entries.reverse.find? fun entry => entry.node = node).map (·.id) := by
  rw [idOf?, ids_registerAll, Assoc.lookup_ofPairs, ← List.map_reverse, List.find?_map,
    Option.map_map]
  rfl

/-- A name has collected the objects of the entries that are found under it, in their order. -/
theorem collected_names_registerAll (name : String) :
    Assoc.collected (registerAll entries).names name =
      (entries.filter fun entry => name ∈ entry.names).map (·.node) := by
  have hnames : (registerAll entries).names =
      entries.foldl (fun table entry => addUnder entry.names entry.node table) [] :=
    (List.foldl_hom names fun _ _ => rfl).symm
  rw [hnames, collected_foldl_addUnder nodup_names]
  rfl

/-- A file has collected the objects of the entries that are in it, in their order. -/
theorem collected_files_registerAll (file : String) :
    Assoc.collected (registerAll entries).files file =
      (entries.filter fun entry => file ∈ filled entry.file).map (·.node) := by
  have hfiles : (registerAll entries).files =
      entries.foldl (fun table entry => addUnder (filled entry.file) entry.node table) [] :=
    (List.foldl_hom files fun _ _ => rfl).symm
  rw [hfiles, collected_foldl_addUnder fun entry => nodup_filled entry.file]
  rfl

/-- If no object is registered twice, then every entry's object has the entry's id. -/
theorem idOf?_of_mem {entries : List Registration} (hn : (entries.map (·.node)).Nodup)
    {entry : Registration} (he : entry ∈ entries) :
    (registerAll entries).idOf? entry.node = some entry.id := by
  have hfind : entries.reverse.find? (fun other => other.node = entry.node) = some entry := by
    obtain ⟨other, ho⟩ := Option.isSome_iff_exists.mp
      (List.find?_isSome (p := fun other => other.node = entry.node).mpr
        ⟨entry, List.mem_reverse.mpr he, decide_eq_true rfl⟩)
    have hmem : other ∈ entries := List.mem_reverse.mp (List.mem_of_find?_eq_some ho)
    have hnode : other.node = entry.node := by simpa using List.find?_some ho
    rw [ho, List.inj_on_of_nodup_map hn hmem he hnode]
  rw [idOf?_registerAll, hfind, Option.map_some]

end

/-! ## The entries of a document -/

section
variable (doc : Document) (settings : Settings)

/-- The entries with which the objects of some visits are registered. -/
def registrations (index : Index) : List Visit → List Registration
  | [] => []
  | visit :: visits =>
    let entry := registration doc settings index visit
    entry :: registrations (index.register entry) visits

/-- An index is extended by one registration after another. -/
theorem extend_eq_foldl (index : Index) (visits : List Visit) :
    extend doc settings index visits =
      (registrations doc settings index visits).foldl register index := by
  induction visits generalizing index with
  | nil => rfl
  | cons visit visits ih => exact ih (index.register (registration doc settings index visit))

/-- The entries are those of the visited objects, in their order. -/
theorem map_node_registrations (index : Index) (visits : List Visit) :
    (registrations doc settings index visits).map (·.node) = visits.map (·.node) := by
  induction visits generalizing index with
  | nil => rfl
  | cons visit visits ih =>
    rw [registrations, List.map_cons, List.map_cons, ih, registration]

/-- An entry has the name of its object. -/
theorem name_of_mem_registrations {index : Index} {visits : List Visit} {entry : Registration}
    (h : entry ∈ registrations doc settings index visits) :
    entry.name = doc.textMember? entry.node ["name"] := by
  induction visits generalizing index with
  | nil => cases h
  | cons visit visits ih =>
    rw [registrations] at h
    rcases List.mem_cons.mp h with rfl | h
    · rfl
    · exact ih h

/-- The entries with which a document is indexed. -/
def entries : List Registration := registrations doc settings {} doc.nodes

/-- The index of a document is what its entries make. -/
theorem ofDocument_eq_registerAll : ofDocument doc settings = registerAll (entries doc settings) :=
  extend_eq_foldl doc settings {} doc.nodes

/-- The ids of the index are those of the entries, in the order in which they first come. -/
theorem keys_eq_distinct : (ofDocument doc settings).keys = distinct ((entries doc settings).map (·.id)) := by
  rw [ofDocument_eq_registerAll, keys_registerAll]

/-- The entries are about the objects to be indexed, in their order. -/
theorem map_node_entries : (entries doc settings).map (·.node) = doc.nodes.map (·.node) :=
  map_node_registrations doc settings {} doc.nodes

/-- Every object to be indexed has an entry. -/
theorem exists_entry {visit : Visit} (hv : visit ∈ doc.nodes) :
    ∃ entry ∈ entries doc settings, entry.node = visit.node := by
  have hnode : visit.node ∈ (entries doc settings).map (·.node) := by
    rw [map_node_entries]
    exact List.mem_map_of_mem hv
  exact List.mem_map.mp hnode

/-- In the end every object has the id of its entry. -/
theorem idOf?_ofDocument {entry : Registration} (h : entry ∈ entries doc settings) :
    (ofDocument doc settings).idOf? entry.node = some entry.id := by
  rw [ofDocument_eq_registerAll]
  exact idOf?_of_mem (map_node_entries doc settings ▸ doc.nodup_nodes) h

/-- An id finds the last of the objects that have it. -/
theorem node?_ofDocument (id : String) :
    (ofDocument doc settings).node? id =
      (doc.nodes.map (·.node)).reverse.find? fun node =>
        (ofDocument doc settings).idOf? node = some id := by
  rw [← map_node_entries doc settings, ← List.map_reverse, List.find?_map]
  conv_lhs => rw [ofDocument_eq_registerAll, node?_registerAll]
  congr 1
  refine List.find?_congr fun entry he => ?_
  rw [List.mem_reverse] at he
  simp [idOf?_ofDocument doc settings he]

/-- The ids of the objects of some entries are the ids of these entries. -/
theorem idsOf_map_filter (p : Registration → Bool) :
    (ofDocument doc settings).idsOf (((entries doc settings).filter p).map (·.node)) =
      distinct (((entries doc settings).filter p).map (·.id)) := by
  rw [idsOf, List.filterMap_map, ← List.filterMap_eq_map]
  exact congrArg distinct (List.filterMap_congr fun entry he =>
    idOf?_ofDocument doc settings (List.mem_of_mem_filter he))

/-- A name has collected the objects whose name is found under it, in their order. -/
theorem collected_names_ofDocument (name : String) :
    Assoc.collected (ofDocument doc settings).names name =
      ((entries doc settings).filter fun entry => name ∈ entry.names).map (·.node) := by
  rw [ofDocument_eq_registerAll, collected_names_registerAll]

/-- A name finds the ids of the entries whose name is found under it, in their order. -/
theorem idsNamed_ofDocument (name : String) :
    (ofDocument doc settings).idsNamed name =
      distinct (((entries doc settings).filter fun entry => name ∈ entry.names).map (·.id)) := by
  rw [idsNamed, collected_names_ofDocument, idsOf_map_filter]

/-- A file finds the ids of the entries that are in it, in their order. -/
theorem idsInFile_ofDocument (file : String) :
    (ofDocument doc settings).idsInFile file =
      distinct (((entries doc settings).filter fun entry => file ∈ filled entry.file).map (·.id)) := by
  have hfiles : Assoc.collected (ofDocument doc settings).files file =
      ((entries doc settings).filter fun entry => file ∈ filled entry.file).map (·.node) := by
    rw [ofDocument_eq_registerAll, collected_files_registerAll]
  rw [idsInFile, hfiles, idsOf_map_filter]

/-- A name finds the ids of the objects whose name is found under it. -/
theorem mem_idsNamed {name id : String} :
    id ∈ (ofDocument doc settings).idsNamed name ↔ ∃ entry ∈ entries doc settings,
      name ∈ entry.names ∧ entry.id = id := by
  rw [idsNamed_ofDocument, mem_distinct, List.mem_map]
  simp only [List.mem_filter, decide_eq_true_eq, and_assoc]

/-- A file has collected the objects that are in it. -/
theorem mem_idsInFile {file id : String} :
    id ∈ (ofDocument doc settings).idsInFile file ↔ ∃ entry ∈ entries doc settings,
      file ∈ filled entry.file ∧ entry.id = id := by
  rw [idsInFile_ofDocument, mem_distinct, List.mem_map]
  simp only [List.mem_filter, decide_eq_true_eq, and_assoc]

/-- The name of an object finds the id of the object. -/
theorem mem_idsNamed_of_name {visit : Visit} {name id : String} (hv : visit ∈ doc.nodes)
    (hn : doc.textMember? visit.node ["name"] = some name)
    (hid : (ofDocument doc settings).idOf? visit.node = some id) :
    id ∈ (ofDocument doc settings).idsNamed name := by
  obtain ⟨entry, he, hnode⟩ := exists_entry doc settings hv
  have hname : entry.name = some name := by
    rw [name_of_mem_registrations doc settings he, hnode, hn]
  rw [← hnode, idOf?_ofDocument doc settings he, Option.some_inj] at hid
  exact (mem_idsNamed doc settings).mpr
    ⟨entry, he, mem_names_of_name hname (Document.textMember?_ne_empty hn), hid⟩

/-- An object keeps its id if it is the one that is found under it. -/
def Keeps (index : Index) (node : Nat) : Prop := (index.idOf? node).bind index.node? = some node

/-- An object keeps its id if no object after it is given the same one, and not otherwise. -/
theorem keeps_iff {before after : List Visit} {visit : Visit}
    (hv : doc.nodes = before ++ visit :: after) :
    (ofDocument doc settings).Keeps visit.node ↔
      ∀ later ∈ after, (ofDocument doc settings).idOf? later.node ≠
        (ofDocument doc settings).idOf? visit.node := by
  have hmem : visit ∈ doc.nodes := hv ▸ List.mem_append_right _ List.mem_cons_self
  obtain ⟨entry, he, hnode⟩ := exists_entry doc settings hmem
  have hid := idOf?_ofDocument doc settings he
  rw [hnode] at hid
  have hnodes : (doc.nodes.map Visit.node).reverse =
      (after.map Visit.node).reverse ++ visit.node :: (before.map Visit.node).reverse := by
    simp [hv]
  have hnodup := List.nodup_reverse.mpr doc.nodup_nodes
  rw [hnodes, List.nodup_append] at hnodup
  simp only [Keeps, hid, Option.bind_some, node?_ofDocument, hnodes, List.find?_append]
  constructor
  · intro hfind later hl hsame
    obtain ⟨other, ho⟩ := Option.isSome_iff_exists.mp (List.find?_isSome
      (p := fun node => (ofDocument doc settings).idOf? node = some entry.id).mpr
        ⟨later.node, List.mem_reverse.mpr (List.mem_map_of_mem hl), by simpa using hsame⟩)
    rw [ho, Option.some_or, Option.some_inj] at hfind
    exact hnodup.2.2 other (List.mem_of_find?_eq_some ho) visit.node List.mem_cons_self hfind
  · intro hlast
    have hnone : (after.map Visit.node).reverse.find?
        (fun node => (ofDocument doc settings).idOf? node = some entry.id) = none := by
      rw [List.find?_eq_none]
      intro node hm
      obtain ⟨later, hl, rfl⟩ := List.mem_map.mp (List.mem_reverse.mp hm)
      simpa using hlast later hl
    rw [hnone, Option.none_or, List.find?_cons_of_pos (by simpa using hid)]

end

end Index

end ContextSlice
