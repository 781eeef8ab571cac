import ContextSlice.Proofs.Index.Registration

/-!
# Entries and the finished index

While a document is indexed, the entry of an object is made with what the index then knows about the
object around it. That object has been registered before and is not registered again, so the entries
are those that the finished index would give (`Index.entries_eq_map`): an object's id is the one that
it states, or else its path after the id of the object around it (`Index.idOf?_visit`). The ids of the
index are those of the objects, in the order in which they first come (`Index.keys_ofDocument`), and
names and files find the ids of the objects that have them (`Index.mem_idsNamed_iff`,
`Index.mem_idsInFile_iff`).
-/

namespace ContextSlice

namespace Document

/-- The object around an object to be indexed comes before it. -/
theorem mem_before_of_parent {doc : Document} {before after : List Visit} {visit : Visit}
    (hn : doc.nodes = before ++ visit :: after) {outer : Nat} (ho : visit.parent = some outer) :
    outer ∈ before.map Visit.node := by
  unfold nodes at hn
  split at hn <;> exact (parentsFirst_walk.mem hn ho).resolve_left List.not_mem_nil

/-- Induction from the objects around to those inside: what holds of the objects to be indexed that have
none around them, and of an object if it holds of the one around it, holds of all. -/
theorem nodes_induction {doc : Document} {motive : Nat → Prop}
    (top : ∀ visit ∈ doc.nodes, visit.parent = none → motive visit.node)
    (inner : ∀ visit ∈ doc.nodes, ∀ outer, visit.parent = some outer → motive outer → motive visit.node)
    {visit : Visit} (hv : visit ∈ doc.nodes) : motive visit.node := by
  -- The object around an object comes before it, so fewer objects come before that one.
  have hbefore : ∀ (n : Nat) (before after : List Visit) (visit : Visit), before.length = n →
      doc.nodes = before ++ visit :: after → motive visit.node := by
    intro n
    induction n using Nat.strong_induction_on with
    | _ n ih =>
      intro before after visit hlength hn
      have hv : visit ∈ doc.nodes := hn ▸ List.mem_append_right _ List.mem_cons_self
      cases ho : visit.parent with
      | none => exact top visit hv ho
      | some outer =>
        obtain ⟨holder, hb, rfl⟩ := List.mem_map.mp (mem_before_of_parent hn ho)
        obtain ⟨first, rest, rfl⟩ := List.append_of_mem hb
        rw [List.length_append, List.length_cons] at hlength
        exact inner visit hv _ ho
          (ih first.length (by omega) first _ holder rfl (hn.trans (List.append_assoc ..)))
  obtain ⟨before, after, hn⟩ := List.append_of_mem hv
  exact hbefore _ before after visit rfl hn

end Document

namespace Index

/-- A text that is not empty is the one that an entry gives. -/
theorem mem_filled {entry : Option String} {value : String} :
    value ∈ filled entry ↔ entry = some value ∧ value ≠ "" := by
  simp [filled, Option.filter_eq_some_iff]

/-- A name is spelled as it is and in lower case. -/
theorem mem_spellings {name key : String} :
    key ∈ spellings name ↔ key = name ∨ key = Text.lower name := by
  unfold spellings
  split
  · rename_i h
    rw [List.mem_singleton, h, or_self]
  · exact List.mem_pair

/-! ## Objects that are registered once -/

/-- A registration sets the id of its own object only. -/
theorem idOf?_register (index : Index) (entry : Registration) (node : Nat) :
    (index.register entry).idOf? node =
      if node = entry.node then some entry.id else index.idOf? node :=
  Assoc.lookup_put index.ids entry.node node entry.id

/-- If it gives a file, it sets the file of its own object only. -/
theorem sourceOf?_register (index : Index) (entry : Registration) (node : Nat) :
    (index.register entry).sourceOf? node =
      if node = entry.node then (entry.file.filter (· ≠ "")).or (index.sourceOf? node)
      else index.sourceOf? node := by
  unfold register sourceOf? filled
  cases entry.file.filter (· ≠ "") with
  | none => simp
  | some file => simp [Assoc.lookup_put]

section
variable {entries : List Registration} {node : Nat}

/-- What an index knows about an object is left alone by the entries of others. -/
theorem foldl_register_agrees (h : node ∉ entries.map (·.node)) (index : Index) :
    (entries.foldl register index).idOf? node = index.idOf? node ∧
      (entries.foldl register index).sourceOf? node = index.sourceOf? node := by
  induction entries generalizing index with
  | nil => exact ⟨rfl, rfl⟩
  | cons entry entries ih =>
    obtain ⟨hne, h⟩ := not_or.mp (List.mem_cons.not.mp h)
    obtain ⟨hid, hsource⟩ := ih h (index.register entry)
    rw [List.foldl_cons, hid, hsource, idOf?_register, sourceOf?_register, if_neg hne, if_neg hne]
    exact ⟨rfl, rfl⟩

/-- If no object is registered twice, then every entry's object has the entry's file. -/
theorem sourceOf?_of_mem (hn : (entries.map (·.node)).Nodup) {entry : Registration}
    (he : entry ∈ entries) :
    (registerAll entries).sourceOf? entry.node = entry.file.filter (· ≠ "") := by
  obtain ⟨before, after, rfl⟩ := List.append_of_mem he
  rw [List.map_append, List.map_cons] at hn
  have hbefore : entry.node ∉ before.map (·.node) := fun h =>
    (List.nodup_append.mp hn).2.2 _ h _ List.mem_cons_self rfl
  have hafter : entry.node ∉ after.map (·.node) :=
    (List.nodup_cons.mp (List.nodup_append.mp hn).2.1).1
  have hnone : (before.foldl register {}).sourceOf? entry.node = none :=
    (foldl_register_agrees hbefore {}).2
  rw [registerAll, List.foldl_append, List.foldl_cons, (foldl_register_agrees hafter _).2,
    sourceOf?_register, if_pos rfl, hnone, Option.or_none]

end

/-! ## The entries of a document -/

section
variable (doc : Document) (settings : Settings)

/-- An entry depends only on what the index knows about the object around. -/
theorem registration_congr {index other : Index} {visit : Visit}
    (h : ∀ outer, visit.parent = some outer →
      index.idOf? outer = other.idOf? outer ∧ index.sourceOf? outer = other.sourceOf? outer) :
    registration doc settings index visit = registration doc settings other visit := by
  unfold registration pathId
  cases hp : visit.parent with
  | none => rfl
  | some outer => simp only [Option.bind_some, (h outer hp).1, (h outer hp).2]

/-- What the index knows about an object does not change after the object has been registered. -/
theorem extend_agrees {before after : List Visit} (hn : doc.nodes = before ++ after) {node : Nat}
    (hb : node ∈ before.map Visit.node) :
    (extend doc settings {} before).idOf? node = (ofDocument doc settings).idOf? node ∧
      (extend doc settings {} before).sourceOf? node =
        (ofDocument doc settings).sourceOf? node := by
  have hafter : node ∉ (registrations doc settings (extend doc settings {} before) after).map
      (·.node) := by
    have hnodup := doc.nodup_nodes
    rw [hn, List.map_append, List.nodup_append] at hnodup
    rw [map_node_registrations]
    exact fun ha => hnodup.2.2 node hb node ha rfl
  have hlast : ofDocument doc settings =
      (registrations doc settings (extend doc settings {} before) after).foldl register
        (extend doc settings {} before) := by
    rw [← extend_eq_foldl, ofDocument, hn, extend, extend, extend, List.foldl_append]
  obtain ⟨hid, hsource⟩ := foldl_register_agrees hafter (extend doc settings {} before)
  rw [hlast]
  exact ⟨hid.symm, hsource.symm⟩

/-- The entries of a document are those that its finished index gives. -/
theorem entries_eq_map :
    entries doc settings = doc.nodes.map (registration doc settings (ofDocument doc settings)) := by
  -- The induction is on the visits to come; on those before, the index is like the finished one.
  have hrest : ∀ after before, doc.nodes = before ++ after →
      registrations doc settings (extend doc settings {} before) after =
        after.map (registration doc settings (ofDocument doc settings)) := by
    intro after
    induction after with
    | nil => exact fun _ _ => rfl
    | cons visit after ih =>
      intro before hn
      have hentry : registration doc settings (extend doc settings {} before) visit =
          registration doc settings (ofDocument doc settings) visit :=
        registration_congr doc settings fun outer ho =>
          extend_agrees doc settings hn (Document.mem_before_of_parent hn ho)
      have hnext : extend doc settings {} (before ++ [visit]) =
          (extend doc settings {} before).register
            (registration doc settings (extend doc settings {} before) visit) := by
        rw [extend, List.foldl_concat, extend]
      rw [registrations, ← hnext, ih (before ++ [visit]) (by rw [hn, List.append_cons]), hentry,
        List.map_cons]
  exact hrest doc.nodes [] rfl

variable {doc settings} {visit : Visit} {id : String}

/-- Every object is registered as it is seen from the whole index. -/
theorem registration_mem_entries (hv : visit ∈ doc.nodes) :
    registration doc settings (ofDocument doc settings) visit ∈ entries doc settings := by
  rw [entries_eq_map]
  exact List.mem_map_of_mem hv

/-- The id of an object is the one that it states, or else its path from the object around it after
the id of that one. -/
theorem idOf?_visit (hv : visit ∈ doc.nodes) :
    (ofDocument doc settings).idOf? visit.node =
      some ((doc.statedId? visit.node).getD ((ofDocument doc settings).pathId visit)) :=
  idOf?_ofDocument doc settings (registration_mem_entries hv)

/-- In the end every object has the file of its entry. -/
theorem sourceOf?_ofDocument (hv : visit ∈ doc.nodes) :
    (ofDocument doc settings).sourceOf? visit.node =
      (registration doc settings (ofDocument doc settings) visit).file.filter (· ≠ "") := by
  conv_lhs => rw [ofDocument_eq_registerAll]
  exact sourceOf?_of_mem (map_node_entries doc settings ▸ doc.nodup_nodes) (registration_mem_entries hv)

/-- The ids of the index are those of the objects, in the order in which they first come. -/
theorem keys_ofDocument :
    (ofDocument doc settings).keys =
      distinct (doc.nodes.filterMap fun visit => (ofDocument doc settings).idOf? visit.node) := by
  have hids : (entries doc settings).map (·.id) =
      doc.nodes.filterMap fun visit => (ofDocument doc settings).idOf? visit.node := by
    rw [entries_eq_map, List.map_map, ← List.filterMap_eq_map]
    exact List.filterMap_congr fun visit hv =>
      (idOf?_ofDocument doc settings (registration_mem_entries hv)).symm
  rw [keys_eq_distinct, hids]

/-- The index has the ids of the objects, and no others. -/
theorem has_ofDocument_iff :
    (ofDocument doc settings).has id = true ↔
      ∃ visit ∈ doc.nodes, (ofDocument doc settings).idOf? visit.node = some id := by
  rw [has_iff, keys_ofDocument, mem_distinct, List.mem_filterMap]

/-! ## Names and files -/

/-- What holds of some entry holds of the one that the finished index gives for some object. -/
theorem exists_entry_iff {p : Registration → Prop} :
    (∃ entry ∈ entries doc settings, p entry ∧ entry.id = id) ↔ ∃ visit ∈ doc.nodes,
      (ofDocument doc settings).idOf? visit.node = some id ∧
        p (registration doc settings (ofDocument doc settings) visit) := by
  have hid : ∀ visit ∈ doc.nodes, (ofDocument doc settings).idOf? visit.node =
      some (registration doc settings (ofDocument doc settings) visit).id := fun visit hv =>
    idOf?_ofDocument doc settings (registration_mem_entries hv)
  constructor
  · rintro ⟨entry, he, hp, rfl⟩
    rw [entries_eq_map] at he
    obtain ⟨visit, hv, rfl⟩ := List.mem_map.mp he
    exact ⟨visit, hv, hid visit hv, hp⟩
  · rintro ⟨visit, hv, hv', hp⟩
    rw [hid visit hv, Option.some_inj] at hv'
    exact ⟨_, registration_mem_entries hv, hp, hv'⟩

/-- An object is found under its name, as it stands and in lower case. -/
theorem mem_names_registration {index : Index} {key : String} :
    key ∈ (registration doc settings index visit).names ↔ ∃ name,
      doc.textMember? visit.node ["name"] = some name ∧ (key = name ∨ key = Text.lower name) := by
  rw [Registration.names, List.mem_flatMap, registration]
  simp only [mem_filled, mem_spellings]
  constructor
  · rintro ⟨name, ⟨hn, -⟩, hkey⟩
    exact ⟨name, hn, hkey⟩
  · rintro ⟨name, hn, hkey⟩
    exact ⟨name, ⟨hn, Document.textMember?_ne_empty hn⟩, hkey⟩

/-- A name finds the ids of the objects of which it is the name, as it stands or in lower case. -/
theorem mem_idsNamed_iff {key : String} :
    id ∈ (ofDocument doc settings).idsNamed key ↔ ∃ visit ∈ doc.nodes,
      (ofDocument doc settings).idOf? visit.node = some id ∧ ∃ name,
        doc.textMember? visit.node ["name"] = some name ∧
          (key = name ∨ key = Text.lower name) := by
  rw [mem_idsNamed, exists_entry_iff]
  exact exists_congr fun visit => and_congr_right fun _ => and_congr_right fun _ =>
    mem_names_registration

/-- A file finds the ids of the objects that are in it. -/
theorem mem_idsInFile_iff {file : String} :
    id ∈ (ofDocument doc settings).idsInFile file ↔ ∃ visit ∈ doc.nodes,
      (ofDocument doc settings).idOf? visit.node = some id ∧
        (ofDocument doc settings).sourceOf? visit.node = some file := by
  rw [mem_idsInFile, exists_entry_iff]
  refine exists_congr fun visit => and_congr_right fun hv => and_congr_right fun _ => ?_
  rw [sourceOf?_ofDocument hv, filled, Option.mem_toList]

end

end Index

end ContextSlice
