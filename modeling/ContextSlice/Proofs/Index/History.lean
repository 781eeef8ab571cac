import ContextSlice.Proofs.Index.Entries

/-!
# Indexes after any history

The objects registered one after another may come again under other ids, and an id may be given to
several objects. Whatever the history, the ids stand in the order in which they first came, an id finds
the object of its last entry, and sorting some ids gives those that are known in that order
(`Index.sortIds_perm_filter`, `Index.pairwise_sortIds`). A name is a key of the index if some entry goes
by it (`Registration.goesBy`), and has then collected the objects of these entries, one for each
(`Index.lookup_names_registerAll`). The ids that a name or a file finds are ids of the index, each once
(`Index.mem_keys_of_mem_idsOf`).
-/

namespace ContextSlice

/-- Whether an entry has a name that is some text, as it stands or in lower case. -/
def Registration.goesBy (entry : Registration) (text : String) : Bool :=
  entry.name.any fun name => name ≠ "" && (name = text || Text.lower name = text)

/-! ## Tables that collect -/

namespace Assoc

variable {κ ν : Type} [DecidableEq κ]

/-- Collecting a value makes its key known, and no other one. -/
theorem mem_keys_append {table : Assoc κ (List ν)} {key other : κ} {value : ν} :
    other ∈ keys (append key value table) ↔ other = key ∨ other ∈ keys table := by
  induction table with
  | nil => simp [append, keys]
  | cons pair rest ih =>
    obtain ⟨k, values⟩ := pair
    rw [append]
    split
    · rename_i hk
      simp [keys, hk]
    · simp only [keys, List.map_cons, List.mem_cons] at ih ⊢
      rw [ih]
      exact or_left_comm

/-- A look-up finds what its key has collected, if the key is known. -/
theorem lookup_eq_some_iff_collected {table : Assoc κ (List ν)} {key : κ} {values : List ν} :
    table.lookup key = some values ↔ key ∈ keys table ∧ collected table key = values := by
  rw [← lookup_isSome_iff, collected]
  cases table.lookup key <;> simp

end Assoc

namespace Index

/-- The keys of a table after an addition are those from before and the new ones. -/
theorem mem_keys_addUnder {keys : List String} {node : Nat} {table : Assoc String (List Nat)}
    {key : String} :
    key ∈ Assoc.keys (addUnder keys node table) ↔ key ∈ keys ∨ key ∈ Assoc.keys table := by
  induction keys generalizing table with
  | nil => simp [addUnder]
  | cons first keys ih =>
    have hfirst : addUnder (first :: keys) node table =
        addUnder keys node (Assoc.append first node table) := rfl
    rw [hfirst, ih, Assoc.mem_keys_append, List.mem_cons, or_left_comm, or_assoc]

/-- If every entry's object is added under some keys, then the keys of the entries become known. -/
theorem mem_keys_foldl_addUnder {keysOf : Registration → List String} {entries : List Registration}
    {table : Assoc String (List Nat)} {key : String} :
    key ∈ Assoc.keys
        (entries.foldl (fun table entry => addUnder (keysOf entry) entry.node table) table) ↔
      key ∈ Assoc.keys table ∨ ∃ entry ∈ entries, key ∈ keysOf entry := by
  induction entries generalizing table with
  | nil => simp
  | cons entry entries ih =>
    rw [List.foldl_cons, ih, mem_keys_addUnder, List.exists_mem_cons_iff, or_assoc, or_left_comm]

/-! ## Sorting ids -/

section
variable {index : Index}

/-- Sorted ids stand in the order of the index, equal ones beside each other. -/
theorem pairwise_sortIds {r : String → String → Prop} (hk : index.keys.Pairwise r) (ids : List String) :
    (index.sortIds ids).Pairwise fun a b => a = b ∨ r a b := by
  rw [sortIds_eq_flatMap, List.pairwise_flatMap]
  refine ⟨fun key _ => List.pairwise_of_forall_mem_list fun a ha b hb => .inl ?_,
    hk.imp fun hr a ha b hb => .inr ?_⟩
  all_goals
    simp only [List.mem_filter, decide_eq_true_eq] at ha hb
    rw [ha.2, hb.2]
  exact hr

/-- The ids of an index are sorted as they were first registered. -/
theorem sortIds_keys (index : Index) : index.sortIds index.keys = index.keys := by
  have hn : index.keys.Nodup := index.nodup_keys
  rw [sortIds_eq_filter hn, List.filter_eq_self]
  exact fun _ hk => decide_eq_true hk

end

/-! ## What a history leaves -/

section
variable (history : List Registration) {text id : String}

/-- A registration is found under a text if it goes by it. -/
theorem mem_names_iff {entry : Registration} :
    text ∈ entry.names ↔ entry.goesBy text = true := by
  rw [Registration.names, List.mem_flatMap, Registration.goesBy, Option.any_eq_true]
  simp only [mem_filled, mem_spellings, Bool.and_eq_true, Bool.or_eq_true, decide_eq_true_eq,
    eq_comm (a := text), and_assoc]

/-- A name finds the objects of the entries that go by it, one for each, if there are any. -/
theorem lookup_names_registerAll {nodes : List Nat} :
    (registerAll history).names.lookup text = some nodes ↔
      nodes ≠ [] ∧ nodes = (history.filter (·.goesBy text)).map (·.node) := by
  have hcollected : Assoc.collected (registerAll history).names text =
      (history.filter (·.goesBy text)).map (·.node) := by
    rw [collected_names_registerAll]
    simp only [mem_names_iff, Bool.decide_eq_true]
  have hkeys : text ∈ Assoc.keys (registerAll history).names ↔
      (history.filter (·.goesBy text)).map (·.node) ≠ [] := by
    have hnames : (registerAll history).names =
        history.foldl (fun table entry => addUnder entry.names entry.node table) [] :=
      (List.foldl_hom names fun _ _ => rfl).symm
    rw [hnames, mem_keys_foldl_addUnder]
    simp [mem_names_iff, Assoc.keys]
  rw [Assoc.lookup_eq_some_iff_collected, hkeys, hcollected]
  constructor
  · rintro ⟨hne, rfl⟩
    exact ⟨hne, rfl⟩
  · rintro ⟨hne, rfl⟩
    exact ⟨hne, rfl⟩

/-- What objects are known by are ids of the index. -/
theorem mem_keys_of_mem_idsOf {nodes : List Nat} (h : id ∈ (registerAll history).idsOf nodes) :
    id ∈ (registerAll history).keys := by
  obtain ⟨node, -, hid⟩ := List.mem_filterMap.mp (mem_distinct.mp h)
  rw [idOf?_registerAll, Option.map_eq_some_iff] at hid
  obtain ⟨entry, hentry, rfl⟩ := hid
  rw [keys_registerAll, mem_distinct]
  exact List.mem_map_of_mem (List.mem_reverse.mp (List.mem_of_find?_eq_some hentry))

end

/-- After any history of registrations the ids stand in the order in which they first came and are numbered
in this order, and an id finds the object of its last entry. Sorting the ids by their numbers changes
nothing; sorting some ids leaves those that were registered, in the order in which they first came. A name
finds the objects of the entries that have it, as it stands or in lower case, one for each entry and in their
order. What a name or a file finds are ids of the index, each once. -/
theorem tables_registerAll (history : List Registration) :
    let index := registerAll history
    let registered := history.map (·.id)
    index.keys = distinct registered ∧
      index.order = (distinct registered).zipIdx ∧
      (∀ id, index.node? id = (history.reverse.find? fun entry => entry.id = id).map (·.node)) ∧
      index.sortIds index.keys = index.keys ∧
      (∀ ids, (index.sortIds ids).Perm (ids.filter (· ∈ registered)) ∧
        (index.sortIds ids).Pairwise fun a b => registered.idxOf a ≤ registered.idxOf b) ∧
      (∀ name nodes, index.names.lookup name = some nodes ↔
        nodes ≠ [] ∧ nodes = (history.filter (·.goesBy name)).map (·.node)) ∧
      (∀ name, (index.idsNamed name).Nodup ∧ ∀ id ∈ index.idsNamed name, id ∈ index.keys) ∧
      ∀ file, (index.idsInFile file).Nodup ∧ ∀ id ∈ index.idsInFile file, id ∈ index.keys := by
  intro index registered
  have hkeys : index.keys = distinct registered := keys_registerAll history
  have horder : index.keys.Pairwise fun a b => registered.idxOf a < registered.idxOf b :=
    hkeys ▸ pairwise_idxOf_distinct registered
  refine ⟨hkeys, hkeys ▸ index.order_eq, node?_registerAll history, sortIds_keys index,
    fun ids => ⟨?_, ?_⟩,
    fun name nodes => lookup_names_registerAll history,
    fun name => ⟨nodup_distinct _, fun _ => mem_keys_of_mem_idsOf history⟩,
    fun file => ⟨nodup_distinct _, fun _ => mem_keys_of_mem_idsOf history⟩⟩
  · have hknown : ids.filter (· ∈ registered) = ids.filter (· ∈ index.keys) := by
      simp only [hkeys, mem_distinct]
    exact hknown ▸ sortIds_perm_filter ids
  · exact (pairwise_sortIds horder ids).imp fun h => h.elim (fun heq => heq ▸ le_rfl) Nat.le_of_lt

/-- An object that is registered again is found by its old name under its new id. -/
example :
    let index := registerAll [{ node := 0, id := "a", name := "F" }, { node := 1, id := "a" },
      { node := 0, id := "b" }]
    index.keys = ["a", "b"] ∧ index.node? "a" = some 1 ∧ index.idsNamed "f" = ["b"] := by
  decide

end Index

end ContextSlice
