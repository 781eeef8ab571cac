import ContextSlice.Proofs.Document.DistinctNames
import ContextSlice.Proofs.Session.Relationships

/-!
# What a slice is made of

The values in a slice are written out from its document, so they have distinct names and their leaves are
those of the document (`Session.each_writeOut`). The same can be said then of the payload
(`Slice.Each.payload`): an object that is identified keeps its other members, and the sections that are left
out leave no name behind.
-/

namespace ContextSlice

/-! ## Payloads -/

/-- All values in a slice have a property, its objects taken as wholes. -/
structure Slice.Each (P : Json → Prop) (slice : Slice Json) : Prop where
  symbols : ∀ symbol ∈ slice.symbols, P symbol
  matchedSymbols : ∀ symbol ∈ slice.matchedSymbols, P symbol
  nodes : ∀ node ∈ slice.nodes, P (.object node)
  endpoints : P (.object slice.endpoints)
  relationships : P (.object slice.relationships)
  sourceFiles : ∀ file ∈ slice.metadata.sourceFiles, P file
  imports : ∀ name ∈ slice.metadata.imports, P name
  dependencies : P (.object slice.metadata.dependencies)

section
variable {P Q : Json → Prop} {slice : Slice Json}

/-- What holds of each value of a slice may be weakened. -/
theorem Slice.Each.mono (h : slice.Each P) (hpq : ∀ value, P value → Q value) : slice.Each Q where
  symbols symbol hs := hpq _ (h.symbols symbol hs)
  matchedSymbols symbol hs := hpq _ (h.matchedSymbols symbol hs)
  nodes node hn := hpq _ (h.nodes node hn)
  endpoints := hpq _ h.endpoints
  relationships := hpq _ h.relationships
  sourceFiles file hf := hpq _ (h.sourceFiles file hf)
  imports name hn := hpq _ (h.imports name hn)
  dependencies := hpq _ h.dependencies

/-- An object stays made of the same when such a value is put in it. -/
theorem Json.MadeOf.put {members : List (String × Json)} {key : String} {value : Json}
    (h : (Json.object members).MadeOf P) (hv : value.MadeOf P) :
    (Json.object (Assoc.put key value members)).MadeOf P := by
  obtain ⟨hn, hm⟩ := Json.madeOf_object_iff.mp h
  refine .object (Assoc.nodup_keys_put hn key value) fun member hmem => ?_
  rcases Assoc.mem_of_mem_put hmem with rfl | hmem
  · exact hv
  · exact hm member hmem

/-- Objects that are identified are made of what they were made of, and their ids. -/
theorem Slice.madeOf_identified {nodes : List (List (String × Json))} {ids : List String}
    (hn : ∀ node ∈ nodes, (Json.object node).MadeOf P) (hi : ∀ s, P (.text s)) :
    ∀ node ∈ identified nodes ids, node.MadeOf P := by
  induction nodes generalizing ids with
  | nil => rw [identified]; exact fun _ h => absurd h List.not_mem_nil
  | cons node nodes ih =>
    obtain ⟨hnode, hnodes⟩ := List.forall_mem_cons.mp hn
    cases ids with
    | nil => exact List.forall_mem_cons.mpr ⟨hnode, ih hnodes⟩
    | cons id ids => exact List.forall_mem_cons.mpr ⟨hnode.put (.leaf rfl (hi id)), ih hnodes⟩

/-- No two members of a payload have one name. -/
theorem Slice.nodup_keys_payload (slice : Slice Json) : (Assoc.keys slice.payload).Nodup := by
  unfold Slice.payload unlessEmpty
  split <;> split <;> simp [Assoc.keys]

/-- A member that is left out where it is empty is made of the same. -/
theorem Slice.madeOf_unlessEmpty {name : String} {members : List (String × Json)}
    (h : (Json.object members).MadeOf P) : ∀ member ∈ unlessEmpty name members, member.2.MadeOf P := by
  unfold unlessEmpty
  split
  · exact fun _ hm => absurd hm List.not_mem_nil
  · exact List.forall_mem_singleton.mpr h

/-- The payload of a slice is made of what the slice is made of. -/
theorem Slice.Each.payload (h : slice.Each (Json.MadeOf P)) (htext : ∀ s, P (.text s))
    (htotal : P (.int slice.metadata.totalNodes)) : (Json.object slice.payload).MadeOf P := by
  have hmetadata : (Json.object (metadataPayload slice.metadata)).MadeOf P := by
    refine .object (by simp [Assoc.keys, metadataPayload]) ?_
    simp only [metadataPayload, List.forall_mem_cons]
    exact ⟨.list h.sourceFiles, .list h.imports, h.dependencies, .leaf rfl htotal, .leaf rfl (htext _),
      fun _ hm => absurd hm List.not_mem_nil⟩
  refine .object slice.nodup_keys_payload fun member hm => ?_
  simp only [Slice.payload, List.mem_append, List.mem_cons, List.not_mem_nil, or_false] at hm
  rcases hm with (((rfl | rfl | rfl) | hm) | hm) | rfl
  · exact .list h.symbols
  · exact .list h.matchedSymbols
  · exact .list (madeOf_identified h.nodes htext)
  · exact madeOf_unlessEmpty h.endpoints member hm
  · exact madeOf_unlessEmpty h.relationships member hm
  · exact hmetadata

end

/-! ## Slices of a document -/

section
variable {P : Json → Prop} {doc : Document} {value : Value} {members : List (String × Value)}

namespace Document

/-- A value is written out with the leaves that are in the document. -/
theorem madeOf_unfold (hd : AllMadeOf P doc.containers) (hnull : P .null) (hv : value.MadeOf P)
    (fuel : Nat) : (doc.unfold fuel value).MadeOf P := by
  induction fuel generalizing value with
  | zero =>
    cases hv with
    | leaf hl hp => exact .leaf hl hp
    | ref place => exact .leaf rfl hnull
  | succ fuel ih =>
    cases hv with
    | leaf hl hp => exact .leaf hl hp
    | ref place =>
      rw [unfold]
      split
      · exact .leaf rfl hnull
      · rename_i items hitems
        have hcontainer := hd _ (Array.mem_of_getElem? hitems)
        refine .list fun item hi => ?_
        obtain ⟨inner, hinner, rfl⟩ := List.mem_map.mp hi
        exact ih (hcontainer.values inner hinner)
      · rename_i members hmembers
        have hcontainer := hd _ (Array.mem_of_getElem? hmembers)
        refine .object ?_ fun member hm => ?_
        · rw [Assoc.keys, List.map_map]
          exact hcontainer.distinctNames
        · obtain ⟨inner, hinner, rfl⟩ := List.mem_map.mp hm
          exact ih (hcontainer.values inner.2 (List.mem_map_of_mem hinner))

/-- Members are written out as an object. -/
theorem madeOf_mapMembers (hd : AllMadeOf P doc.containers) (hnull : P .null)
    (hm : (Container.object members).MadeOf P) : (Json.object (mapMembers doc.toJson members)).MadeOf P := by
  refine .object ?_ fun member hmem => ?_
  · rw [mapMembers, Assoc.keys, List.map_map]
    exact hm.distinctNames
  · obtain ⟨inner, hinner, rfl⟩ := List.mem_map.mp hmem
    exact madeOf_unfold hd hnull (hm.values inner.2 (List.mem_map_of_mem hinner)) _

theorem madeOf_nil : (Container.object []).MadeOf P :=
  ⟨List.nodup_nil, fun _ hv => absurd hv List.not_mem_nil⟩

/-- The members of an object are made of what the containers are made of. -/
theorem madeOf_members (hd : AllMadeOf P doc.containers) (place : Nat) :
    (Container.object (doc.members place)).MadeOf P := by
  unfold Document.members
  split
  · rename_i hmembers
    exact hd _ (Array.mem_of_getElem? hmembers)
  · exact madeOf_nil

/-- So are those of a value that should be an object. -/
theorem madeOf_membersOf (hd : AllMadeOf P doc.containers) (value : Value) :
    (Container.object (doc.membersOf value)).MadeOf P := by
  unfold membersOf
  cases doc.object? value with
  | none => exact madeOf_nil
  | some place => exact madeOf_members hd place

/-- So are the items of a value that should be a list. -/
theorem madeOf_itemsOf (hd : AllMadeOf P doc.containers) (value : Value) :
    ∀ item ∈ doc.itemsOf value, item.MadeOf P := by
  unfold itemsOf items?
  split
  · rename_i items hitems
    cases value with
    | leaf => cases hitems
    | ref place => exact (hd _ (Array.mem_of_getElem? hitems)).values
  · exact fun _ hi => absurd hi List.not_mem_nil

/-- The records of a registry that are kept are the members of an object. -/
theorem madeOf_records {records : List (String × Nat)} (hn : (Assoc.keys records).Nodup)
    {kept : List (String × Value)} (hk : kept.Sublist (records.map fun entry => (entry.1, .ref entry.2))) :
    (Container.object kept).MadeOf P := by
  constructor
  · refine (hk.map (·.1)).nodup ?_
    rwa [List.map_map]
  · intro value hv
    obtain ⟨member, hm, rfl⟩ := List.mem_map.mp hv
    obtain ⟨entry, -, rfl⟩ := List.mem_map.mp (hk.subset hm)
    exact .ref _

end Document

namespace Session

variable {session : Session}

/-- The endpoints of a slice are the records of their registry, each under its key. -/
theorem endpoints_assemble_sublist (context : List String) (matched symbols : List Json)
    (strategy : String) :
    (session.assemble context matched symbols strategy).endpoints.Sublist
      ((session.document.table (session.document.registry endpointsField)).map
        fun entry => (entry.1, .ref entry.2)) := by
  have hall : (session.document.table (session.document.registry endpointsField)).map
      (fun entry => (entry.1, Value.ref entry.2)) =
        session.document.endpoints.map fun endpoint => (endpoint.key, .ref endpoint.record) := by
    rw [Document.endpoints, List.map_map]
    rfl
  rw [hall]
  exact List.filter_sublist.map _

/-- A slice as it is handed out is made of the symbols and of what its document is made of. -/
theorem each_writeOut {symbols : List Json} {slice : Slice Value}
    (hd : Document.AllMadeOf P session.document.containers) (hnull : P .null)
    (hs : ∀ symbol ∈ symbols, symbol.MadeOf P) (h : session.context symbols = .ok slice) :
    (session.writeOut slice).Each (Json.MadeOf P) := by
  have hobject {members : List (String × Value)} (hm : (Container.object members).MadeOf P) :
      (Json.object (mapMembers session.document.toJson members)).MadeOf P :=
    Document.madeOf_mapMembers hd hnull hm
  have hitems (value : Value) : ∀ item ∈ (session.document.itemsOf value).map session.document.toJson,
      item.MadeOf P := by
    intro item hi
    obtain ⟨inner, hinner, rfl⟩ := List.mem_map.mp hi
    exact Document.madeOf_unfold hd hnull (Document.madeOf_itemsOf hd value inner hinner) _
  obtain ⟨kind, hkind, h⟩ := exists_of_bind_eq_ok h
  cases h
  exact
    { symbols := hs
      matchedSymbols := fun symbol hm => hs symbol (List.mem_of_mem_filter (mem_distinct.mp hm))
      nodes := by
        intro node hn
        obtain ⟨members, hmembers, rfl⟩ := List.mem_map.mp hn
        obtain ⟨id, -, rfl⟩ := List.mem_map.mp hmembers
        refine hobject ?_
        cases session.index.node? id with
        | none => exact Document.madeOf_nil
        | some place => exact Document.madeOf_members hd place
      endpoints := hobject (Document.madeOf_records (session.document.nodup_keys_table _)
        (endpoints_assemble_sublist _ _ _ _))
      relationships := hobject (Document.madeOf_records (session.document.nodup_keys_table _)
        relationships_assemble_sublist)
      sourceFiles := hitems _
      imports := hitems _
      dependencies := hobject (Document.madeOf_membersOf hd _) }

end Session

end

end ContextSlice
