import ContextSlice.Dot
import ContextSlice.Proofs.Json.Lookup
import ContextSlice.Proofs.Session.Indexed

/-!
# What a slice consists of

A request for texts is always answered (`Session.exists_context_eq_ok`). As all ids of its context are
ids of the index, none is dropped when they are sorted (`Session.nodeIds_assemble_perm`), every one
stands beside its object (`Session.getElem?_nodes_assemble`), and in the form that is handed out the
object carries it as its member `id` and is otherwise as it was (`Slice.getElem?_identified`).
-/

namespace ContextSlice

/-- The kind of a request for values that can be looked up. -/
theorem RequestKind.ofSymbols_eq_ok {symbols fileSymbols : List Json}
    (hs : ∀ symbol ∈ symbols, symbol.hashable = true)
    (hf : ∀ file ∈ fileSymbols, file.hashable = true) :
    ofSymbols symbols fileSymbols = .ok (if fileSymbols.isEmpty then .symbol
      else if symbols.all (Json.among fileSymbols) then .file else .mixed) := by
  unfold ofSymbols
  rw [Json.asSet_of_hashable hf]
  cases fileSymbols with
  | nil => rfl
  | cons file files =>
    have hkind : ((Json.allIn (file :: files) symbols).bind fun onlyFiles =>
        .ok (if onlyFiles then RequestKind.file else .mixed) : Except NotHashable RequestKind) =
          .ok (if symbols.all (Json.among (file :: files)) then .file else .mixed) := by
      rw [Json.allIn_eq_all (file :: files) hs, Except.bind]
    exact hkind

/-- A request for values that can be looked up is of some kind. -/
theorem RequestKind.exists_ofSymbols_eq_ok {symbols fileSymbols : List Json}
    (hs : ∀ symbol ∈ symbols, symbol.hashable = true)
    (hf : ∀ file ∈ fileSymbols, file.hashable = true) :
    ∃ kind, ofSymbols symbols fileSymbols = .ok kind := by
  exact ⟨_, ofSymbols_eq_ok hs hf⟩

namespace Slice

/-- Every object is identified by the id at its place. -/
theorem identified_eq_zipWith {nodes : List (List (String × Json))} {ids : List String}
    (h : nodes.length = ids.length) :
    identified nodes ids =
      List.zipWith (fun node id => .object (Assoc.put "id" (.text id) node)) nodes ids := by
  induction nodes generalizing ids with
  | nil => rw [identified, List.zipWith_nil_left]
  | cons node nodes ih =>
    cases ids with
    | nil => cases h
    | cons id ids => rw [identified, List.zipWith_cons_cons, ih (Nat.succ.inj h)]

/-- An object that is handed out has its id as a member, and is the same but for this member. -/
theorem getElem?_identified {nodes : List (List (String × Json))} {ids : List String}
    (h : nodes.length = ids.length) {k : Nat} {node : List (String × Json)} {id : String}
    (hn : nodes[k]? = some node) (hi : ids[k]? = some id) :
    ∃ members, (identified nodes ids)[k]? = some (.object members) ∧
      members.lookup "id" = some (.text id) ∧ Assoc.erase "id" members = Assoc.erase "id" node := by
  refine ⟨Assoc.put "id" (.text id) node, ?_, Assoc.lookup_put_self _ _ _, Assoc.erase_put _ _ _⟩
  rw [identified_eq_zipWith h, List.getElem?_zipWith, hn, hi]

/-- As many objects are handed out as there are ids. -/
theorem length_identified {nodes : List (List (String × Json))} {ids : List String}
    (h : nodes.length = ids.length) : (identified nodes ids).length = ids.length := by
  rw [identified_eq_zipWith h, List.length_zipWith, h, Nat.min_self]

end Slice

namespace Session

section
variable {session : Session} {symbols matched : List Json} {context : List String} {strategy : String}

/-- A request for values that can be looked up is of some kind. -/
theorem exists_requestKind_eq_ok (h : ∀ symbol ∈ symbols, symbol.hashable = true) :
    ∃ kind, session.requestKind symbols = .ok kind :=
  RequestKind.exists_ofSymbols_eq_ok h fun symbol hs => h symbol (List.mem_of_mem_filter hs)

/-- A request of some kind is answered by the slice of its context. -/
theorem context_eq_ok {kind : RequestKind} (hk : session.requestKind symbols = .ok kind) :
    session.context symbols = .ok (session.assemble (session.contextIds symbols)
      (session.matchedSymbols symbols) symbols kind.name) := by
  rw [Session.context, hk]
  rfl

/-- A request for values that can be looked up is answered by the slice of its context. -/
theorem exists_context_eq_ok (h : ∀ symbol ∈ symbols, symbol.hashable = true) :
    ∃ kind : RequestKind, session.context symbols = .ok (session.assemble
      (session.contextIds symbols) (session.matchedSymbols symbols) symbols kind.name) := by
  obtain ⟨kind, hk⟩ : ∃ kind, session.requestKind symbols = .ok kind := exists_requestKind_eq_ok h
  exact ⟨kind, context_eq_ok hk⟩

end

section
variable {document : Document} {settings : Settings} {symbols matched : List Json}
variable {context : List String} {strategy : String}

/-- Every id is in a context once. -/
theorem nodup_contextIds {session : Session} (symbols : List Json) :
    (session.contextIds symbols).Nodup := nodup_distinct _

/-- Sorting a context of ids of the index keeps all of them. -/
theorem sortIds_distinct_perm
    (hc : ∀ id ∈ context, (ofDocument document settings).index.has id = true) :
    ((ofDocument document settings).index.sortIds (distinct context)).Perm (distinct context) :=
  Index.sortIds_perm fun id hid => hc id (mem_distinct.mp hid)

/-- The ids of a slice are those of its context. -/
theorem nodeIds_assemble_perm (hn : context.Nodup)
    (hc : ∀ id ∈ context, (ofDocument document settings).index.has id = true) :
    ((ofDocument document settings).assemble context matched symbols strategy).nodeIds.Perm
      context := by
  have hsame : (distinct context).Perm context :=
    (List.perm_ext_iff_of_nodup (nodup_distinct context) hn).mpr fun _ => mem_distinct
  exact (sortIds_distinct_perm hc).trans hsame

/-- The ids of a slice stand in the order in which the objects that have them first come. -/
theorem nodeIds_assemble_eq_filter :
    ((ofDocument document settings).assemble context matched symbols strategy).nodeIds =
      (distinct (document.nodes.filterMap fun visit =>
        (ofDocument document settings).index.idOf? visit.node)).filter (· ∈ context) := by
  have hkeys : (ofDocument document settings).index.keys = _ := Index.keys_ofDocument
  have hids : ((ofDocument document settings).assemble context matched symbols strategy).nodeIds =
      (ofDocument document settings).index.sortIds (distinct context) := rfl
  rw [hids, Index.sortIds_eq_filter (nodup_distinct context), hkeys]
  simp only [mem_distinct]
  rfl

/-- Nothing is dropped from a context of ids of the index. -/
theorem dropped_not_mem_assemblyNotices
    (hc : ∀ id ∈ context, (ofDocument document settings).index.has id = true) (n : Nat) :
    .dropped n ∉ (ofDocument document settings).assemblyNotices context := by
  have hall : ((ofDocument document settings).index.sortIds (distinct context)).length =
      (distinct context).length := (sortIds_distinct_perm hc).length_eq
  simp only [assemblyNotices, Document.registryNotices, Document.tableNotices,
    Document.metadataNotices, Document.itemsNotices, Document.membersNotices, hall]
  grind

/-- Every id of a slice stands beside the object that is found under it. -/
theorem getElem?_nodes_assemble {session : Session} {k : Nat} {id : String} {node : Nat}
    (hi : (session.assemble context matched symbols strategy).nodeIds[k]? = some id)
    (hn : session.index.node? id = some node) :
    (session.assemble context matched symbols strategy).nodes[k]? =
      some (session.document.members node) := by
  have hids : (session.index.sortIds (distinct context))[k]? = some id := hi
  rw [assemble, List.getElem?_map, hids, Option.map_some, hn]
  rfl

/-- A slice has as many objects as ids. -/
theorem length_nodes_assemble {session : Session} :
    (session.assemble context matched symbols strategy).nodes.length =
      (session.assemble context matched symbols strategy).nodeIds.length := List.length_map _

/-- In the form that is handed out every object stands at its place with its id as a member, and is
the same but for this member. -/
theorem exists_objects_writeOut {session : Session} {slice : Slice Value}
    (h : slice.nodes.length = slice.nodeIds.length) :
    ∃ objects : List Json, (session.writeOut slice).payload.lookup "nodes" = some (.list objects) ∧
      objects.length = slice.nodeIds.length ∧
      ∀ {k : Nat} {id node}, slice.nodeIds[k]? = some id → slice.nodes[k]? = some node →
        ∃ members, objects[k]? = some (.object members) ∧ members.lookup "id" = some (.text id) ∧
          Assoc.erase "id" members =
            Assoc.erase "id" (mapMembers session.document.toJson node) := by
  have hlength : (slice.nodes.map (mapMembers session.document.toJson)).length =
      slice.nodeIds.length := by rw [List.length_map, h]
  refine ⟨_, rfl, Slice.length_identified hlength, fun {k id node} hi hn => ?_⟩
  refine Slice.getElem?_identified hlength ?_ hi
  rw [List.getElem?_map, hn, Option.map_some]

/-- Nothing is dropped while a request is answered. -/
theorem dropped_not_mem_contextNotices (n : Nat) :
    .dropped n ∉ (ofDocument document settings).contextNotices symbols := by
  unfold contextNotices
  rw [List.mem_append, not_or]
  constructor
  · simp [contextIdsNotices, resolutionNotices, closureNotices]
  · split
    · exact dropped_not_mem_assemblyNotices (fun _ hid => has_of_mem_contextIds hid) n
    · exact List.not_mem_nil

end

/-- A request for texts is answered by a slice whose ids are those of the context, each once, in the
order in which the objects that have them first come. Its objects, the metadata and the graph of the
request count as many as there are ids; what is handed out is the object found under every id, with the
id as its member `id`; and every id is again in the context that it is the symbol of. -/
theorem exists_context_texts (document : Document) (settings : Settings) (symbols : List String) :
    let session := ofDocument document settings
    let texts := symbols.map Json.text
    ∃ slice, session.context texts = .ok slice ∧
      slice.nodeIds.Nodup ∧ (∀ id, id ∈ slice.nodeIds ↔ id ∈ session.contextIds texts) ∧
      slice.nodeIds = (distinct (document.nodes.filterMap fun visit =>
        session.index.idOf? visit.node)).filter (· ∈ session.contextIds texts) ∧
      (∀ n, .dropped n ∉ session.contextNotices texts) ∧
      slice.nodes.length = slice.nodeIds.length ∧
      slice.metadata.totalNodes = slice.nodeIds.length ∧
      session.dotCount texts = slice.nodeIds.length ∧
      (∃ objects, (session.writeOut slice).payload.lookup "nodes" = some (.list objects) ∧
        objects.length = slice.nodeIds.length ∧
        ∀ (k : Nat) (id : String), slice.nodeIds[k]? = some id → ∃ node members,
          session.index.node? id = some node ∧
          slice.nodes[k]? = some (document.members node) ∧
          objects[k]? = some (.object members) ∧ members.lookup "id" = some (.text id) ∧
          Assoc.erase "id" members =
            Assoc.erase "id" (mapMembers document.toJson (document.members node))) ∧
      ∀ id ∈ slice.nodeIds, ∃ again, session.context [.text id] = .ok again ∧
        id ∈ again.nodeIds := by
  intro session texts
  have hhas : ∀ {symbols id}, id ∈ session.contextIds symbols → session.index.has id = true :=
    has_of_mem_contextIds
  have hperm : ∀ {symbols matched strategy}, (session.assemble (session.contextIds symbols) matched
      symbols strategy).nodeIds.Perm (session.contextIds symbols) :=
    nodeIds_assemble_perm (nodup_contextIds _) fun _ hid => hhas hid
  have htexts : ∀ symbol ∈ texts, symbol.hashable = true := by
    intro symbol hs
    obtain ⟨s, -, rfl⟩ := List.mem_map.mp hs
    rfl
  obtain ⟨kind, hslice⟩ := exists_context_eq_ok htexts
  obtain ⟨objects, hobjects, hlength, hplaces⟩ := exists_objects_writeOut
    (length_nodes_assemble : (session.assemble (session.contextIds texts)
      (session.matchedSymbols texts) texts kind.name).nodes.length = _)
  refine ⟨_, hslice, hperm.nodup_iff.mpr (nodup_contextIds _), fun id => hperm.mem_iff,
    nodeIds_assemble_eq_filter, dropped_not_mem_contextNotices, length_nodes_assemble, rfl,
    hperm.length_eq.symm, ⟨objects, hobjects, hlength, fun k id hi => ?_⟩, fun id hid => ?_⟩
  · have hid : session.index.has id = true := hhas (hperm.mem_iff.mp (List.mem_of_getElem? hi))
    obtain ⟨node, hnode⟩ := Option.isSome_iff_exists.mp (Index.node?_isSome_iff.mpr hid)
    have hmembers := getElem?_nodes_assemble hi hnode
    obtain ⟨members, hm, hown, hrest⟩ := hplaces hi hmembers
    exact ⟨node, members, hnode, hmembers, hm, hown, hrest⟩
  · obtain ⟨kind, hagain⟩ := exists_context_eq_ok
      (List.forall_mem_singleton.mpr rfl : ∀ symbol ∈ [Json.text id], symbol.hashable = true)
    exact ⟨_, hagain, hperm.mem_iff.mpr (mem_contextIds_self (hhas (hperm.mem_iff.mp hid)))⟩

end Session

end ContextSlice
