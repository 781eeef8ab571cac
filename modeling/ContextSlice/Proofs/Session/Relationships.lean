import ContextSlice.Proofs.Session.Assembly
import ContextSlice.Proofs.Session.Union
import ContextSlice.Session.Edges

/-!
# Relationships of a slice

A slice has the relationships of which an end touches its context, in the order of their registry
(`Session.relationships_assemble_sublist`). An end touches the context if one of its candidates is in
it, or if it is an id outside the context and is taken for the name that an object in the context has
(`Session.refTouches_iff`). So no relationship is left out that adds to the context or is an edge in it
(`Session.exists_touches_of_mem_related`, `Session.exists_touches_of_mem_relationshipEdges`).
-/

namespace ContextSlice

/-- A reference is at one of the ends of a relationship. -/
def Relationship.HasEnd (relationship : Relationship) (ref : String) : Prop :=
  relationship.source = some ref ∨ relationship.target = some ref

namespace Document

/-- The keys of relationships are all different. -/
theorem nodup_keys_table (doc : Document) (value : Value) : (Assoc.keys (doc.table value)).Nodup := by
  unfold table
  split
  · exact Assoc.nodup_keys_ofPairs _
  · exact Assoc.nodup_keys_ofPairs _
  · exact List.nodup_nil

end Document

namespace Slice

/-- The relationships of a slice are handed out as they are, if there are any. -/
theorem lookup_relationships_payload {slice : Slice Json} (h : slice.relationships ≠ []) :
    slice.payload.lookup "relationships" = some (.object slice.relationships) := by
  have hshown : unlessEmpty "relationships" slice.relationships =
      [("relationships", .object slice.relationships)] := by
    rw [unlessEmpty, if_neg (by simpa using h)]
  rw [payload, hshown]
  unfold unlessEmpty
  split <;> rfl

end Slice

namespace Session

/-- An id of the index that is outside the context is taken for a name, if an object of the context
has it as a name. -/
def TakenForName (session : Session) (context : List String) (ref : String) : Prop :=
  session.index.has ref = true ∧ ref ∉ context ∧ ∃ id ∈ session.index.idsNamed ref, id ∈ context

section
variable {session : Session} {context seeds : List String} {ref : String}
variable {relationship : Relationship}

/-- A reference touches a context of ids of the index if one of its candidates is there, or if it is
an id itself but is taken for a name. -/
theorem refTouches_iff (hc : ∀ id ∈ context, session.index.has id = true) :
    session.refTouches context ref = true ↔
      session.Touches context ref ∨ session.TakenForName context ref := by
  simp only [refTouches, Bool.or_eq_true, List.contains_eq_mem, decide_eq_true_eq, List.any_eq_true]
  by_cases hh : session.index.has ref = true
  · constructor
    · rintro (href | hnamed)
      · exact .inl (touches_of_has hh href)
      · by_cases href : ref ∈ context
        · exact .inl (touches_of_has hh href)
        · exact .inr ⟨hh, href, hnamed⟩
    · rintro (⟨id, hid, hmem⟩ | ⟨-, -, hnamed⟩)
      · rw [candidates_of_has hh, List.mem_singleton] at hid
        exact .inl (hid ▸ hmem)
      · exact .inr hnamed
  · rw [Touches, candidates_of_not_has hh]
    constructor
    · rintro (href | hnamed)
      · exact absurd (hc ref href) hh
      · exact .inl hnamed
    · rintro (hnamed | ⟨hhas, -⟩)
      · exact .inr hnamed
      · exact absurd hhas hh

/-- A relationship touches a context if one of its ends does. -/
theorem relationshipTouches_iff :
    session.relationshipTouches context relationship = true ↔
      ∃ ref, relationship.HasEnd ref ∧ session.refTouches context ref = true := by
  simp only [relationshipTouches, Bool.or_eq_true, Option.any_eq_true, Relationship.HasEnd,
    or_and_right, exists_or]

/-- A relationship that adds something to some seeds has an end that stands for one of them. -/
theorem exists_touches_of_mem_related {id : String} (h : id ∈ session.related seeds relationship) :
    ∃ ref, relationship.HasEnd ref ∧ session.Touches seeds ref := by
  obtain ⟨source, target, hs, ht, h | h⟩ := mem_related.mp h
  · exact ⟨target, .inr ht, (mem_across.mp h).1⟩
  · exact ⟨source, .inl hs, (mem_across.mp h).1⟩

/-- A relationship that is an edge in a context has an end that stands for an id of it. -/
theorem exists_touches_of_mem_relationshipEdges {edge : Edge}
    (h : edge ∈ session.relationshipEdges context relationship) :
    ∃ ref, relationship.HasEnd ref ∧ session.Touches context ref := by
  unfold relationshipEdges at h
  split at h
  · rename_i source target hs ht
    obtain ⟨id, hid, -⟩ := List.mem_flatMap.mp h
    obtain ⟨hc, hmem⟩ := List.mem_filter.mp hid
    exact ⟨source, .inl hs, id, hc, by simpa using hmem⟩
  · cases h

end

section
variable {session : Session} {context : List String} {symbols matched : List Json} {strategy : String}

/-- The relationships of a slice are the records of their registry, each under its key. -/
theorem relationships_assemble_sublist :
    (session.assemble context matched symbols strategy).relationships.Sublist
      ((session.document.table (session.document.registry relationshipsField)).map
        fun entry => (entry.1, .ref entry.2)) := by
  have hall : (session.document.table (session.document.registry relationshipsField)).map
      (fun entry => (entry.1, Value.ref entry.2)) =
        session.document.relationships.map fun relationship =>
          (relationship.key, .ref relationship.record) := by
    rw [Document.relationships, List.map_map]
    rfl
  rw [hall]
  exact List.filter_sublist.map _

/-- No key of a slice's relationships comes twice. -/
theorem nodup_keys_relationships_assemble :
    ((session.assemble context matched symbols strategy).relationships.map (·.1)).Nodup := by
  refine (relationships_assemble_sublist.map (·.1)).nodup ?_
  rw [List.map_map]
  exact session.document.nodup_keys_table _

/-- The relationships of a slice for a context of ids of the index are those of the document that
have an end which a candidate of it in the context stands for, or which is taken for a name. -/
theorem mem_relationships_assemble (hc : ∀ id ∈ context, session.index.has id = true)
    {entry : String × Value} :
    entry ∈ (session.assemble context matched symbols strategy).relationships ↔
      ∃ relationship ∈ session.document.relationships,
        entry = (relationship.key, .ref relationship.record) ∧ ∃ ref, relationship.HasEnd ref ∧
          (session.Touches context ref ∨ session.TakenForName context ref) := by
  simp only [assemble, List.mem_map, List.mem_filter, relationshipTouches_iff, refTouches_iff hc]
  constructor
  · rintro ⟨relationship, ⟨hr, hends⟩, rfl⟩
    exact ⟨relationship, hr, rfl, hends⟩
  · rintro ⟨relationship, hr, rfl, hends⟩
    exact ⟨relationship, ⟨hr, hends⟩, rfl⟩

/-- A relationship of a slice is handed out under its key. -/
theorem exists_lookup_writeOut {slice : Slice Value} {key : String} {record : Value}
    (hn : (slice.relationships.map (·.1)).Nodup) (h : (key, record) ∈ slice.relationships) :
    ∃ members, (session.writeOut slice).payload.lookup "relationships" = some (.object members) ∧
      members.lookup key = some (session.document.toJson record) := by
  have hmem : (key, session.document.toJson record) ∈ (session.writeOut slice).relationships :=
    List.mem_map.mpr ⟨(key, record), h, rfl⟩
  have hkeys : (Assoc.keys (session.writeOut slice).relationships).Nodup := by
    have hsame : Assoc.keys (session.writeOut slice).relationships =
        slice.relationships.map (·.1) := List.map_map ..
    rwa [hsame]
  exact ⟨_, Slice.lookup_relationships_payload (List.ne_nil_of_mem hmem),
    (Assoc.lookup_eq_some_iff_mem hkeys).mpr hmem⟩

end

/-- A request for texts is answered by a slice that has every relationship through which the seeds
add to the context or which is an edge in it, under its key and with its record. The relationships of
the slice stand in the order of their registry, and none comes twice. -/
theorem relationships_context_complete (document : Document) (settings : Settings)
    (symbols : List String) :
    let session := ofDocument document settings
    let texts := symbols.map Json.text
    ∃ slice, session.context texts = .ok slice ∧
      slice.relationships.Sublist ((document.table (document.registry relationshipsField)).map
        fun entry => (entry.1, .ref entry.2)) ∧
      (slice.relationships.map (·.1)).Nodup ∧
      ∀ relationship ∈ document.relationships,
        (∃ id, id ∈ session.related (session.seeds texts) relationship) ∨
          (∃ edge ∈ session.relationshipEdges (session.contextIds texts) relationship,
            edge ∈ session.edges (session.contextIds texts)) →
        (relationship.key, .ref relationship.record) ∈ slice.relationships ∧
          ∃ members,
            (session.writeOut slice).payload.lookup "relationships" = some (.object members) ∧
            members.lookup relationship.key =
              some (document.toJson (.ref relationship.record)) := by
  intro session texts
  have hc : ∀ id ∈ session.contextIds texts, session.index.has id = true :=
    fun id hid => has_of_mem_contextIds hid
  obtain ⟨kind, hslice⟩ : ∃ kind : RequestKind, session.context texts = _ :=
    exists_context_eq_ok Json.hashable_of_mem_texts
  refine ⟨_, hslice, relationships_assemble_sublist, nodup_keys_relationships_assemble,
    fun relationship hr hcontributes => ?_⟩
  obtain ⟨ref, hend, htouches⟩ : ∃ ref, relationship.HasEnd ref ∧
      session.Touches (session.contextIds texts) ref := by
    rcases hcontributes with ⟨id, hid⟩ | ⟨edge, hedge, -⟩
    · obtain ⟨ref, hend, htouches⟩ := exists_touches_of_mem_related hid
      exact ⟨ref, hend, htouches.mono (subset_close _)⟩
    · exact exists_touches_of_mem_relationshipEdges hedge
  have hmem : (relationship.key, Value.ref relationship.record) ∈
      (session.assemble (session.contextIds texts) (session.matchedSymbols texts) texts
        kind.name).relationships :=
    (mem_relationships_assemble hc).mpr ⟨relationship, hr, rfl, ref, hend, .inl htouches⟩
  exact ⟨hmem, exists_lookup_writeOut nodup_keys_relationships_assemble hmem⟩

/-- The slice that answers a request for texts has the relationships an end of which has a candidate
in the context, and besides only those an end of which is an id outside the context that is taken for
a name. If no id is the name of another object, then every relationship of the slice has an end with a
candidate in the context. -/
theorem mem_relationships_context_iff (document : Document) (settings : Settings)
    (symbols : List String) :
    let session := ofDocument document settings
    let texts := symbols.map Json.text
    ∃ slice, session.context texts = .ok slice ∧
      (∀ entry, entry ∈ slice.relationships ↔ ∃ relationship ∈ document.relationships,
        entry = (relationship.key, .ref relationship.record) ∧ ∃ ref, relationship.HasEnd ref ∧
          (session.Touches (session.contextIds texts) ref ∨
            session.TakenForName (session.contextIds texts) ref)) ∧
      ((∀ ref, session.index.has ref = true → ∀ id ∈ session.index.idsNamed ref, id = ref) →
        ∀ entry ∈ slice.relationships, ∃ relationship ∈ document.relationships,
          entry = (relationship.key, .ref relationship.record) ∧ ∃ ref, relationship.HasEnd ref ∧
            session.Touches (session.contextIds texts) ref) := by
  intro session texts
  have hc : ∀ id ∈ session.contextIds texts, session.index.has id = true :=
    fun id hid => has_of_mem_contextIds hid
  obtain ⟨kind, hslice⟩ : ∃ kind : RequestKind, session.context texts = _ :=
    exists_context_eq_ok Json.hashable_of_mem_texts
  refine ⟨_, hslice, fun entry => mem_relationships_assemble hc, fun hnames entry he => ?_⟩
  obtain ⟨relationship, hr, hentry, ref, hend, htouches⟩ := (mem_relationships_assemble hc).mp he
  refine ⟨relationship, hr, hentry, ref, hend, htouches.resolve_right ?_⟩
  rintro ⟨hhas, hout, id, hid, hin⟩
  exact hout (hnames ref hhas id hid ▸ hin)

/-- A relationship is in the slice if one of its ends is taken for a name. -/
theorem exists_context_of_takenForName {document : Document} {settings : Settings}
    (symbols : List String) {relationship : Relationship} (hr : relationship ∈ document.relationships)
    {ref : String} (hend : relationship.HasEnd ref)
    (htaken : (ofDocument document settings).TakenForName
      ((ofDocument document settings).contextIds (symbols.map .text)) ref) :
    ∃ slice, (ofDocument document settings).context (symbols.map .text) = .ok slice ∧
      (relationship.key, .ref relationship.record) ∈ slice.relationships := by
  obtain ⟨kind, hslice⟩ : ∃ kind : RequestKind,
      (ofDocument document settings).context (symbols.map .text) = _ :=
    exists_context_eq_ok Json.hashable_of_mem_texts
  exact ⟨_, hslice, (mem_relationships_assemble fun id hid => has_of_mem_contextIds hid).mpr
    ⟨relationship, hr, rfl, ref, hend, .inr htaken⟩⟩

/-- An object of the id `x`, one of the name `x`, and a relationship from `x` to something unknown. -/
def homonyms : Document := .ofJson <| .object
  [("modules", .list [.object [("id", .text "x")], .object [("id", .text "n"), ("name", .text "x")]]),
    ("dependency_graph", .object [("relationships", .list
      [.object [("from", .text "x"), ("to", .text "z")]])])]

theorem nodes_homonyms : homonyms.nodes =
    [⟨0, none, [.member "modules", .position 0]⟩, ⟨1, none, [.member "modules", .position 1]⟩] := by
  cbv

/-- The context of the second object is this object alone. -/
theorem contextIds_homonyms : (ofDocument homonyms {}).contextIds [.text "n"] ⊆ ["n"] := by
  have hwalk : homonyms.walk (.ref 1) [] [] = [⟨1, none, []⟩] := by cbv
  generalize hs : ofDocument homonyms {} = session
  have hdocument : session.document = homonyms := hs ▸ rfl
  simp only [ofDocument, Index.ofDocument, nodes_homonyms] at hs
  have hseeds : session.seeds [.text "n"] = ["n"] := by
    subst hs
    decide
  have hnode : session.index.node? "n" = some 1 := by
    subst hs
    decide
  have hown : session.ownReferences 1 = [] := by
    subst hs
    decide
  have hreverse : session.reverse ["n"] ⊆ ["n"] := by
    subst hs
    decide
  have hreferences : session.references 1 = [] := by
    rw [references, hdocument, hwalk, List.flatMap_singleton, hown]
  rw [contextIds, hseeds]
  exact close_singleton_subset hnode (fun _ hr => by rw [hreferences] at hr; cases hr) hreverse
    (hs ▸ rfl)

/-- For the context of the second object `x` is taken for a name, though it stands for the first
object. -/
theorem takenForName_homonyms :
    (ofDocument homonyms {}).TakenForName ((ofDocument homonyms {}).contextIds [.text "n"]) "x" ∧
      (ofDocument homonyms {}).candidates "x" = ["x"] ∧
      (ofDocument homonyms {}).candidates "z" = [] := by
  have hcontext := contextIds_homonyms
  have hself : (ofDocument homonyms {}).index.has "n" = true →
      "n" ∈ (ofDocument homonyms {}).contextIds [.text "n"] := mem_contextIds_self
  generalize hs : ofDocument homonyms {} = session at hcontext hself ⊢
  simp only [ofDocument, Index.ofDocument, nodes_homonyms] at hs
  have hn : session.index.has "n" = true := by
    subst hs
    decide
  have hx : session.index.has "x" = true ∧ "n" ∈ session.index.idsNamed "x" := by
    subst hs
    decide
  refine ⟨⟨hx.1, fun hin => absurd (hcontext hin) (by decide), "n", hx.2, hself hn⟩, ?_⟩
  subst hs
  decide

/-- A relationship of a slice need not have an end with a candidate in the context: the one from `x`
is in the slice for the second object. -/
theorem not_forall_touches_context :
    ¬ ∀ (document : Document) (settings : Settings) (symbols : List String) (slice : Slice Value),
      (ofDocument document settings).context (symbols.map Json.text) = .ok slice →
      ∀ entry ∈ slice.relationships, ∃ relationship ∈ document.relationships,
        entry = (relationship.key, .ref relationship.record) ∧ ∃ ref, relationship.HasEnd ref ∧
          (ofDocument document settings).Touches
            ((ofDocument document settings).contextIds (symbols.map Json.text)) ref := by
  intro h
  have hr : homonyms.relationships = [⟨"0", some "x", some "z", "", 3⟩] := by decide
  obtain ⟨htaken, hx, hz⟩ := takenForName_homonyms
  obtain ⟨slice, hslice, hmem⟩ :=
    exists_context_of_takenForName ["n"] (hr ▸ List.mem_cons_self) (.inl rfl) htaken
  obtain ⟨relationship, hrel, hentry, ref, hend, id, hid, hin⟩ := h _ _ _ slice hslice _ hmem
  cases List.mem_singleton.mp (hr ▸ hrel)
  rcases hend with hend | hend
  · cases hend
    cases List.mem_singleton.mp (hx ▸ hid)
    exact htaken.2.1 hin
  · cases hend
    cases hz ▸ hid

end Session

end ContextSlice
