import ContextSlice.Proofs.Session.Across

/-!
# Relationships between objects by their ids

What an object states in its member `id` and what the record of a relationship says in `from` and `to`
is read as a text that is not empty or as a whole number in both places, and in both nothing is made of
truth values and of values with parts. Only a double is read differently: it is a reference, but an
object whose `id` is a double states no id (`Document.statedId?_eq_reference?_iff`). So a relationship
whose ends are what two objects have for their `id` brings in either object for the other one if neither
end is a double (`Session.mem_close_of_sharesId`), and need not do so if one is
(`Session.not_forall_mem_close_of_sharesId`).
-/

namespace ContextSlice

/-- Whether a value is a double. -/
def Value.isDouble : Value → Bool
  | .leaf (.real _) => true
  | _ => false

namespace Document

section
variable {doc : Document} {record node : Nat} {field : String} {value : Value}

/-- A member of a record has the value that an object has for its `id`. -/
def SharesId (doc : Document) (record : Nat) (field : String) (node : Nat) (value : Value) : Prop :=
  doc.member? record field = some value ∧ doc.member? node "id" = some value

/-- An object states the reference that its `id` makes, and none if it makes none, unless the `id` is a
double, which makes a reference but is not stated. -/
theorem statedId?_eq_reference?_iff (h : doc.member? node "id" = some value) :
    doc.statedId? node = value.reference? ↔ value.isDouble = false := by
  rw [statedId?, h]
  cases value with
  | ref place => exact iff_of_true rfl rfl
  | leaf leaf =>
    cases leaf with
    | null | bool | list | object | text => exact iff_of_true rfl rfl
    | int n => exact iff_of_true (congrArg some String.ofList_toList.symm) rfl
    | real x => exact iff_of_false nofun nofun

/-- The ends of a relationship are the references in its record. -/
theorem ends_of_mem_relationships {relationship : Relationship}
    (h : relationship ∈ doc.relationships) :
    relationship.source = doc.referenceMember? relationship.record "from" ∧
      relationship.target = doc.referenceMember? relationship.record "to" := by
  obtain ⟨entry, -, rfl⟩ := List.mem_map.mp h
  exact ⟨rfl, rfl⟩

/-- If a record makes a reference with the `id` of an object, and this is no double, then the reference
is the id of the object. -/
theorem SharesId.exists_idOf? (settings : Settings) {visit : Visit}
    (h : doc.SharesId record field visit.node value) (hv : visit ∈ doc.nodes) (hd : value.isDouble = false)
    (hr : (doc.referenceMember? record field).isSome) :
    ∃ id, doc.referenceMember? record field = some id ∧
      (Index.ofDocument doc settings).idOf? visit.node = some id ∧
      (Index.ofDocument doc settings).has id = true := by
  obtain ⟨id, hid⟩ := Option.isSome_iff_exists.mp hr
  have href : value.reference? = some id := by
    rwa [referenceMember?, h.1, Option.bind_some] at hid
  have hstated : doc.statedId? visit.node = some id :=
    ((statedId?_eq_reference?_iff h.2).mpr hd).trans href
  have hvisit : (Index.ofDocument doc settings).idOf? visit.node = some id := by
    rw [Index.idOf?_visit hv, hstated, Option.getD_some]
  exact ⟨id, hid, hvisit, Index.has_ofDocument_iff.mpr ⟨visit, hv, hvisit⟩⟩

end

end Document

namespace Session

/-- What an object has for its `id` and what the record of a relationship says is read alike unless it is
a double. If a relationship has both ends, and these are what two objects have for their `id`, and no
doubles, then for all seeds that have the id of one of the objects the closure has that of the other. -/
theorem mem_close_of_sharesId (document : Document) (settings : Settings) :
    let session := ofDocument document settings
    (∀ node value, document.member? node "id" = some value →
        (document.statedId? node = value.reference? ↔ value.isDouble = false)) ∧
      ∀ relationship ∈ document.relationships,
        relationship.source.isSome → relationship.target.isSome →
        ∀ first ∈ document.nodes, ∀ second ∈ document.nodes, ∀ source target,
          document.SharesId relationship.record "from" first.node source →
          document.SharesId relationship.record "to" second.node target →
          source.isDouble = false → target.isDouble = false →
          ∃ id other, session.index.idOf? first.node = some id ∧
            session.index.idOf? second.node = some other ∧
            ∀ seeds, (id ∈ seeds → other ∈ session.close seeds) ∧
              (other ∈ seeds → id ∈ session.close seeds) := by
  intro session
  refine ⟨fun node value => Document.statedId?_eq_reference?_iff, ?_⟩
  intro relationship hr hsource htarget first hfirst second hsecond source target hfrom hto hs ht
  obtain ⟨hsourceOf, htargetOf⟩ := Document.ends_of_mem_relationships hr
  obtain ⟨id, hid, hidOf, hidHas⟩ :=
    hfrom.exists_idOf? settings hfirst hs (hsourceOf ▸ hsource)
  obtain ⟨other, hother, hotherOf, hotherHas⟩ :=
    hto.exists_idOf? settings hsecond ht (htargetOf ▸ htarget)
  have hends : relationship.source = some id ∧ relationship.target = some other :=
    ⟨hsourceOf.trans hid, htargetOf.trans hother⟩
  exact ⟨id, other, hidOf, hotherOf, fun seeds =>
    ⟨mem_close_of_ends hr (.inr hends) hotherHas hidHas,
      mem_close_of_ends hr (.inl hends) hidHas hotherHas⟩⟩

/-- An object with an `id`, one of the id `b`, and a relationship from the former to the latter. -/
def numbered (id : Json) : Document := .ofJson <| .object
  [("modules", .list [.object [("id", id)], .object [("id", .text "b")]]),
    ("dependency_graph", .object [("relationships", .list
      [.object [("from", id), ("to", .text "b")]])])]

theorem nodes_numbered {id : Json} (h : id.hashable = true) : (numbered id).nodes =
    [⟨0, none, [.member "modules", .position 0]⟩, ⟨1, none, [.member "modules", .position 1]⟩] := by
  cases id with
  | list | object => cases h
  | null | bool | int | real | text => cbv

theorem sharesId_numbered {id : Json} (h : id.hashable = true) :
    (numbered id).SharesId 3 "from" 0 (.leaf id) ∧
      (numbered id).SharesId 3 "to" 1 (.leaf (.text "b")) := by
  cases id with
  | list | object => cases h
  | null | bool | int | real | text => exact ⟨⟨by cbv, by cbv⟩, by cbv, by cbv⟩

/-- The whole number that is the `id` may be of any size. -/
theorem mem_close_numbered :
    let document := numbered (.int (10 ^ 20))
    document.SharesId 3 "from" 0 (.leaf (.int (10 ^ 20))) ∧
      document.SharesId 3 "to" 1 (.leaf (.text "b")) ∧
      "b" ∈ (ofDocument document {}).close ["100000000000000000000"] := by
  intro document
  obtain ⟨hfrom, hto⟩ : document.SharesId 3 "from" 0 _ ∧ document.SharesId 3 "to" 1 _ :=
    sharesId_numbered rfl
  have hn : document.nodes = _ := nodes_numbered rfl
  have hr : ⟨"0", some "100000000000000000000", some "b", "", 3⟩ ∈ document.relationships := by
    decide
  have hids : (ofDocument document {}).index.idOf? 0 = some "100000000000000000000" ∧
      (ofDocument document {}).index.idOf? 1 = some "b" := by
    rw [ofDocument, Index.ofDocument, hn]
    decide
  obtain ⟨id, other, hid, hother, hclose⟩ := (mem_close_of_sharesId document {}).2 _ hr rfl rfl
    ⟨0, none, _⟩ (hn ▸ List.mem_cons_self) ⟨1, none, _⟩
    (hn ▸ List.mem_cons_of_mem _ List.mem_cons_self) _ _ hfrom hto rfl rfl
  cases hids.1.symm.trans hid
  cases hids.2.symm.trans hother
  exact ⟨hfrom, hto, (hclose _).1 List.mem_cons_self⟩

/-- The document in which the `id` is one and a half. -/
def halved : Document := numbered (.real ⟨0x3FF8000000000000⟩)

/-- The two objects have different ids, and the closure of the first one's does not have the second
one's. -/
theorem not_mem_close_halved :
    (ofDocument halved {}).index.idOf? 0 = some "$.modules[0]" ∧
      (ofDocument halved {}).index.idOf? 1 = some "b" ∧
      "b" ∉ (ofDocument halved {}).close ["$.modules[0]"] := by
  have hwalk : halved.walk (.ref 0) [] [] = [⟨0, none, []⟩] := by cbv
  have hn : halved.nodes = _ := nodes_numbered rfl
  generalize hs : ofDocument halved {} = session
  have hdocument : session.document = halved := hs ▸ rfl
  rw [ofDocument, Index.ofDocument, hn] at hs
  have hids : session.index.idOf? 0 = some "$.modules[0]" ∧ session.index.idOf? 1 = some "b" := by
    subst hs
    decide
  have hnode : session.index.node? "$.modules[0]" = some 0 := by
    subst hs
    decide
  have hreverse : session.reverse ["$.modules[0]"] ⊆ ["$.modules[0]"] := by
    subst hs
    decide
  have hown : session.ownReferences 0 = [] := by
    subst hs
    decide
  have hreferences : session.references 0 = [] := by
    rw [references, hdocument, hwalk, List.flatMap_singleton, hown]
  refine ⟨hids.1, hids.2, fun hin => ?_⟩
  have hout := close_singleton_subset hnode (fun _ href => by rw [hreferences] at href; cases href)
    hreverse (hs ▸ rfl) hin
  exact absurd hout (by decide)

/-- That two objects have what a relationship says at its ends for their `id` does not mean that each
brings in the other, though all objects have different ids: the `id` of the first one is a double. -/
theorem not_forall_mem_close_of_sharesId :
    ¬ ∀ (document : Document) (settings : Settings),
      let session := ofDocument document settings
      (∀ visit ∈ document.nodes, ∀ other ∈ document.nodes, session.index.idOf? visit.node =
        session.index.idOf? other.node → visit.node = other.node) →
      ∀ relationship ∈ document.relationships,
        relationship.source.isSome → relationship.target.isSome →
        ∀ first ∈ document.nodes, ∀ second ∈ document.nodes, ∀ source target,
          document.SharesId relationship.record "from" first.node source →
          document.SharesId relationship.record "to" second.node target →
          ∀ id other, session.index.idOf? first.node = some id →
            session.index.idOf? second.node = some other →
            ∀ seeds, id ∈ seeds → other ∈ session.close seeds := by
  intro h
  obtain ⟨hfirst, hsecond, hout⟩ := not_mem_close_halved
  obtain ⟨hfrom, hto⟩ : halved.SharesId 3 "from" 0 _ ∧ halved.SharesId 3 "to" 1 _ :=
    sharesId_numbered rfl
  have hr : ⟨"0", some "1.5", some "b", "", 3⟩ ∈ halved.relationships := by decide
  have hn : halved.nodes = _ := nodes_numbered rfl
  refine hout (h halved {} ?_ _ hr rfl rfl ⟨0, none, _⟩ (hn ▸ List.mem_cons_self) ⟨1, none, _⟩
    (hn ▸ List.mem_cons_of_mem _ List.mem_cons_self) _ _ hfrom hto _ _ hfirst hsecond _
    List.mem_cons_self)
  rw [hn]
  simp [hfirst, hsecond]

end Session

end ContextSlice
