import ContextSlice.Proofs.Document.JsonTwins
import ContextSlice.Proofs.Session.Metadata

/-!
# Contexts of documents that differ in their metadata

What the metadata of a document can and cannot do to the contexts of requests
(`Session.contextIds_of_sameBut`), for all documents whose first object stands apart, as it does in every
document that is read from a text. Where this is not so, or where the settings look at the metadata, it
can make a difference to any request (`Session.not_forall_contextIds_eq`).
-/

namespace ContextSlice

namespace Session

/-- Where two documents differ in their metadata only, and their first objects stand apart, the contexts
of a request are the same if they list their modules. In any case the ids of the index are the same, and
those that the symbols stand for, if the settings spare the metadata; and then what is in one context only
is there through the metadata. All this is so of JSON objects that are different only in the members that
the metadata is taken from. -/
theorem contextIds_of_sameBut :
    (∀ left right : Document, left.SameBut right → left.RootApart →
      ∀ (settings : Settings) (symbols : List Json),
        let first := ofDocument left settings
        let second := ofDocument right settings
        (left.modules?.isSome → first.contextIds symbols = second.contextIds symbols) ∧
        (settings.SparesMetadata → first.index.keys = second.index.keys ∧
          first.seeds symbols = second.seeds symbols ∧
          (∀ id ∈ first.contextIds symbols, id ∈ second.contextIds symbols ∨
            first.ThroughMetadata (first.contextIds symbols) id) ∧
          (∀ id ∈ second.contextIds symbols, id ∈ first.contextIds symbols ∨
            second.ThroughMetadata (second.contextIds symbols) id))) ∧
      ∀ members others : List (String × Json),
        members.filter (·.1 ∉ metadataFields) = others.filter (·.1 ∉ metadataFields) →
          (Document.ofJson (.object members)).SameBut (Document.ofJson (.object others)) ∧
            (Document.ofJson (.object members)).RootApart := by
  refine ⟨?_, fun members others hsame => ⟨Document.sameBut_ofJson hsame,
    Document.rootApart_of_stacked (Document.stacked_ofJson _)⟩⟩
  rintro left right ⟨twin, h⟩ ha settings symbols first second
  refine ⟨fun hm => contextIds_eq_of_modules h ha hm symbols, fun hs => ⟨?_, ?_, ?_, ?_⟩⟩
  · exact (alike_of_sparesMetadata h ha hs).index.keys_eq
  · exact (alike_of_sparesMetadata h ha hs).seeds_eq symbols
  · exact fun id hid => mem_contextIds_or_throughMetadata h ha hs hid
  · exact fun id hid => mem_contextIds_or_throughMetadata h.symm (h.rootApart ha) hs hid

/-- The members of an object `r` that has a part `x` and refers to some id inside the metadata. -/
def wholeMembers (ref : String) : List (String × Json) :=
  [("id", .text "r"), ("name", .text "root"), ("part", .object [("id", .text "x")]),
    ("ast", .object [("calls", .text ref)])]

/-- The document of the object `r`. -/
def whole (ref : String) : Document := .ofJson (.object (wholeMembers ref))

/-- A document that lists its modules and refers to some id inside the metadata. -/
def listing (ref : String) : Document := .ofJson <| .object
  [("modules", .list [.object [("id", .text "x")], .object [("id", .text "y")]]),
    ("ast", .object [("calls", .text ref)])]

/-- What the metadata refers to makes no difference where the modules are listed; where they are not, what
is in one context only is there through the metadata. -/
theorem contextIds_whole_or_through :
    ((listing "x").SameBut (listing "y") ∧ (listing "x").RootApart ∧
      (listing "x").modules?.isSome ∧
      (ofDocument (listing "x") {}).contextIds [.text "y"] =
        (ofDocument (listing "y") {}).contextIds [.text "y"]) ∧
    (whole "x").SameBut (whole "y") ∧ (whole "x").RootApart ∧
      Settings.SparesMetadata {} ∧
      ∀ id ∈ (ofDocument (whole "x") {}).contextIds [.text "root"],
        id ∈ (ofDocument (whole "y") {}).contextIds [.text "root"] ∨
          (ofDocument (whole "x") {}).ThroughMetadata
            ((ofDocument (whole "x") {}).contextIds [.text "root"]) id := by
  obtain ⟨hsessions, hjson⟩ := contextIds_of_sameBut
  have hlisting : (listing "x").SameBut (listing "y") ∧ (listing "x").RootApart := hjson _ _ rfl
  have hwhole : (whole "x").SameBut (whole "y") ∧ (whole "x").RootApart :=
    hjson (wholeMembers "x") (wholeMembers "y") rfl
  have hmodules : (listing "x").modules?.isSome := by decide
  have hspares : Settings.SparesMetadata {} := by decide
  obtain ⟨hsame, -⟩ := hsessions _ _ hlisting.1 hlisting.2 {} [.text "y"]
  obtain ⟨-, hthrough⟩ := hsessions _ _ hwhole.1 hwhole.2 {} [.text "root"]
  exact ⟨⟨hlisting.1, hlisting.2, hmodules, hsame hmodules⟩, hwhole.1, hwhole.2, hspares,
    (hthrough hspares).2.2.1⟩

theorem nodes_whole (ref : String) : (whole ref).nodes =
    [⟨2, none, []⟩, ⟨0, some 2, [.member "part"]⟩] := by
  cbv

theorem walk_whole (ref : String) : (whole ref).walk (.ref 2) [] [] =
    [⟨2, none, []⟩, ⟨0, some 2, [.member "part"]⟩, ⟨1, some 2, [.member "ast"]⟩] := by
  cbv

/-- If the metadata refers to the part, then this is in the context of the first object. -/
theorem mem_contextIds_whole :
    "x" ∈ (ofDocument (whole "x") {}).contextIds [.text "root"] := by
  generalize hs : ofDocument (whole "x") {} = session
  have hdocument : session.document = whole "x" := hs ▸ rfl
  simp only [ofDocument, Index.ofDocument, nodes_whole] at hs
  have hseeds : session.seeds [.text "root"] = ["r"] := by
    subst hs
    decide
  have hnode : session.index.node? "r" = some 2 ∧ session.index.has "x" = true := by
    subst hs
    decide
  have hown : "x" ∈ session.ownReferences 1 := by
    subst hs
    decide
  have hreferences : "x" ∈ session.references 2 := by
    rw [references, hdocument, walk_whole]
    exact List.mem_flatMap.mpr ⟨_, .tail _ (.tail _ (.head _)), hown⟩
  rw [contextIds, hseeds]
  exact mem_close.mpr (.inl (referenceClosed_forward _ "r" (subset_forward _ List.mem_cons_self) 2
    hnode.1 "x" hreferences hnode.2))

/-- If the metadata refers to something unknown, then the part is not in this context. -/
theorem not_mem_contextIds_whole :
    "x" ∉ (ofDocument (whole "y") {}).contextIds [.text "root"] := by
  generalize hs : ofDocument (whole "y") {} = session
  have hdocument : session.document = whole "y" := hs ▸ rfl
  simp only [ofDocument, Index.ofDocument, nodes_whole] at hs
  have hseeds : session.seeds [.text "root"] = ["r"] := by
    subst hs
    decide
  have hnode : session.index.node? "r" = some 2 := by
    subst hs
    decide
  have hown : session.ownReferences 2 = [] ∧ session.ownReferences 0 = [] ∧
      session.ownReferences 1 = ["y"] ∧ session.index.has "y" = false := by
    subst hs
    decide
  have hreverse : session.reverse ["r"] ⊆ ["r"] := by
    subst hs
    decide
  obtain ⟨hr, hpart, hmetadata, hy⟩ := hown
  have hreferences : session.references 2 = ["y"] := by
    rw [references, hdocument, walk_whole]
    simp only [List.flatMap_cons, List.flatMap_nil, hr, hpart, hmetadata, List.nil_append,
      List.append_nil]
  have hunknown : ∀ ref ∈ session.references 2, session.index.has ref = true → ref = "r" := by
    intro ref href hi
    rw [hreferences] at href
    cases List.mem_singleton.mp href
    cases hy.symm.trans hi
  rw [contextIds, hseeds]
  exact fun h => absurd (close_singleton_subset hnode hunknown hreverse (hs ▸ rfl) h) (by decide)

theorem nodes_single (file : String) :
    (Document.ofJson (.object [("id", .text "r"), ("ast", .text file)])).nodes =
      [⟨0, none, []⟩] := by
  cbv

/-- A document whose only module leads back to the first object. -/
def looped (metadata : Value) : Document where
  containers := #[.object [("modules", .ref 1), ("ast", metadata)], .sequence [.ref 2],
    .object [("back", .ref 0)],
    .object [("id", .leaf (.text "inner")), ("name", .leaf (.text "foo"))]]
  root := .ref 0

theorem sameBut_looped (metadata other : Value) : (looped metadata).SameBut (looped other) := by
  refine ⟨fun place place' => place = place' ∧ place < 3, ?_, .ref ⟨rfl, by decide⟩, ?_⟩
  · exact ⟨fun _ _ _ h h' => h.1.trans h'.1.symm, fun _ _ _ h h' => h.1.symm.trans h'.1⟩
  · rintro place _ ⟨rfl, hlt⟩
    match place, hlt with
    | 0, _ => exact .some (.object (.cons ⟨rfl, .ref ⟨rfl, by decide⟩⟩ .nil))
    | 1, _ => exact .some (.sequence (.cons (.ref ⟨rfl, by decide⟩) .nil))
    | 2, _ => exact .some (.object (.cons ⟨rfl, .ref ⟨rfl, by decide⟩⟩ .nil))

theorem nodes_looped : (looped (.ref 3)).nodes =
      [⟨2, none, [.member "modules", .position 0]⟩, ⟨0, some 2, [.member "back"]⟩,
        ⟨3, some 0, [.member "ast"]⟩] ∧
    (looped (.leaf .null)).nodes =
      [⟨2, none, [.member "modules", .position 0]⟩, ⟨0, some 2, [.member "back"]⟩] := by
  constructor <;> cbv

/-- Where the modules lead back to the first object, its metadata is indexed. -/
theorem contextIds_looped_ne : (ofDocument (looped (.ref 3)) {}).contextIds [.text "foo"] ≠
    (ofDocument (looped (.leaf .null)) {}).contextIds [.text "foo"] := by
  have hleft : (ofDocument (looped (.ref 3)) {}).seeds [.text "foo"] = ["inner"] := by
    simp only [ofDocument, Index.ofDocument, nodes_looped.1]
    decide
  have hright : (ofDocument (looped (.leaf .null)) {}).seeds [.text "foo"] = [] := by
    simp only [ofDocument, Index.ofDocument, nodes_looped.2]
    decide
  intro h
  rw [contextIds, contextIds, hleft, hright] at h
  exact not_mem_close_nil (h ▸ subset_close ["inner"] List.mem_cons_self)

/-- A document whose first object is its own registry of relationships. -/
def selfRegistered (metadata : Value) : Document where
  containers := #[.object [("modules", .ref 1), ("dependency_graph", .ref 0),
      ("relationships", .ref 0), ("ast", metadata)], .sequence [.ref 2, .ref 3],
    .object [("id", .leaf (.text "a"))], .object [("id", .leaf (.text "b"))],
    .object [("from", .leaf (.text "a")), ("to", .leaf (.text "b"))]]
  root := .ref 0

theorem sameBut_selfRegistered (metadata other : Value) :
    (selfRegistered metadata).SameBut (selfRegistered other) := by
  refine ⟨fun place place' => place = place' ∧ place < 4, ?_, .ref ⟨rfl, by decide⟩, ?_⟩
  · exact ⟨fun _ _ _ h h' => h.1.trans h'.1.symm, fun _ _ _ h h' => h.1.symm.trans h'.1⟩
  · rintro place _ ⟨rfl, hlt⟩
    have href : ∀ place < 4, Value.Alike (fun place place' => place = place' ∧ place < 4)
        (.ref place) (.ref place) := fun place hlt => .ref ⟨rfl, hlt⟩
    match place, hlt with
    | 0, _ =>
      exact .some (.object (.cons ⟨rfl, href 1 (by decide)⟩ (.cons ⟨rfl, href 0 (by decide)⟩
        (.cons ⟨rfl, href 0 (by decide)⟩ .nil))))
    | 1, _ => exact .some (.sequence (.cons (href 2 (by decide)) (.cons (href 3 (by decide)) .nil)))
    | 2, _ => exact .some (.object (.cons ⟨rfl, .leaf _⟩ .nil))
    | 3, _ => exact .some (.object (.cons ⟨rfl, .leaf _⟩ .nil))

theorem nodes_selfRegistered (metadata : Value) : (selfRegistered metadata).nodes =
    [⟨2, none, [.member "modules", .position 0]⟩, ⟨3, none, [.member "modules", .position 1]⟩] := by
  cbv

/-- Where the first object is its own registry, its metadata is a relationship. -/
theorem contextIds_selfRegistered_ne :
    (ofDocument (selfRegistered (.ref 4)) {}).contextIds [.text "a"] ≠
      (ofDocument (selfRegistered (.leaf .null)) {}).contextIds [.text "a"] := by
  have hleft : "b" ∈ (ofDocument (selfRegistered (.ref 4)) {}).contextIds [.text "a"] := by
    refine mem_close.mpr (.inr (.inl ?_))
    simp only [ofDocument, Index.ofDocument, nodes_selfRegistered]
    decide
  have hwalk : (selfRegistered (.leaf .null)).walk (.ref 2) [] [] = [⟨2, none, []⟩] := by cbv
  have hright : (ofDocument (selfRegistered (.leaf .null)) {}).contextIds [.text "a"] ⊆ ["a"] := by
    generalize hs : ofDocument (selfRegistered (.leaf .null)) {} = session
    have hdocument : session.document = selfRegistered (.leaf .null) := hs ▸ rfl
    simp only [ofDocument, Index.ofDocument, nodes_selfRegistered] at hs
    have hseeds : session.seeds [.text "a"] = ["a"] ∧ session.index.node? "a" = some 2 ∧
        session.ownReferences 2 = [] ∧ session.reverse ["a"] ⊆ ["a"] := by
      subst hs
      decide
    obtain ⟨hseeds, hnode, hown, hreverse⟩ := hseeds
    have hreferences : session.references 2 = [] := by
      rw [references, hdocument, hwalk, List.flatMap_singleton, hown]
    rw [contextIds, hseeds]
    exact close_singleton_subset hnode (fun _ hr => by rw [hreferences] at hr; cases hr) hreverse
      (hs ▸ rfl)
  exact fun h => absurd (hright (h ▸ hleft)) (by decide)

/-- The modules of this document do not lead to the first object. -/
theorem ne_root_of_reachable_selfRegistered (metadata : Value) :
    ∀ modules, (selfRegistered metadata).modules? = some modules →
      ∀ place, (selfRegistered metadata).Reachable modules [] place →
        .ref place ≠ (selfRegistered metadata).root := by
  intro modules hm place hr hroot
  cases hroot
  have hmem : 0 ∈
      ((selfRegistered metadata).walk modules [.member modulesField] []).map Visit.node :=
    Document.mem_walk_iff.mpr ⟨rfl, hr⟩
  rw [← Document.nodes_of_modules hm, nodes_selfRegistered] at hmem
  exact absurd hmem (by decide)

/-- The metadata can make a difference: where the first object is looked through for references, where
the settings take a file from its members, where the modules lead back to the first object, and where this
is its own registry. -/
theorem not_forall_contextIds_eq :
    (¬ ∀ members others : List (String × Json),
        members.filter (·.1 ∉ metadataFields) = others.filter (·.1 ∉ metadataFields) →
        ∀ symbols id, id ∈ (ofDocument (.ofJson (.object members)) {}).contextIds symbols ↔
          id ∈ (ofDocument (.ofJson (.object others)) {}).contextIds symbols) ∧
      (¬ ∀ members others : List (String × Json),
        members.filter (·.1 ∉ metadataFields) = others.filter (·.1 ∉ metadataFields) →
        ∀ settings symbols, (ofDocument (.ofJson (.object members)) settings).seeds symbols =
          (ofDocument (.ofJson (.object others)) settings).seeds symbols) ∧
      (¬ ∀ left right : Document, left.SameBut right → left.modules?.isSome →
        (∀ place, left.registry relationshipsField = .ref place → .ref place ≠ left.root) →
        ∀ symbols, (ofDocument left {}).contextIds symbols =
          (ofDocument right {}).contextIds symbols) ∧
      ¬ ∀ left right : Document, left.SameBut right → left.modules?.isSome →
        (∀ modules, left.modules? = some modules →
          ∀ place, left.Reachable modules [] place → .ref place ≠ left.root) →
        ∀ symbols, (ofDocument left {}).contextIds symbols =
          (ofDocument right {}).contextIds symbols := by
  refine ⟨fun h => ?_, fun h => ?_, fun h => ?_, fun h => ?_⟩
  · have hsame : "x" ∈ (ofDocument (whole "x") {}).contextIds [.text "root"] ↔
        "x" ∈ (ofDocument (whole "y") {}).contextIds [.text "root"] :=
      h (wholeMembers "x") (wholeMembers "y") rfl [.text "root"] "x"
    exact not_mem_contextIds_whole (hsame.mp mem_contextIds_whole)
  · have hsame := h [("id", .text "r"), ("ast", .text "a.py")]
      [("id", .text "r"), ("ast", .text "b.py")] rfl { fileFields := ["ast"] } [.text "a.py"]
    simp only [ofDocument, Index.ofDocument, nodes_single] at hsame
    revert hsame
    decide
  · have hregistry : ∀ place, (looped (.ref 3)).registry relationshipsField = .ref place →
        .ref place ≠ (looped (.ref 3)).root := fun _ hp => Value.noConfusion hp
    exact contextIds_looped_ne (h _ _ (sameBut_looped (.ref 3) (.leaf .null)) (by decide)
      hregistry [.text "foo"])
  · exact contextIds_selfRegistered_ne (h _ _ (sameBut_selfRegistered (.ref 4) (.leaf .null))
      (by decide) (ne_root_of_reachable_selfRegistered _) [.text "a"])

end Session

end ContextSlice
