import ContextSlice.Proofs.Session.Across
import ContextSlice.Proofs.Text.LowerCase

/-!
# The first object of a name

If the policy is to take the first candidate, then an end of a relationship that is no id stands for
the first object that goes by it (`Session.reverse_first_named`). An object goes by its name as it
stands and by its name in lower case (`Document.GoesBy`), and a name collects both kinds of objects in
the order of the document (`Index.head?_idsNamed`). So an object that goes by the text in lower case
only is taken where it comes before all objects of exactly this name (`Session.not_forall_exact_name`).
-/

namespace ContextSlice

/-- A member before which no other one passes a test comes no later than one that does. -/
theorem mem_of_append_cons_eq {α : Type} {p : α → Prop} {before after previous following : List α}
    {x y : α} (h : before ++ x :: after = previous ++ y :: following) (hy : p y)
    (hb : ∀ z ∈ before, ¬ p z) : x ∈ previous ++ [y] := by
  rcases List.append_eq_append_iff.mp h with ⟨mid, rfl, hrest⟩ | ⟨mid, rfl, hrest⟩
  · cases mid with
    | nil => simp [(List.cons.inj hrest).1]
    | cons z mid => simp [(List.cons.inj hrest).1]
  · cases mid with
    | nil => simp [(List.cons.inj hrest).1]
    | cons z mid =>
      have hz : y = z := (List.cons.inj hrest).1
      exact absurd (hz ▸ hy) (hb z (by simp))

namespace Document

/-- An object goes by a text if this is its name, as it stands or in lower case. -/
def GoesBy (doc : Document) (ref : String) (visit : Visit) : Prop :=
  ∃ name, doc.textMember? visit.node ["name"] = some name ∧ (ref = name ∨ ref = Text.lower name)

section
variable {doc : Document} {ref : String}

/-- If some object goes by a text, then one is the first that does. -/
theorem exists_first_goesBy {visit : Visit} (hv : visit ∈ doc.nodes) (h : doc.GoesBy ref visit) :
    ∃ before first after, doc.nodes = before ++ first :: after ∧ doc.GoesBy ref first ∧
      ∀ earlier ∈ before, ¬ doc.GoesBy ref earlier := by
  classical
  obtain ⟨first, hfirst⟩ := Option.isSome_iff_exists.mp
    (List.find?_isSome (p := fun visit => decide (doc.GoesBy ref visit)).mpr
      ⟨visit, hv, decide_eq_true h⟩)
  obtain ⟨hgoes, before, after, hn, hbefore⟩ := List.find?_eq_some_iff_append.mp hfirst
  exact ⟨before, first, after, hn, of_decide_eq_true hgoes,
    fun earlier he => by simpa using hbefore earlier he⟩

/-- A text that is not in lower case is the name of all objects that go by it. -/
theorem GoesBy.textMember?_eq {visit : Visit} (h : doc.GoesBy ref visit)
    (href : Text.lower ref ≠ ref) : doc.textMember? visit.node ["name"] = some ref := by
  obtain ⟨name, hname, rfl | rfl⟩ := h
  · exact hname
  · exact absurd (Text.lower_lower name) href

end

end Document

/-- The ids that a name finds begin with that of the first object that goes by it. -/
theorem Index.head?_idsNamed {doc : Document} {settings : Settings} {ref : String}
    {before after : List Visit} {visit : Visit} (hn : doc.nodes = before ++ visit :: after)
    (hv : doc.GoesBy ref visit) (hb : ∀ earlier ∈ before, ¬ doc.GoesBy ref earlier) :
    ((ofDocument doc settings).idsNamed ref).head? = (ofDocument doc settings).idOf? visit.node := by
  have hid : (ofDocument doc settings).idOf? visit.node = some _ :=
    idOf?_visit (hn ▸ List.mem_append_right before List.mem_cons_self)
  have hbefore : before.filter (fun earlier =>
      ref ∈ (registration doc settings (ofDocument doc settings) earlier).names) = [] := by
    rw [List.filter_eq_nil_iff]
    exact fun earlier he hmem => hb earlier he (mem_names_registration.mp (of_decide_eq_true hmem))
  have hvisit : ref ∈ (registration doc settings (ofDocument doc settings) visit).names :=
    mem_names_registration.mpr hv
  rw [idsNamed, idsOf, head?_distinct, collected_names_ofDocument, entries_eq_map, List.filter_map,
    List.map_map, List.filterMap_map, hn, List.filter_append]
  simp only [Function.comp_def, hbefore, List.nil_append, List.filter_cons, hvisit, decide_true,
    if_true, List.filterMap_cons]
  simp only [registration, hid, List.head?_cons]

namespace Session

section
variable {session : Session} {seeds : List String} {ref anchor id : String}

/-- If the policy is to take the first candidate, then it is all that is picked. -/
theorem pick_first (hp : session.settings.ambiguityPolicy = .first) (ref : String)
    (anchors : List String) : session.pick ref anchors = (session.candidates ref).head?.toList := by
  rw [pick, hp, ← List.take_one]

/-- A relationship adds at one end what the policy picks there for the seeds that the other end
stands for. -/
theorem across_of_touches (h : session.Touches seeds anchor) (ref : String) :
    session.across seeds ref anchor =
      session.pick ref ((session.candidates anchor).filter seeds.contains) := by
  rw [touches_iff] at h
  unfold across
  split
  · rename_i hnil
    exact absurd hnil h
  · rfl

end

/-- If the policy is to take the first candidate, then at an end that is no id but the name of an
object a relationship adds the id of one object: the first one in the document whose name is this
text, as it stands or in lower case. This is an object of exactly this name if the text is not in lower
case itself, and also if no object of another name that is the text in lower case comes before the
first object of exactly this name. -/
theorem reverse_first_named (document : Document) (settings : Settings)
    (hp : settings.ambiguityPolicy = .first) (seeds : List String) (ref : String)
    (href : (ofDocument document settings).index.has ref ≠ true)
    (hname : ∃ visit ∈ document.nodes, document.textMember? visit.node ["name"] = some ref) :
    let session := ofDocument document settings
    ∃ before visit after name id, document.nodes = before ++ visit :: after ∧
      document.textMember? visit.node ["name"] = some name ∧ (ref = name ∨ ref = Text.lower name) ∧
      (∀ earlier ∈ before, ¬ document.GoesBy ref earlier) ∧
      session.index.idOf? visit.node = some id ∧
      (∀ relationship ∈ document.relationships, ∀ anchor, relationship.Ends ref anchor →
        session.Touches seeds anchor →
          session.across seeds ref anchor = [id] ∧ id ∈ session.reverse seeds) ∧
      (Text.lower ref ≠ ref → name = ref) ∧
      ((∃ previous exact following, document.nodes = previous ++ exact :: following ∧
          document.textMember? exact.node ["name"] = some ref ∧
          ∀ earlier ∈ previous, document.GoesBy ref earlier →
            document.textMember? earlier.node ["name"] = some ref) → name = ref) := by
  intro session
  obtain ⟨exact, hexact, hexactName⟩ := hname
  obtain ⟨before, visit, after, hn, hgoes, hbefore⟩ :=
    Document.exists_first_goesBy hexact ⟨ref, hexactName, .inl rfl⟩
  have hvisit : visit ∈ document.nodes := hn ▸ List.mem_append_right before List.mem_cons_self
  obtain ⟨id, hid⟩ : ∃ id, session.index.idOf? visit.node = some id := ⟨_, Index.idOf?_visit hvisit⟩
  have hhead : (session.candidates ref).head? = some id := by
    rw [candidates_of_not_has href, ← hid]
    exact Index.head?_idsNamed hn hgoes hbefore
  have hacross : ∀ {anchor}, session.Touches seeds anchor →
      session.across seeds ref anchor = [id] := by
    intro anchor ht
    rw [across_of_touches ht, pick_first hp, hhead, Option.toList_some]
  have ⟨name, hvisitName, hsame⟩ := hgoes
  have heq : document.textMember? visit.node ["name"] = some ref → name = ref := fun h =>
    Option.some_inj.mp (hvisitName.symm.trans h)
  refine ⟨before, visit, after, name, id, hn, hvisitName, hsame, hbefore, hid, ?_,
    fun hlower => heq (hgoes.textMember?_eq hlower), ?_⟩
  · intro relationship hr anchor hends ht
    refine ⟨hacross ht, mem_reverse_iff_across.mpr ⟨relationship, hr, ref, anchor, hends, ?_⟩⟩
    rw [hacross ht]
    exact List.mem_singleton_self id
  · rintro ⟨previous, other, following, hother, hotherName, hprevious⟩
    -- The first object that goes by the text comes no later than the first of exactly this name.
    have hmem : visit ∈ previous ++ [other] :=
      mem_of_append_cons_eq (hn.symm.trans hother) ⟨ref, hotherName, .inl rfl⟩ hbefore
    rcases List.mem_append.mp hmem with hmem | hmem
    · exact heq (hprevious visit hmem hgoes)
    · exact heq (List.mem_singleton.mp hmem ▸ hotherName)

/-- A type and a variable whose names are the same in lower case, and a relationship from the variable's
name. -/
def orders : Document := .ofJson <| .object
  [("modules", .list
    [.object [("id", .text "type"), ("name", .text "Order")],
      .object [("id", .text "variable"), ("name", .text "order")],
      .object [("id", .text "x")]]),
    ("dependency_graph", .object [("relationships", .list
      [.object [("from", .text "order"), ("to", .text "x")]])])]

theorem nodes_orders : orders.nodes =
    [⟨0, none, [.member "modules", .position 0]⟩, ⟨1, none, [.member "modules", .position 1]⟩,
      ⟨2, none, [.member "modules", .position 2]⟩] := by
  cbv

theorem relationships_orders :
    orders.relationships = [⟨"0", some "order", some "x", "", 4⟩] := by
  decide

/-- The name of the variable is no id, and the other end of the relationship is one. -/
theorem has_orders : (ofDocument orders {}).index.has "order" ≠ true ∧
    (ofDocument orders {}).index.has "x" = true ∧
    ∃ visit ∈ orders.nodes, orders.textMember? visit.node ["name"] = some "order" := by
  simp only [ofDocument, Index.ofDocument, nodes_orders]
  decide

/-- At the name of the variable the relationship adds the id of the type. -/
theorem across_orders : (ofDocument orders {}).across ["x"] "order" "x" = ["type"] := by
  simp only [ofDocument, Index.ofDocument, nodes_orders]
  decide

/-- The type is the first object whose name is the variable's name, in lower case. -/
theorem reverse_first_named_orders :
    Settings.ambiguityPolicy {} = .first ∧
      (ofDocument orders {}).index.has "order" ≠ true ∧
      (∃ visit ∈ orders.nodes, orders.textMember? visit.node ["name"] = some "order") ∧
      "type" ∈ (ofDocument orders {}).reverse ["x"] := by
  obtain ⟨horder, hx, hname⟩ := has_orders
  refine ⟨rfl, horder, hname, ?_⟩
  obtain ⟨-, -, -, -, id, -, -, -, -, -, hadds, -⟩ :=
    reverse_first_named orders {} rfl ["x"] "order" horder hname
  obtain ⟨hacross, hmem⟩ := hadds _ (relationships_orders ▸ List.mem_cons_self) "x" (.inl ⟨rfl, rfl⟩)
    (touches_of_has hx List.mem_cons_self)
  have hid : ["type"] = [id] := across_orders.symm.trans hacross
  cases hid
  exact hmem

/-- So what a relationship adds at the name of an object need not be an object of exactly this name. -/
theorem not_forall_exact_name :
    ¬ ∀ (document : Document) (settings : Settings), settings.ambiguityPolicy = .first →
      ∀ (seeds : List String) (ref : String), (ofDocument document settings).index.has ref ≠ true →
        (∃ visit ∈ document.nodes, document.textMember? visit.node ["name"] = some ref) →
        ∀ relationship ∈ document.relationships, ∀ anchor, relationship.Ends ref anchor →
          (ofDocument document settings).Touches seeds anchor →
          ∀ id ∈ (ofDocument document settings).across seeds ref anchor, ∃ visit ∈ document.nodes,
            (ofDocument document settings).index.idOf? visit.node = some id ∧
              document.textMember? visit.node ["name"] = some ref := by
  intro h
  obtain ⟨horder, hx, hname⟩ := has_orders
  have hexact : ¬ ∃ visit ∈ orders.nodes,
      (ofDocument orders {}).index.idOf? visit.node = some "type" ∧
        orders.textMember? visit.node ["name"] = some "order" := by
    simp only [ofDocument, Index.ofDocument, nodes_orders]
    decide
  exact hexact (h orders {} rfl ["x"] "order" horder hname _
    (relationships_orders ▸ List.mem_cons_self) "x" (.inl ⟨rfl, rfl⟩)
    (touches_of_has hx List.mem_cons_self) "type" (across_orders ▸ List.mem_cons_self))

end Session

end ContextSlice
