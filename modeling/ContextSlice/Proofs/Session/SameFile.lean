import ContextSlice.Document.OfJson
import ContextSlice.Proofs.Session.Indexed
import ContextSlice.Proofs.Session.Union

/-!
# Preferring a file

If the policy is to prefer a file, then for an end of a relationship the first candidate is picked that
lies in a file of the seeds at the other end, or else the first one. More seeds there may lie in more
files, and another candidate may then come first (`Session.mem_pick_or`): it supplants the one that was
picked before (`Session.Supplanted`). Nothing else is lost when seeds are added
(`Session.mem_close_or_supplanted`), and this happens only where both ends of a relationship are
ambiguous (`Session.Supplanted.exists_ambiguous`).
-/

namespace ContextSlice

/-- A test that less passes still finds what was found, if this passes it. -/
theorem find?_eq_some_of_imp {α : Type} {p q : α → Bool} {xs : List α} {x : α}
    (hqp : ∀ y, q y = true → p y = true) (h : xs.find? p = some x) (hq : q x = true) :
    xs.find? q = some x := by
  obtain ⟨-, before, after, rfl, hbefore⟩ := List.find?_eq_some_iff_append.mp h
  refine List.find?_eq_some_iff_append.mpr ⟨hq, before, after, rfl, fun y hy => ?_⟩
  have hp : p y = false := by simpa using hbefore y hy
  cases hy' : q y with
  | false => rfl
  | true => rw [hqp y hy'] at hp; cases hp

/-- Two references are the ends of a relationship, in either order. -/
def Relationship.Ends (relationship : Relationship) (ref anchor : String) : Prop :=
  relationship.source = some ref ∧ relationship.target = some anchor ∨
    relationship.source = some anchor ∧ relationship.target = some ref

namespace Session

/-- An id lies in a file of some ids. -/
def InFileOf (session : Session) (anchors : List String) (id : String) : Prop :=
  ∃ anchor ∈ anchors, ∃ file, session.index.fileOf? anchor = some file ∧
    session.index.fileOf? id = some file

/-- Whether an id lies in a file of some ids, as the policy asks it. -/
def inFileOf (session : Session) (anchors : List String) (id : String) : Bool :=
  (session.index.fileOf? id).any (anchors.filterMap session.index.fileOf?).contains

/-- An id that a relationship adds to some seeds is supplanted by more seeds if for these another
candidate is picked, which lies in a file of theirs and in none of those that there were. -/
def Supplanted (session : Session) (seeds more : List String) (id : String) : Prop :=
  ∃ relationship ∈ session.relationships, ∃ ref anchor, relationship.Ends ref anchor ∧
    id ∈ session.across seeds ref anchor ∧ ∃ other ∈ session.across more ref anchor, other ≠ id ∧
      session.InFileOf ((session.candidates anchor).filter more.contains) other ∧
      ¬ session.InFileOf ((session.candidates anchor).filter seeds.contains) other

/-- An end of a relationship is ambiguous if there are two candidates for it. -/
def Ambiguous (session : Session) (ref : String) : Prop :=
  ∃ first ∈ session.candidates ref, ∃ second ∈ session.candidates ref, first ≠ second

section
variable {session : Session} {id ref anchor : String} {anchors more seeds : List String}

/-- What is in a file of some anchors is in a file of more of them. -/
theorem InFileOf.mono (hs : anchors ⊆ more) (h : session.InFileOf anchors id) :
    session.InFileOf more id := by
  obtain ⟨anchor, ha, hfile⟩ := h
  exact ⟨anchor, hs ha, hfile⟩

/-- The check decides whether an id is in a file of the anchors. -/
theorem inFileOf_iff : session.inFileOf anchors id = true ↔ session.InFileOf anchors id := by
  rw [inFileOf, Option.any_eq_true]
  simp only [List.contains_eq_mem, decide_eq_true_eq, List.mem_filterMap]
  constructor
  · rintro ⟨file, hid, anchor, ha, hanchor⟩
    exact ⟨anchor, ha, file, hanchor, hid⟩
  · rintro ⟨anchor, ha, file, hanchor, hid⟩
    exact ⟨file, hid, anchor, ha, hanchor⟩

/-- The first candidate in a file of the seeds at the other end is picked, or else the first one. -/
theorem pick_sameFile (hp : session.settings.ambiguityPolicy = .sameFile) (ref : String)
    (anchors : List String) : session.pick ref anchors =
      match (session.candidates ref).find? (session.inFileOf anchors) with
      | some id => [id]
      | none => (session.candidates ref).take 1 := by
  unfold pick
  rw [hp]
  rfl

/-- More seeds at the other end change what is picked only for a candidate in a file of theirs that is
no file of those that there were. -/
theorem mem_pick_or (hp : session.settings.ambiguityPolicy = .sameFile) (hs : anchors ⊆ more)
    (h : id ∈ session.pick ref anchors) :
    id ∈ session.pick ref more ∨ ∃ other ∈ session.pick ref more, other ≠ id ∧
      session.InFileOf more other ∧ ¬ session.InFileOf anchors other := by
  have hnear (id : String) (hn : session.inFileOf anchors id = true) :
      session.inFileOf more id = true := inFileOf_iff.mpr ((inFileOf_iff.mp hn).mono hs)
  rw [pick_sameFile hp] at h ⊢
  cases hmore : (session.candidates ref).find? (session.inFileOf more) with
  | none =>
    have hnone : (session.candidates ref).find? (session.inFileOf anchors) = none := by
      rw [List.find?_eq_none] at hmore ⊢
      exact fun other ho hn => hmore other ho (hnear other hn)
    rw [hnone] at h
    exact .inl h
  | some other =>
    by_cases hid : other = id
    · exact .inl (hid ▸ List.mem_cons_self)
    · -- In a file of the old seeds it would have been picked for them already.
      refine .inr ⟨other, List.mem_cons_self, hid, inFileOf_iff.mp (List.find?_some hmore),
        fun hn => hid ?_⟩
      rw [find?_eq_some_of_imp hnear hmore (inFileOf_iff.mpr hn)] at h
      exact (List.mem_singleton.mp h).symm

/-- What a relationship adds to some seeds it adds to more of them, or it is supplanted. -/
theorem mem_across_or (hp : session.settings.ambiguityPolicy = .sameFile) (hs : seeds ⊆ more)
    (h : id ∈ session.across seeds ref anchor) :
    id ∈ session.across more ref anchor ∨ ∃ other ∈ session.across more ref anchor, other ≠ id ∧
      session.InFileOf ((session.candidates anchor).filter more.contains) other ∧
      ¬ session.InFileOf ((session.candidates anchor).filter seeds.contains) other := by
  obtain ⟨htouches, hpick⟩ := mem_across.mp h
  have hfilter : (session.candidates anchor).filter seeds.contains ⊆
      (session.candidates anchor).filter more.contains := by
    intro seed hm
    obtain ⟨hc, hseed⟩ := List.mem_filter.mp hm
    exact List.mem_filter.mpr ⟨hc, by simpa using hs (by simpa using hseed)⟩
  rcases mem_pick_or hp hfilter hpick with hid | ⟨other, ho, hne, hnear, hnot⟩
  · exact .inl (mem_across.mpr ⟨htouches.mono hs, hid⟩)
  · exact .inr ⟨other, mem_across.mpr ⟨htouches.mono hs, ho⟩, hne, hnear, hnot⟩

/-- What relationships add to some seeds is what they add across from one end to the other. -/
theorem mem_reverse_iff_across :
    id ∈ session.reverse seeds ↔ ∃ relationship ∈ session.relationships, ∃ ref anchor,
      relationship.Ends ref anchor ∧ id ∈ session.across seeds ref anchor := by
  rw [mem_reverse]
  refine exists_congr fun relationship => and_congr_right fun _ => ?_
  rw [mem_related]
  constructor
  · rintro ⟨source, target, hs, ht, h | h⟩
    · exact ⟨source, target, .inl ⟨hs, ht⟩, h⟩
    · exact ⟨target, source, .inr ⟨hs, ht⟩, h⟩
  · rintro ⟨ref, anchor, ⟨hs, ht⟩ | ⟨hs, ht⟩, h⟩
    · exact ⟨ref, anchor, hs, ht, .inl h⟩
    · exact ⟨anchor, ref, hs, ht, .inr h⟩

/-- What is in the closure of some seeds is in that of more seeds, or it is supplanted. -/
theorem mem_close_or_supplanted (hp : session.settings.ambiguityPolicy = .sameFile)
    (hs : seeds ⊆ more) (h : id ∈ session.close seeds) :
    id ∈ session.close more ∨ session.Supplanted seeds more id := by
  rcases mem_close.mp h with h | h | ⟨hscan, h⟩
  · exact .inl (mem_close.mpr (.inl (forward_mono hs h)))
  · obtain ⟨relationship, hr, ref, anchor, hends, hid⟩ := mem_reverse_iff_across.mp h
    rcases mem_across_or hp hs hid with hmore | hother
    · have hreverse : id ∈ session.reverse more :=
        mem_reverse_iff_across.mpr ⟨relationship, hr, ref, anchor, hends, hmore⟩
      exact .inl (mem_close.mpr (.inr (.inl hreverse)))
    · exact .inr ⟨relationship, hr, ref, anchor, hends, hid, hother⟩
  · rcases mem_backReferences_or_mem hs h with h | h
    · exact .inl (mem_close.mpr (.inr (.inr ⟨hscan, h⟩)))
    · exact .inl (subset_close more h)

/-- An id is supplanted only by a relationship both ends of which have two candidates. -/
theorem Supplanted.exists_ambiguous (h : session.Supplanted seeds more id) :
    ∃ relationship ∈ session.relationships, ∃ ref anchor, relationship.Ends ref anchor ∧
      session.Ambiguous ref ∧ session.Ambiguous anchor := by
  obtain ⟨relationship, hr, ref, anchor, hends, hid, other, ho, hne, hnear, hnot⟩ := h
  obtain ⟨⟨seed, hseed, hs⟩, hpick⟩ := mem_across.mp hid
  obtain ⟨new, hnew, file, hfile, hother⟩ := hnear
  have hmem : seed ∈ (session.candidates anchor).filter seeds.contains :=
    List.mem_filter.mpr ⟨hseed, by simpa using hs⟩
  have hdiffer : seed ≠ new := by
    rintro rfl
    exact hnot ⟨seed, hmem, file, hfile, hother⟩
  exact ⟨relationship, hr, ref, anchor, hends,
    ⟨other, pick_subset _ _ (mem_across.mp ho).2, id, pick_subset _ _ hpick, hne⟩,
    seed, hseed, new, (List.mem_filter.mp hnew).1, hdiffer⟩

end

/-- If the policy is to prefer a file, then with more seeds a closure loses only what is supplanted, and
so does the context of a request with more symbols. If no relationship has two ambiguous ends, then it
loses nothing. -/
theorem close_subset_unless_supplanted (session : Session)
    (hp : session.settings.ambiguityPolicy = .sameFile) :
    (∀ seeds more, seeds ⊆ more → ∀ id ∈ session.close seeds,
        id ∈ session.close more ∨ session.Supplanted seeds more id) ∧
      (∀ symbols more, ∀ id ∈ session.contextIds symbols, id ∈ session.contextIds (symbols ++ more) ∨
        session.Supplanted (session.seeds symbols) (session.seeds (symbols ++ more)) id) ∧
      ((¬ ∃ relationship ∈ session.relationships, ∃ ref anchor, relationship.Ends ref anchor ∧
          session.Ambiguous ref ∧ session.Ambiguous anchor) →
        ∀ seeds more, seeds ⊆ more → session.close seeds ⊆ session.close more) := by
  refine ⟨fun seeds more hs id => mem_close_or_supplanted hp hs,
    fun symbols more id => mem_close_or_supplanted hp fun seed hseed => ?_,
    fun hends seeds more hs id hid => ?_⟩
  · obtain ⟨symbol, hm, hresolve⟩ := mem_seeds.mp hseed
    exact mem_seeds.mpr ⟨symbol, List.mem_append_left more hm, hresolve⟩
  · exact (mem_close_or_supplanted hp hs hid).resolve_right fun h => hends h.exists_ambiguous

/-- In each of two files an object of the name `a` and one of the name `b`, and a relationship between
these names. -/
def namesakes : Document := .ofJson <| .object
  [("modules", .list
    [.object [("id", .text "a1"), ("name", .text "a"), ("file", .text "f1")],
      .object [("id", .text "a2"), ("name", .text "a"), ("file", .text "f2")],
      .object [("id", .text "b1"), ("name", .text "b"), ("file", .text "f1")],
      .object [("id", .text "b2"), ("name", .text "b"), ("file", .text "f2")]]),
    ("dependency_graph", .object [("relationships", .list
      [.object [("from", .text "a"), ("to", .text "b")]])])]

theorem nodes_namesakes : namesakes.nodes =
    [⟨0, none, [.member "modules", .position 0]⟩, ⟨1, none, [.member "modules", .position 1]⟩,
      ⟨2, none, [.member "modules", .position 2]⟩, ⟨3, none, [.member "modules", .position 3]⟩] := by
  cbv

/-- The second object of the name `a` is in the closure of the one of the name `b` in its file. -/
theorem mem_close_namesakes :
    "a2" ∈ (ofDocument namesakes { ambiguityPolicy := .sameFile }).close ["b2"] := by
  refine mem_close.mpr (.inr (.inl ?_))
  simp only [ofDocument, Index.ofDocument, nodes_namesakes]
  decide

/-- It is not in the closure of both objects of the name `b`, for of the objects in their files the
first one is picked. -/
theorem not_mem_close_namesakes :
    "a2" ∉ (ofDocument namesakes { ambiguityPolicy := .sameFile }).close ["b1", "b2"] := by
  have hwalk : ∀ node ∈ [2, 3], namesakes.walk (.ref node) [] [] = [⟨node, none, []⟩] := by
    intro node hn
    rcases List.mem_pair.mp hn with rfl | rfl <;> cbv
  generalize hs : ofDocument namesakes { ambiguityPolicy := .sameFile } = session
  have hdocument : session.document = namesakes := hs ▸ rfl
  simp only [ofDocument, Index.ofDocument, nodes_namesakes] at hs
  have hnodes : ∀ id ∈ ["b1", "b2"], ∃ node ∈ [2, 3], session.index.node? id = some node := by
    subst hs
    decide
  have hown : ∀ node ∈ [2, 3], session.ownReferences node = [] := by
    subst hs
    decide
  have hclosed : session.ReferenceClosed {id | id ∈ ["b1", "b2"]} := by
    intro id hid node hn ref hr
    obtain ⟨found, hf, hfound⟩ := hnodes id hid
    rw [hfound, Option.some_inj] at hn
    subst hn
    rw [references, hdocument, hwalk found hf, List.flatMap_singleton, hown found hf] at hr
    cases hr
  rw [mem_close]
  rintro (h | h | ⟨h, -⟩)
  · have hseed : "a2" ∈ ["b1", "b2"] := forward_subset hclosed (fun _ h => h) "a2" h
    exact absurd hseed (by decide)
  · subst hs
    revert h
    decide
  · subst hs
    cases h

/-- The first object of the name `a` supplants the second one. -/
theorem supplanted_namesakes :
    (ofDocument namesakes { ambiguityPolicy := .sameFile }).settings.ambiguityPolicy = .sameFile ∧
      (ofDocument namesakes { ambiguityPolicy := .sameFile }).Supplanted ["b2"] ["b1", "b2"] "a2" :=
  ⟨rfl, ((close_subset_unless_supplanted _ rfl).1 ["b2"] ["b1", "b2"] (by decide) "a2"
    mem_close_namesakes).resolve_left not_mem_close_namesakes⟩

/-- So a closure may lose something with more seeds. -/
theorem not_forall_close_subset :
    ¬ ∀ (document : Document) (settings : Settings), settings.ambiguityPolicy = .sameFile →
      ∀ seeds more, seeds ⊆ more → (ofDocument document settings).close seeds ⊆
        (ofDocument document settings).close more := by
  intro h
  exact not_mem_close_namesakes
    (h namesakes { ambiguityPolicy := .sameFile } rfl ["b2"] ["b1", "b2"] (by decide)
      mem_close_namesakes)

end Session

end ContextSlice
