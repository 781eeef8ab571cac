import ContextSlice.Proofs.Session.SameFile

/-!
# The other ends of relationships

Which candidates a policy chooses for an end of a relationship is said by rules here
(`Session.Chosen`), and the policy picks those that the rules choose (`Session.mem_pick_iff`). So the
reverse part of a closure has what is chosen for the ends of those relationships that have both ends
and touch a seed at the other one (`Session.mem_reverse_iff_chosen`), and nothing else.
-/

namespace ContextSlice

namespace Session

/-- What is chosen for an end of a relationship whose other end stands for the seeds `near`: all
candidates, the first one, or the first one in a file of these seeds, and if there is none in their
files then the first one. -/
inductive Chosen (session : Session) (ref : String) (near : List String) : String → Prop
  | all {id : String} : session.settings.ambiguityPolicy = .all →
      id ∈ session.candidates ref → Chosen session ref near id
  | first {id : String} {rest : List String} : session.settings.ambiguityPolicy = .first →
      session.candidates ref = id :: rest → Chosen session ref near id
  | inFile {id : String} {before after : List String} :
      session.settings.ambiguityPolicy = .sameFile →
      session.candidates ref = before ++ id :: after → session.InFileOf near id →
      (∀ other ∈ before, ¬ session.InFileOf near other) → Chosen session ref near id
  | inNoFile {id : String} {rest : List String} : session.settings.ambiguityPolicy = .sameFile →
      session.candidates ref = id :: rest →
      (∀ other ∈ session.candidates ref, ¬ session.InFileOf near other) →
      Chosen session ref near id

section
variable {session : Session} {seeds near : List String} {id ref anchor : String}

/-- Only candidates are chosen. -/
theorem Chosen.mem_candidates (h : session.Chosen ref near id) : id ∈ session.candidates ref := by
  cases h with
  | all _ hid => exact hid
  | first _ hc | inNoFile _ hc => exact hc ▸ List.mem_cons_self
  | inFile _ hc => exact hc ▸ List.mem_append_right _ List.mem_cons_self

/-- The first member of a list is the one that it begins with. -/
theorem mem_take_one {ids : List String} : id ∈ ids.take 1 ↔ ∃ rest, ids = id :: rest := by
  rw [List.take_one, Option.mem_toList, List.head?_eq_some_iff]

/-! ## What a policy picks -/

/-- The first candidate in a file of the seeds at the other end is chosen. -/
theorem Chosen.of_find?_eq_some (hp : session.settings.ambiguityPolicy = .sameFile)
    (h : (session.candidates ref).find? (session.inFileOf near) = some id) :
    session.Chosen ref near id := by
  obtain ⟨hnear, before, after, hc, hbefore⟩ := List.find?_eq_some_iff_append.mp h
  refine .inFile hp hc (inFileOf_iff.mp hnear) fun other ho hn => ?_
  simpa [inFileOf_iff.mpr hn] using hbefore other ho

/-- If no candidate is in a file of these seeds, then the first candidate is chosen. -/
theorem Chosen.of_find?_eq_none (hp : session.settings.ambiguityPolicy = .sameFile)
    (h : (session.candidates ref).find? (session.inFileOf near) = none) {rest : List String}
    (hc : session.candidates ref = id :: rest) : session.Chosen ref near id :=
  .inNoFile hp hc fun other ho hn => List.find?_eq_none.mp h other ho (inFileOf_iff.mpr hn)

/-- If the policy is to prefer a file, then it picks what is chosen. -/
theorem mem_pick_sameFile (hp : session.settings.ambiguityPolicy = .sameFile) :
    id ∈ session.pick ref near ↔ session.Chosen ref near id := by
  rw [pick_sameFile hp]
  constructor
  · cases hfind : (session.candidates ref).find? (session.inFileOf near) with
    | some found =>
      intro hid
      cases List.mem_singleton.mp hid
      exact .of_find?_eq_some hp hfind
    | none =>
      intro hid
      obtain ⟨rest, hc⟩ := mem_take_one.mp hid
      exact .of_find?_eq_none hp hfind hc
  · intro h
    cases h with
    | all hother | first hother => cases hp.symm.trans hother
    | @inFile before after _ hc hnear hbefore =>
      have hfind : (session.candidates ref).find? (session.inFileOf near) = some id := by
        refine List.find?_eq_some_iff_append.mpr
          ⟨inFileOf_iff.mpr hnear, before, after, hc, fun other ho => ?_⟩
        simpa using mt inFileOf_iff.mp (hbefore other ho)
      rw [hfind]
      exact List.mem_singleton_self id
    | inNoFile _ hc hnone =>
      have hfind : (session.candidates ref).find? (session.inFileOf near) = none :=
        List.find?_eq_none.mpr fun other ho hn => hnone other ho (inFileOf_iff.mp hn)
      rw [hfind]
      exact mem_take_one.mpr ⟨_, hc⟩

/-- The policy picks what is chosen. -/
theorem mem_pick_iff : id ∈ session.pick ref near ↔ session.Chosen ref near id := by
  cases hp : session.settings.ambiguityPolicy with
  | all =>
    have hpick : session.pick ref near = session.candidates ref := by rw [pick, hp]
    rw [hpick]
    constructor
    · exact .all hp
    · exact Chosen.mem_candidates
  | first =>
    have hpick : session.pick ref near = (session.candidates ref).take 1 := by rw [pick, hp]
    rw [hpick, mem_take_one]
    constructor
    · rintro ⟨rest, hc⟩
      exact .first hp hc
    · intro h
      cases h with
      | first _ hc => exact ⟨_, hc⟩
      | all hall => cases hp.symm.trans hall
      | inFile hfile | inNoFile hfile => cases hp.symm.trans hfile
  | sameFile => exact mem_pick_sameFile hp

/-- Where an end of a relationship has a candidate, one is chosen. -/
theorem exists_chosen (h : session.candidates ref ≠ []) (near : List String) :
    ∃ id, session.Chosen ref near id := by
  obtain ⟨first, rest, hc⟩ := List.exists_cons_of_ne_nil h
  cases hp : session.settings.ambiguityPolicy with
  | all => exact ⟨first, .all hp (hc ▸ List.mem_cons_self)⟩
  | first => exact ⟨first, .first hp hc⟩
  | sameFile =>
    cases hfind : (session.candidates ref).find? (session.inFileOf near) with
    | some found => exact ⟨found, .of_find?_eq_some hp hfind⟩
    | none => exact ⟨first, .of_find?_eq_none hp hfind hc⟩

/-- What is chosen for an indexed id is this id itself. -/
theorem Chosen.eq_of_has (h : session.Chosen ref near id) (hr : session.index.has ref = true) :
    id = ref := by
  exact List.mem_singleton.mp (candidates_of_has hr ▸ h.mem_candidates)

/-- The reverse part of a closure has what is chosen for an end of a relationship the other end of
which touches a seed. -/
theorem mem_reverse_iff_chosen :
    id ∈ session.reverse seeds ↔ ∃ relationship ∈ session.relationships, ∃ ref anchor,
      relationship.Ends ref anchor ∧ session.Touches seeds anchor ∧
        session.Chosen ref ((session.candidates anchor).filter seeds.contains) id := by
  simp only [mem_reverse_iff_across, mem_across, mem_pick_iff]

/-- Of two indexed ids that are related each brings in the other. -/
theorem mem_close_of_ends {relationship : Relationship} (hr : relationship ∈ session.relationships)
    (hends : relationship.Ends ref anchor) (href : session.index.has ref = true)
    (hanchor : session.index.has anchor = true) (hs : anchor ∈ seeds) : ref ∈ session.close seeds := by
  have hc : session.candidates ref ≠ [] := candidates_of_has href ▸ List.cons_ne_nil _ _
  obtain ⟨id, hid⟩ := exists_chosen hc ((session.candidates anchor).filter seeds.contains)
  obtain rfl : id = ref := hid.eq_of_has href
  exact mem_close.mpr (.inr (.inl (mem_reverse_iff_chosen.mpr
    ⟨relationship, hr, id, anchor, hends, touches_of_has hanchor hs, hid⟩)))

end

/-- The reverse part of a closure is exact: it has what is chosen for an end of a relationship if
the other end stands for a seed, and nothing else. So if an end has a candidate and the other one
stands for a seed, then one of the candidates is in the closure, and so are all that are chosen; and
of two indexed ids that are related each brings in the other. -/
theorem reverse_exact (document : Document) (settings : Settings) (seeds : List String) :
    let session := ofDocument document settings
    let near := fun anchor => (session.candidates anchor).filter seeds.contains
    (∀ id, id ∈ session.reverse seeds ↔ ∃ relationship ∈ document.relationships, ∃ ref anchor,
        relationship.Ends ref anchor ∧ session.Touches seeds anchor ∧
          id ∈ session.candidates ref ∧ session.Chosen ref (near anchor) id) ∧
      (∀ relationship ∈ document.relationships, ∀ ref anchor, relationship.Ends ref anchor →
        session.Touches seeds anchor → session.candidates ref ≠ [] →
          (∃ id ∈ session.candidates ref, id ∈ session.close seeds) ∧
            ∀ id, session.Chosen ref (near anchor) id → id ∈ session.close seeds) ∧
      ∀ relationship ∈ document.relationships, ∀ ref anchor, relationship.Ends ref anchor →
        session.index.has ref = true → session.index.has anchor = true → anchor ∈ seeds →
          ref ∈ session.close seeds := by
  intro session near
  have hclose : ∀ relationship ∈ document.relationships, ∀ ref anchor,
      relationship.Ends ref anchor → session.Touches seeds anchor →
        ∀ id, session.Chosen ref (near anchor) id → id ∈ session.close seeds := by
    intro relationship hr ref anchor hends ht id hid
    exact mem_close.mpr (.inr (.inl
      (mem_reverse_iff_chosen.mpr ⟨relationship, hr, ref, anchor, hends, ht, hid⟩)))
  refine ⟨fun id => ?_, fun relationship hr ref anchor hends ht hc => ⟨?_, ?_⟩,
    fun relationship hr ref anchor hends href hanchor hs => ?_⟩
  · rw [mem_reverse_iff_chosen]
    constructor
    · rintro ⟨relationship, hr, ref, anchor, hends, ht, hid⟩
      exact ⟨relationship, hr, ref, anchor, hends, ht, hid.mem_candidates, hid⟩
    · rintro ⟨relationship, hr, ref, anchor, hends, ht, -, hid⟩
      exact ⟨relationship, hr, ref, anchor, hends, ht, hid⟩
  · obtain ⟨id, hid⟩ := exists_chosen hc (near anchor)
    exact ⟨id, hid.mem_candidates, hclose relationship hr ref anchor hends ht id hid⟩
  · exact hclose relationship hr ref anchor hends ht
  · have hc : session.candidates ref ≠ [] := candidates_of_has href ▸ List.cons_ne_nil _ _
    obtain ⟨id, hid⟩ := exists_chosen hc (near anchor)
    have hsame : id = ref := hid.eq_of_has href
    subst hsame
    exact hclose relationship hr id anchor hends (touches_of_has hanchor hs) id hid

/-- Of the two objects of the name `a` the second one lies in the file of the seed. -/
theorem reverse_exact_namesakes :
    let session := ofDocument namesakes { ambiguityPolicy := .sameFile }
    session.candidates "a" = ["a1", "a2"] ∧ session.Chosen "a" ["b2"] "a2" ∧
      "a2" ∈ session.close ["b2"] := by
  obtain ⟨-, hclose, -⟩ := reverse_exact namesakes { ambiguityPolicy := .sameFile } ["b2"]
  simp only [ofDocument, Index.ofDocument, nodes_namesakes] at hclose ⊢
  have hr : ⟨"0", some "a", some "b", "", 5⟩ ∈ namesakes.relationships := by decide
  generalize hs : Session.mk _ _ _ _ = session at hclose ⊢
  have hc : session.candidates "a" = ["a1", "a2"] := by
    subst hs
    decide
  have hb : (session.candidates "b").filter ["b2"].contains = ["b2"] := by
    subst hs
    decide
  have hfile : session.inFileOf ["b2"] "a2" = true ∧ session.inFileOf ["b2"] "a1" ≠ true := by
    subst hs
    decide
  have hp : session.settings.ambiguityPolicy = .sameFile := hs ▸ rfl
  have hchosen : session.Chosen "a" ["b2"] "a2" :=
    @Chosen.inFile _ _ _ _ ["a1"] [] hp hc (inFileOf_iff.mp hfile.1)
      (List.forall_mem_singleton.mpr (mt inFileOf_iff.mpr hfile.2))
  have htouches : session.Touches ["b2"] "b" := by
    rw [touches_iff, hb]
    exact List.cons_ne_nil _ _
  rw [← hb] at hchosen
  exact ⟨hc, hb ▸ hchosen, (hclose _ hr "a" "b" (.inl ⟨rfl, rfl⟩) htouches
    (hc ▸ List.cons_ne_nil _ _)).2 "a2" hchosen⟩

end Session

end ContextSlice
