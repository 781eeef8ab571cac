import ContextSlice.Document.OfJson
import ContextSlice.Proofs.Session.Closure
import Mathlib

/-!
# Closing unions of seeds

If the policy is not to prefer a file, what is picked for an end of a relationship does not depend
on the seeds at the other end (`Session.pick_eq`), and closing distributes over unions of seeds
(`Session.mem_close_union`). Of the three parts of a closure the forward part and the reverse part
distribute themselves. The last part need not: an object that refers to a seed of one of the sets
is left out if it is a seed of the other one, and is then in the forward part.
-/

namespace ContextSlice

namespace Session

section
variable {session : Session} {id : String}

/-- Without preferring a file the policy picks the same whatever the other end stands for. -/
theorem pick_eq (hp : session.settings.ambiguityPolicy ≠ .sameFile) (ref : String)
    (anchors more : List String) : session.pick ref anchors = session.pick ref more := by
  unfold pick
  split
  · rfl
  · rfl
  · rename_i h
    exact absurd h hp

/-- A union of two closed sets is closed. -/
theorem ReferenceClosed.union {ids more : Set String} (hi : session.ReferenceClosed ids)
    (hm : session.ReferenceClosed more) : session.ReferenceClosed {id | id ∈ ids ∨ id ∈ more} := by
  rintro id (h | h) node hn ref hr href
  · exact .inl (hi id h node hn ref hr href)
  · exact .inr (hm id h node hn ref hr href)

/-- More seeds are touched by at least the same ends of relationships. -/
theorem Touches.mono {seeds more : List String} {ref : String} (hs : seeds ⊆ more)
    (h : session.Touches seeds ref) : session.Touches more ref := by
  obtain ⟨id, hc, hid⟩ := h
  exact ⟨id, hc, hs hid⟩

/-- What refers to a seed refers to one of more seeds, unless it is among them itself. -/
theorem mem_backReferences_or_mem {seeds more : List String} (hs : seeds ⊆ more)
    (h : id ∈ session.backReferences seeds) : id ∈ session.backReferences more ∨ id ∈ more := by
  obtain ⟨node, hm, -, ref, hr, href⟩ := mem_backReferences.mp h
  by_cases hid : id ∈ more
  · exact .inr hid
  · exact .inl (mem_backReferences.mpr ⟨node, hm, hid, ref, hr, hs href⟩)

/-! ## The parts of the closure of a union -/

variable {left right both : List String} (hu : ∀ id, id ∈ both ↔ id ∈ left ∨ id ∈ right)
include hu

/-- The forward part of a union is the union of the forward parts. -/
theorem mem_forward_union :
    id ∈ session.forward both ↔ id ∈ session.forward left ∨ id ∈ session.forward right := by
  constructor
  · intro h
    have hl : session.ReferenceClosed {id | id ∈ session.forward left} :=
      referenceClosed_forward left
    have hr : session.ReferenceClosed {id | id ∈ session.forward right} :=
      referenceClosed_forward right
    refine forward_subset (hl.union hr) (fun id hid => ?_) id h
    exact ((hu id).mp hid).imp (fun h => subset_forward left h) fun h => subset_forward right h
  · rintro (h | h)
    · exact forward_mono (fun id hid => (hu id).mpr (.inl hid)) h
    · exact forward_mono (fun id hid => (hu id).mpr (.inr hid)) h

/-- A reference touches both lists of seeds together if it touches one of them. -/
theorem touches_union {ref : String} :
    session.Touches both ref ↔ session.Touches left ref ∨ session.Touches right ref := by
  constructor
  · rintro ⟨id, hc, hid⟩
    exact ((hu id).mp hid).imp (⟨id, hc, ·⟩) (⟨id, hc, ·⟩)
  · rintro (h | h)
    · exact h.mono fun id hid => (hu id).mpr (.inl hid)
    · exact h.mono fun id hid => (hu id).mpr (.inr hid)

/-- A relationship adds to a union what it adds to one of the sets, as the policy picks the same for
all three. -/
theorem mem_across_union (hp : session.settings.ambiguityPolicy ≠ .sameFile)
    {ref anchor : String} :
    id ∈ session.across both ref anchor ↔
      id ∈ session.across left ref anchor ∨ id ∈ session.across right ref anchor := by
  rw [mem_across, mem_across, mem_across, pick_eq hp ref _ [],
    pick_eq hp ref ((session.candidates anchor).filter left.contains) [],
    pick_eq hp ref ((session.candidates anchor).filter right.contains) [], ← or_and_right,
    touches_union hu]

/-- The reverse part of a union is the union of the reverse parts. -/
theorem mem_reverse_union (hp : session.settings.ambiguityPolicy ≠ .sameFile) :
    id ∈ session.reverse both ↔ id ∈ session.reverse left ∨ id ∈ session.reverse right := by
  simp only [mem_reverse, mem_related, mem_across_union hu hp]
  constructor
  · rintro ⟨relationship, hr, source, target, hs, ht, (h | h) | h | h⟩
    · exact .inl ⟨relationship, hr, source, target, hs, ht, .inl h⟩
    · exact .inr ⟨relationship, hr, source, target, hs, ht, .inl h⟩
    · exact .inl ⟨relationship, hr, source, target, hs, ht, .inr h⟩
    · exact .inr ⟨relationship, hr, source, target, hs, ht, .inr h⟩
  · rintro (⟨relationship, hr, source, target, hs, ht, h⟩ |
      ⟨relationship, hr, source, target, hs, ht, h⟩)
    · exact ⟨relationship, hr, source, target, hs, ht, h.imp .inl .inl⟩
    · exact ⟨relationship, hr, source, target, hs, ht, h.imp .inr .inr⟩

/-- What refers to a seed of a union refers to a seed of one of the sets, and is no seed there. -/
theorem mem_backReferences_of_union (h : id ∈ session.backReferences both) :
    id ∈ session.backReferences left ∨ id ∈ session.backReferences right := by
  obtain ⟨node, hm, hs, ref, hr, href⟩ := mem_backReferences.mp h
  rcases (hu ref).mp href with href | href
  · exact .inl (mem_backReferences.mpr
      ⟨node, hm, fun hid => hs ((hu id).mpr (.inl hid)), ref, hr, href⟩)
  · exact .inr (mem_backReferences.mpr
      ⟨node, hm, fun hid => hs ((hu id).mpr (.inr hid)), ref, hr, href⟩)

omit hu in
/-- The closure of some seeds is part of that of more seeds, without preferring a file. An object
that refers to a seed but becomes a seed itself is in the forward part. -/
theorem close_subset (hp : session.settings.ambiguityPolicy ≠ .sameFile)
    {seeds more : List String} (hs : seeds ⊆ more) : session.close seeds ⊆ session.close more := by
  have hu : ∀ id, id ∈ more ↔ id ∈ seeds ∨ id ∈ more := fun id => by simpa using @hs id
  intro id h
  rw [mem_close] at h ⊢
  rcases h with h | h | ⟨hscan, h⟩
  · exact .inl (forward_mono hs h)
  · exact .inr (.inl ((mem_reverse_union hu hp).mpr (.inl h)))
  · rcases mem_backReferences_or_mem hs h with h | h
    · exact .inr (.inr ⟨hscan, h⟩)
    · exact .inl (subset_forward more h)

/-- The closure of a union is the union of the closures, without preferring a file. -/
theorem mem_close_union (hp : session.settings.ambiguityPolicy ≠ .sameFile) :
    id ∈ session.close both ↔ id ∈ session.close left ∨ id ∈ session.close right := by
  constructor
  · intro h
    rw [mem_close, mem_close]
    rcases mem_close.mp h with h | h | ⟨hscan, h⟩
    · exact ((mem_forward_union hu).mp h).imp .inl .inl
    · exact ((mem_reverse_union hu hp).mp h).imp (fun h => .inr (.inl h)) fun h => .inr (.inl h)
    · exact (mem_backReferences_of_union hu h).imp (fun h => .inr (.inr ⟨hscan, h⟩))
        fun h => .inr (.inr ⟨hscan, h⟩)
  · rintro (h | h)
    · exact close_subset hp (fun id hid => (hu id).mpr (.inl hid)) h
    · exact close_subset hp (fun id hid => (hu id).mpr (.inr hid)) h

end

/-! ## Contexts of requests -/

section
variable {session : Session} (hp : session.settings.ambiguityPolicy ≠ .sameFile)
include hp

/-- The context of two requests together is the union of their contexts. -/
theorem mem_contextIds_append (symbols more : List Json) (id : String) :
    id ∈ session.contextIds (symbols ++ more) ↔
      id ∈ session.contextIds symbols ∨ id ∈ session.contextIds more := by
  refine mem_close_union (fun id => ?_) hp
  simp only [mem_seeds, List.mem_append, or_and_right, exists_or]

/-- The context of a request is the union of the contexts of its symbols. -/
theorem mem_contextIds_iff_exists (symbols : List Json) (id : String) :
    id ∈ session.contextIds symbols ↔ ∃ symbol ∈ symbols, id ∈ session.contextIds [symbol] := by
  induction symbols with
  | nil =>
    constructor
    · exact fun h => absurd h not_mem_close_nil
    · rintro ⟨_, h, -⟩
      cases h
  | cons symbol symbols ih =>
    rw [← List.singleton_append, mem_contextIds_append hp, ih]
    simp

end

/-- If the policy is to take the first candidate or all of them, then closing distributes over
unions of seeds and of requests, and the context of a request is the union of the contexts of its
symbols. -/
theorem close_append (session : Session)
    (hp : session.settings.ambiguityPolicy = .first ∨ session.settings.ambiguityPolicy = .all) :
    (∀ seeds more id, id ∈ session.close (seeds ++ more) ↔
        id ∈ session.close seeds ∨ id ∈ session.close more) ∧
      (∀ symbols more id, id ∈ session.contextIds (symbols ++ more) ↔
        id ∈ session.contextIds symbols ∨ id ∈ session.contextIds more) ∧
      ∀ symbols id, id ∈ session.contextIds symbols ↔
        ∃ symbol ∈ symbols, id ∈ session.contextIds [symbol] := by
  have hp : session.settings.ambiguityPolicy ≠ .sameFile := by
    rcases hp with h | h <;> rw [h] <;> decide
  exact ⟨fun seeds more id => mem_close_union (fun _ => List.mem_append) hp,
    mem_contextIds_append hp, mem_contextIds_iff_exists hp⟩

/-- Two handlers of one name, and a function that calls the first of them and is related to their
name. -/
def handlers : Document := .ofJson <| .object
  [("modules", .list
    [.object [("id", .text "h1"), ("name", .text "handler")],
      .object [("id", .text "h2"), ("name", .text "handler")],
      .object [("id", .text "target"), ("calls", .text "h1")]]),
    ("dependency_graph", .object [("relationships", .list
      [.object [("from", .text "handler"), ("to", .text "target")]])])]

/-- The second handler is in the closure of the first one and the function, for it is related to the
function. -/
theorem close_append_handlers :
    let session := Session.ofDocument handlers { ambiguityPolicy := .all, reverseScan := true }
    (session.settings.ambiguityPolicy = .first ∨ session.settings.ambiguityPolicy = .all) ∧
      "h2" ∈ session.close (["h1"] ++ ["target"]) := by
  intro session
  have hn : handlers.nodes = [⟨0, none, [.member "modules", .position 0]⟩,
      ⟨1, none, [.member "modules", .position 1]⟩,
      ⟨2, none, [.member "modules", .position 2]⟩] := by cbv
  have hr : "h2" ∈ session.reverse ["target"] := by
    simp only [session, Session.ofDocument, Index.ofDocument, hn]
    decide
  exact ⟨.inr rfl, ((close_append session (.inr rfl)).1 ["h1"] ["target"] "h2").mpr
    (.inr (mem_close.mpr (.inr (.inl hr))))⟩

end Session

end ContextSlice
