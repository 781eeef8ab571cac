import ContextSlice.Session.Basic

/-!
# Closing a set of ids

The closure of some seeds (`Session.close`) has three parts. The forward part follows references
from object to object until no new id is found (`Session.forward`); it keeps a queue of the ids
whose references are still to be followed, and ends because every step takes one id off the queue
and puts on it only ids that were not known before (`Index.unfound_append`). The reverse part adds
what is at the other end of the relationships that touch a seed (`Session.reverse`), where the
policy of the settings decides between several objects of one name (`Session.pick`). The last part
adds the objects that themselves refer to a seed, if the settings ask for it
(`Session.backReferences`).
-/

namespace ContextSlice

namespace Index

variable (index : Index)

/-- The number of ids of the index that a list does not have. -/
def unfound (known : List String) : Nat := (index.keys.filter (· ∉ known)).length

/-- One more id leaves fewer that are not found. -/
theorem unfound_append_singleton {known : List String} {id : String} (hi : id ∈ index.keys)
    (hk : id ∉ known) : index.unfound (known ++ [id]) < index.unfound known := by
  have hsub : index.keys.filter (· ∉ known ++ [id]) =
      (index.keys.filter (· ∉ known)).filter (· ≠ id) := by
    rw [List.filter_filter]
    congr 1
    funext key
    simp [not_or, and_comm]
  rw [unfound, unfound, hsub]
  apply List.length_filter_lt_length_iff_exists.mpr
  exact ⟨id, by simp [hi, hk], by simp⟩

/-- Ids that are new to a list, each named once, are fewer than those that it does not have. -/
theorem unfound_append {known found : List String} (hn : found.Nodup)
    (hf : ∀ id ∈ found, id ∈ index.keys ∧ id ∉ known) :
    index.unfound (known ++ found) + found.length ≤ index.unfound known := by
  induction found generalizing known with
  | nil => simp
  | cons id found ih =>
    have hn := List.nodup_cons.mp hn
    have hid := hf id (by simp)
    have hstep := unfound_append_singleton index hid.1 hid.2
    have hrest := @ih (known ++ [id]) hn.2 fun other ho => by
      refine ⟨(hf other (by simp [ho])).1, ?_⟩
      simp only [List.mem_append, List.mem_singleton, not_or]
      exact ⟨(hf other (by simp [ho])).2, fun h => hn.1 (h ▸ ho)⟩
    simp only [List.append_assoc, List.singleton_append] at hrest
    simp only [List.length_cons]
    omega

end Index

namespace Session

variable (session : Session)

/-- The texts in the dependency members of one object. -/
def ownReferences (node : Nat) : List String :=
  session.settings.dependencyKeys.flatMap fun key =>
    (session.document.member? node key).elim [] session.document.heldTexts

/-- The texts in the dependency members of an object and of all objects inside it. -/
def references (node : Nat) : List String :=
  (session.document.walk (.ref node) [] []).flatMap fun visit => session.ownReferences visit.node

/-- The references of the object with an id. -/
def referencesOf (id : String) : List String :=
  (session.index.node? id).elim [] session.references

/-- The ids among some references that are not known yet. -/
def newIds (known refs : List String) : List String :=
  distinct (refs.filter fun id => session.index.has id && !known.contains id)

/-- Every new id is named once. -/
theorem nodup_newIds (known refs : List String) : (session.newIds known refs).Nodup :=
  nodup_distinct _

/-- The new ids are those of the index that are referred to and not known yet. -/
theorem mem_newIds {known refs : List String} {id : String} :
    id ∈ session.newIds known refs ↔ id ∈ refs ∧ id ∈ session.index.keys ∧ id ∉ known := by
  simp [newIds, Index.has, Index.keys, Assoc.has_eq_true_iff]

/-- Follows the references of the ids in a queue, and of all ids that are found on the way. The
results are the known ids in the end and their number after every step. -/
def spread (known : List String) (queue : List String) : List String × List Nat :=
  match queue with
  | [] => (known, [])
  | id :: queue =>
    let found := session.newIds known (session.referencesOf id)
    let (all, sizes) := spread (known ++ found) (queue ++ found)
    (all, (known ++ found).length :: sizes)
termination_by session.index.unfound known + queue.length
decreasing_by
  have h := session.index.unfound_append (session.nodup_newIds known (session.referencesOf id))
    fun id hid => (session.mem_newIds.mp hid).2
  simp only [List.length_append, List.length_cons]
  omega

/-- The forward part of the closure with the sizes that it passes through. -/
def forwardRun (seeds : List String) : List String × List Nat :=
  session.spread (distinct seeds) (session.index.sortIds (distinct seeds))

/-- The seeds and all ids that references lead to from them. -/
def forward (seeds : List String) : List String := (session.forwardRun seeds).1

/-- The number of known ids after every step of the forward part. -/
def forwardTrace (seeds : List String) : List Nat := (session.forwardRun seeds).2

/-- The ids that an end of a relationship may stand for: itself if it is one, or else the ids of
the objects with this name. -/
def candidates (ref : String) : List String :=
  if session.index.has ref then [ref] else session.index.idsNamed ref

/-- The candidates that the policy chooses for an end of a relationship whose other end stands
for the seeds `anchors`. -/
def pick (ref : String) (anchors : List String) : List String :=
  let options := session.candidates ref
  match session.settings.ambiguityPolicy with
  | .all => options
  | .first => options.take 1
  | .sameFile =>
    let files := anchors.filterMap session.index.fileOf?
    let near := fun id => (session.index.fileOf? id).any files.contains
    match options.find? near with
    | some id => [id]
    | none => options.take 1

/-- What a relationship adds at one end, `ref`, if its other end, `anchor`, touches a seed. -/
def across (seeds : List String) (ref anchor : String) : List String :=
  match (session.candidates anchor).filter seeds.contains with
  | [] => []
  | anchors => session.pick ref anchors

/-- What a relationship adds to some seeds. -/
def related (seeds : List String) (relationship : Relationship) : List String :=
  match relationship.source, relationship.target with
  | some source, some target =>
    session.across seeds source target ++ session.across seeds target source
  | _, _ => []

/-- The ids at the other end of the relationships that touch a seed. -/
def reverse (seeds : List String) : List String :=
  distinct (session.relationships.flatMap (session.related seeds))

/-- The ids of the objects that are no seeds but refer to one. -/
def backReferences (seeds : List String) : List String :=
  (session.index.nodes.filter fun (id, node) =>
    !seeds.contains id && (session.ownReferences node).any seeds.contains).map (·.1)

/-- The closure of some seeds. -/
def close (seeds : List String) : List String :=
  distinct (session.forward seeds ++ session.reverse seeds ++
    if session.settings.reverseScan then session.backReferences seeds else [])

/-- What is reported about closing some seeds. -/
def closureNotices (seeds : List String) : List Notice :=
  [.closed (distinct seeds).length (session.close seeds).length (session.reverse seeds).length]

end Session

end ContextSlice
