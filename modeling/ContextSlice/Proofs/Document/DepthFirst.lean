import ContextSlice.Proofs.Document.Walk

/-!
# The walk as a depth-first search

`Document.explore` is the search that a walk stands for, written as a recursion over the document:
it goes into a value, into the members of an object one after another (`Document.exploreMembers`)
and into the items of a sequence (`Document.exploreItems`), and it hands the places that it has
been to from each part to the next one (`Exploration`). A walk has a stack in place of the
recursion, and a place may wait on it several times, with different parents and paths.
`Document.walkFrom_eq_explore` says that a walk does with the uppermost value of its stack what the
search does with it, and goes on with the rest of the stack at the places that the search has been
to.
-/

namespace ContextSlice

/-- What a search comes to that begins after the places `seen`: the objects that it visits, in
their order, and the places that have been gone to in the end. -/
structure Exploration (seen : List Nat) where
  visits : List Visit
  reached : List Nat
  grows : seen ⊆ reached

namespace Exploration

variable {seen : List Nat}

/-- The search that goes nowhere. -/
def nothing (seen : List Nat) : Exploration seen := ⟨[], seen, List.Subset.refl seen⟩

/-- The search in a container at a new place: the visits to be made there, and then the search in
the parts of the container. -/
def within (place : Nat) (here : List Visit) (inside : Exploration (place :: seen)) :
    Exploration seen :=
  ⟨here ++ inside.visits, inside.reached,
    fun _ h => inside.grows (List.mem_cons_of_mem place h)⟩

/-- A search and then a second one after all places that the first has been to. -/
def andThen (first : Exploration seen) (rest : Exploration first.reached) : Exploration seen :=
  ⟨first.visits ++ rest.visits, rest.reached, List.Subset.trans first.grows rest.grows⟩

/-- The search in a container goes to the container's place. -/
theorem mem_reached_within (place : Nat) (here : List Visit)
    (inside : Exploration (place :: seen)) : place ∈ (within place here inside).reached :=
  inside.grows List.mem_cons_self

/-- The second search does not forget where the first has been to. -/
theorem reached_subset_andThen (first : Exploration seen) (rest : Exploration first.reached) :
    first.reached ⊆ (first.andThen rest).reached := rest.grows

end Exploration

namespace Document

variable (doc : Document)

/-- Of a larger list of places no more places are unseen. -/
theorem unseen_le_of_subset {seen reached : List Nat} (h : seen ⊆ reached) :
    doc.unseen reached ≤ doc.unseen seen := by
  rw [unseen, unseen, ← List.countP_eq_length_filter, ← List.countP_eq_length_filter]
  apply List.countP_mono_left
  intro place _ hp
  rw [decide_eq_true_eq] at hp ⊢
  exact fun hs => hp (h hs)

section
variable (start : Value) (skip : List String)

mutual

/-- The search in a value that is reached from the object `parent` by `path`, after the places
`seen`. Nothing is done at a place for the second time. -/
def explore (seen : List Nat) (parent : Option Nat) (path : List PathPart) :
    Value → Exploration seen
  | .leaf _ => .nothing seen
  | .ref place =>
    if _hs : place ∈ seen then .nothing seen
    else
      match _hc : doc.containers[place]? with
      | none => .nothing seen
      | some (.object members) =>
        .within place [⟨place, parent, path⟩] (exploreMembers (place :: seen) place members)
      | some (.sequence items) =>
        .within place [] (exploreItems (place :: seen) parent path 0 items)
termination_by (doc.unseen seen, 0)
decreasing_by
  · exact Prod.Lex.left _ _ (doc.unseen_cons_lt (Array.getElem?_eq_some_iff.mp _hc).1 _hs)
  · exact Prod.Lex.left _ _ (doc.unseen_cons_lt (Array.getElem?_eq_some_iff.mp _hc).1 _hs)

/-- The search in members of the object at `place`. Internal members are left out, and at the
starting value those to be skipped. -/
def exploreMembers (seen : List Nat) (place : Nat) : List (String × Value) → Exploration seen
  | [] => .nothing seen
  | (name, value) :: members =>
    if isInternal name ∨ .ref place = start ∧ name ∈ skip then exploreMembers seen place members
    else
      let first := explore seen (some place) [.member name] value
      first.andThen (exploreMembers first.reached place members)
termination_by members => (doc.unseen seen, members.length)
decreasing_by
  · exact Prod.Lex.right _ (Nat.lt_succ_self _)
  · exact Prod.Lex.right _ (Nat.succ_pos _)
  · exact Prod.Lex.right' _ (doc.unseen_le_of_subset first.grows) (Nat.lt_succ_self _)

/-- The search in items of a sequence, the first of which has a position. They have the parent of
the sequence, and its path with their positions. -/
def exploreItems (seen : List Nat) (parent : Option Nat) (path : List PathPart)
    (position : Nat) : List Value → Exploration seen
  | [] => .nothing seen
  | value :: items =>
    let first := explore seen parent (path ++ [.position position]) value
    first.andThen (exploreItems first.reached parent path (position + 1) items)
termination_by items => (doc.unseen seen, items.length)
decreasing_by
  · exact Prod.Lex.right _ (Nat.succ_pos _)
  · exact Prod.Lex.right' _ (doc.unseen_le_of_subset first.grows) (Nat.lt_succ_self _)

end

end

section
variable {doc : Document} (start : Value) (skip : List String)
variable (parent : Option Nat) (path : List PathPart) {seen : List Nat} {place : Nat}

/-! ## The steps of the search -/

@[simp] theorem explore_leaf (leaf : Json) :
    doc.explore start skip seen parent path (.leaf leaf) = .nothing seen := by
  rw [explore]

/-- A place that the search has been to is left alone. -/
theorem explore_of_mem (hs : place ∈ seen) :
    doc.explore start skip seen parent path (.ref place) = .nothing seen := by
  rw [explore, dif_pos hs]

/-- A reference that points nowhere is left alone. -/
theorem explore_dangling (hs : place ∉ seen) (hc : doc.containers[place]? = none) :
    doc.explore start skip seen parent path (.ref place) = .nothing seen := by
  rw [explore, dif_neg hs]
  split
  · rfl
  · rename_i h; cases hc.symm.trans h
  · rename_i h; cases hc.symm.trans h

/-- A new object is visited before what is found in its members. -/
theorem explore_object {members : List (String × Value)} (hs : place ∉ seen)
    (hc : doc.containers[place]? = some (.object members)) :
    doc.explore start skip seen parent path (.ref place) =
      .within place [⟨place, parent, path⟩]
        (doc.exploreMembers start skip (place :: seen) place members) := by
  rw [explore, dif_neg hs]
  split
  · rename_i h; cases hc.symm.trans h
  · rename_i h; cases hc.symm.trans h; rfl
  · rename_i h; cases hc.symm.trans h

/-- A new sequence is searched item by item. -/
theorem explore_sequence {items : List Value} (hs : place ∉ seen)
    (hc : doc.containers[place]? = some (.sequence items)) :
    doc.explore start skip seen parent path (.ref place) =
      .within place [] (doc.exploreItems start skip (place :: seen) parent path 0 items) := by
  rw [explore, dif_neg hs]
  split
  · rename_i h; cases hc.symm.trans h
  · rename_i h; cases hc.symm.trans h
  · rename_i h; cases hc.symm.trans h; rfl

/-! ## The stack as a recursion -/

/-- What waits from an object begins with its first member, unless that is not followed. -/
theorem followed_cons (name : String) (value : Value) (members : List (String × Value)) :
    followed (if .ref place = start then skip else []) place ((name, value) :: members) =
      if isInternal name ∨ .ref place = start ∧ name ∈ skip then
        followed (if .ref place = start then skip else []) place members
      else
        ⟨value, some place, [.member name]⟩ ::
          followed (if .ref place = start then skip else []) place members := by
  unfold followed
  rw [List.filter_cons]
  by_cases hi : isInternal name <;> by_cases hp : .ref place = start <;>
    by_cases hm : name ∈ skip <;> simp [hi, hp, hm]

variable (doc)

/-- A walk does with the values on its stack what the search does with them: with a value, with the
items of a sequence and with the members of an object. Below them the stack is arbitrary, and the
walk goes on with it from the places that the search has been to. -/
theorem walkFrom_eq_explore :
    (∀ seen parent path value stack,
      doc.walkFrom start skip (⟨value, parent, path⟩ :: stack) seen =
        (doc.explore start skip seen parent path value).visits ++
          doc.walkFrom start skip stack
            (doc.explore start skip seen parent path value).reached) ∧
    (∀ seen parent path position items stack,
      doc.walkFrom start skip (((items.zipIdx position).map fun item =>
          ⟨item.1, parent, path ++ [.position item.2]⟩) ++ stack) seen =
        (doc.exploreItems start skip seen parent path position items).visits ++
          doc.walkFrom start skip stack
            (doc.exploreItems start skip seen parent path position items).reached) ∧
    (∀ seen place members stack,
      doc.walkFrom start skip
          (followed (if .ref place = start then skip else []) place members ++ stack) seen =
        (doc.exploreMembers start skip seen place members).visits ++
          doc.walkFrom start skip stack
            (doc.exploreMembers start skip seen place members).reached) := by
  apply explore.mutual_induct doc start skip
  case case1 =>
    intro seen parent path leaf stack
    rw [walkFrom_leaf, explore_leaf]
    rfl
  case case2 =>
    intro seen parent path place hs stack
    rw [walkFrom_of_mem hs, explore_of_mem start skip parent path hs]
    rfl
  case case3 =>
    intro seen parent path place hs hc stack
    rw [walkFrom_dangling hs hc, explore_dangling start skip parent path hs hc]
    rfl
  case case4 =>
    intro seen parent path place hs members hc ih stack
    rw [walkFrom_object hs hc, explore_object start skip parent path hs hc, ih stack]
    rfl
  case case5 =>
    intro seen parent path place hs items hc ih stack
    rw [walkFrom_sequence hs hc, explore_sequence start skip parent path hs hc, positioned,
      ih stack]
    rfl
  case case6 =>
    intro seen parent path position stack
    rw [exploreItems]
    rfl
  case case7 =>
    intro seen parent path position value items first ihv ihr stack
    rw [exploreItems, List.zipIdx_cons, List.map_cons, List.cons_append, ihv, ihr stack,
      ← List.append_assoc]
    rfl
  case case8 =>
    intro seen place stack
    rw [exploreMembers]
    rfl
  case case9 =>
    intro seen place name value members hn ih stack
    rw [exploreMembers, if_pos hn, followed_cons, if_pos hn, ih stack]
  case case10 =>
    intro seen place name value members hn first ihv ihr stack
    rw [exploreMembers, if_neg hn, followed_cons, if_neg hn, List.cons_append, ihv, ihr stack,
      ← List.append_assoc]
    rfl

/-- A walk makes the visits of the search, in the same order. -/
theorem walk_eq_explore (path : List PathPart) :
    doc.walk start path skip = (doc.explore start skip [] none path start).visits := by
  rw [walk, (walkFrom_eq_explore doc start skip).1, walkFrom_nil, List.append_nil]

end

end Document

end ContextSlice
