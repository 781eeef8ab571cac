/-!
# Similar texts

How alike two texts are (`matchedLength`) is measured by the blocks that they share: their longest
common block (`longestBlock`), and in the same way the blocks before it and after it. Two texts
are similar if at least three fifths of all their characters lie in such blocks; `closeMatches`
picks the most similar ones out of some candidates. A candidate that is too short or too long to
be similar (`comparable`) is not searched for blocks, which loses none
(`filter_isClose_comparable`).
-/

namespace ContextSlice.Text

/-- A block that two lists share: where it begins in either of them, and how long it is. -/
structure SharedBlock where
  left : Nat
  right : Nat
  length : Nat
  deriving DecidableEq, Repr

/-- The longer one of two blocks; the first if they are equally long. -/
def SharedBlock.longer (first second : SharedBlock) : SharedBlock :=
  if first.length < second.length then second else first

/-- The length of the start that two lists have in common. -/
def commonStart : List Char → List Char → Nat
  | a :: as, b :: bs => if a = b then commonStart as bs + 1 else 0
  | _, _ => 0

/-- The longest block that two lists share; of several the first in the left one, and of these
the first in the right one. -/
def longestBlock (as bs : List Char) : SharedBlock :=
  let blocks := (List.range as.length).flatMap fun left =>
    (List.range bs.length).map fun right =>
      SharedBlock.mk left right (commonStart (as.drop left) (bs.drop right))
  blocks.foldl SharedBlock.longer ⟨0, 0, 0⟩

/-- The number of characters of a list that lie in blocks shared with another one. -/
def matchedLength (as bs : List Char) : Nat :=
  match longestBlock as bs with
  | ⟨left, right, length⟩ =>
    if _h : 0 < length ∧ left + length ≤ as.length then
      matchedLength (as.take left) (bs.take right) + length +
        matchedLength (as.drop (left + length)) (bs.drop (right + length))
    else 0
termination_by as.length
decreasing_by
  · simp only [List.length_take]
    omega
  · simp only [List.length_drop]
    omega

/-- How similar a candidate is to a text: how many of its characters lie in shared blocks, and how
many characters the two have together. -/
structure Likeness where
  candidate : String
  matched : Nat
  total : Nat
  deriving DecidableEq, Repr

/-- How similar a candidate is to a text. -/
def likeness (s candidate : String) : Likeness :=
  ⟨candidate, matchedLength candidate.toList s.toList, candidate.length + s.length⟩

namespace Likeness

/-- Whether three fifths of the characters lie in shared blocks. -/
def isClose (x : Likeness) : Bool := 3 * x.total ≤ 10 * x.matched

/-- Whether one candidate comes before another: the more similar one does, and of two that are
equally similar the greater one. -/
def before (x y : Likeness) : Bool :=
  let left := x.matched * y.total
  let right := y.matched * x.total
  right < left || (right = left && y.candidate ≤ x.candidate)

end Likeness

/-- Whether two texts are near enough in length to be similar: no more characters of either lie in
shared blocks than the shorter one has. -/
def comparable (s candidate : String) : Bool :=
  3 * (candidate.length + s.length) ≤ 10 * min candidate.length s.length

/-- The three candidates most similar to a text among those that are close to it, the most
similar one first. -/
def closeMatches (s : String) (candidates : List String) : List String :=
  let close := ((candidates.filter (comparable s)).map (likeness s)).filter Likeness.isClose
  ((close.mergeSort Likeness.before).take 3).map (·.candidate)

/-- A common start is no longer than the right list. -/
theorem commonStart_le_right (as bs : List Char) : commonStart as bs ≤ bs.length := by
  fun_induction commonStart as bs with
  | case1 _ _ _ ih => simpa using ih
  | case2 => omega
  | case3 => omega

/-- The longest block lies within the right list. -/
theorem longestBlock_right_le (as bs : List Char) :
    (longestBlock as bs).right + (longestBlock as bs).length ≤ bs.length := by
  unfold longestBlock
  generalize hblocks : (List.range as.length).flatMap _ = blocks
  have hall : ∀ block ∈ blocks, block.right + block.length ≤ bs.length := by
    intro block hmem
    rw [← hblocks] at hmem
    simp only [List.mem_flatMap, List.mem_map, List.mem_range] at hmem
    obtain ⟨left, -, right, hright, rfl⟩ := hmem
    have := commonStart_le_right (as.drop left) (bs.drop right)
    simp only [List.length_drop] at this
    simp only
    omega
  clear hblocks
  suffices h : ∀ best : SharedBlock, best.right + best.length ≤ bs.length →
      (blocks.foldl SharedBlock.longer best).right +
        (blocks.foldl SharedBlock.longer best).length ≤ bs.length from h ⟨0, 0, 0⟩ (by simp)
  induction blocks with
  | nil => exact fun _ h => h
  | cons block blocks ih =>
    intro best hbest
    rw [List.foldl_cons]
    apply ih (fun b hb => hall b (List.mem_cons_of_mem _ hb))
    unfold SharedBlock.longer
    split
    · exact hall block List.mem_cons_self
    · exact hbest

/-- No more characters of the left list lie in shared blocks than it has. -/
theorem matchedLength_le_left (as bs : List Char) : matchedLength as bs ≤ as.length := by
  rw [matchedLength]
  split
  split
  · next left right length _ _ =>
    have h1 := matchedLength_le_left (as.take left) (bs.take right)
    have h2 := matchedLength_le_left (as.drop (left + length)) (bs.drop (right + length))
    simp only [List.length_take, List.length_drop] at h1 h2
    omega
  · omega
termination_by as.length
decreasing_by
  · simp only [List.length_take]
    omega
  · simp only [List.length_drop]
    omega

/-- No more characters of the left list lie in shared blocks than the right one has. -/
theorem matchedLength_le_right (as bs : List Char) : matchedLength as bs ≤ bs.length := by
  rw [matchedLength]
  split
  split
  · next left right length hlongest _ =>
    have hright := longestBlock_right_le as bs
    have h1 := matchedLength_le_right (as.take left) (bs.take right)
    have h2 := matchedLength_le_right (as.drop (left + length)) (bs.drop (right + length))
    rw [hlongest] at hright
    simp only [List.length_take, List.length_drop] at h1 h2 hright
    omega
  · omega
termination_by as.length
decreasing_by
  · simp only [List.length_take]
    omega
  · simp only [List.length_drop]
    omega

/-- A candidate that is not comparable to a text is not close to it. -/
theorem isClose_likeness_of_not_comparable {s candidate : String}
    (h : comparable s candidate = false) : (likeness s candidate).isClose = false := by
  have hleft := matchedLength_le_left candidate.toList s.toList
  have hright := matchedLength_le_right candidate.toList s.toList
  simp only [comparable, decide_eq_false_iff_not] at h
  simp only [String.length_toList] at hleft hright
  exact decide_eq_false fun hclose => h (by simp only [likeness] at hclose; omega)

/-- Leaving out the candidates that are not comparable to a text leaves out none that is close. -/
theorem filter_isClose_comparable (s : String) (candidates : List String) :
    ((candidates.filter (comparable s)).map (likeness s)).filter Likeness.isClose =
      (candidates.map (likeness s)).filter Likeness.isClose := by
  induction candidates with
  | nil => rfl
  | cons candidate candidates ih =>
    cases h : comparable s candidate with
    | true => simp only [List.filter_cons, h, ↓reduceIte, List.map_cons, ih]
    | false =>
      simp only [List.filter_cons, h, List.map_cons, Bool.false_eq_true, ↓reduceIte, ih,
        isClose_likeness_of_not_comparable h]

end ContextSlice.Text
