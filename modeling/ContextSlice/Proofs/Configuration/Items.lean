import ContextSlice.Configuration.Coercion
import ContextSlice.Proofs.Settings.Accepted
import ContextSlice.Proofs.Text.Pieces
import ContextSlice.Proofs.Text.Trimmed

/-!
# Items between commas

A text between commas gives items, none of which is empty, has a comma in it or a blank at its ends
(`Configuration.IsItem`). Items can be typed again: with a comma and a blank between them they are split into
the same items (`Configuration.splitItems_intercalate`). Items that become file suffixes are still items
(`Configuration.isItem_of_mem_normalSuffixes`).
-/

namespace ContextSlice.Configuration

/-- A text that may stand between commas as it is. -/
structure IsItem (item : String) : Prop where
  ne_empty : item ≠ ""
  noComma : ',' ∉ item.toList
  trimmed : Text.Trimmed item.toList

section
variable {raw item suffix : String} {items : List String}

/-- What a typed list is split into are items. -/
theorem isItem_of_mem_splitItems (h : item ∈ splitItems raw) : IsItem item := by
  obtain ⟨hmem, hne⟩ := List.mem_filter.mp h
  obtain ⟨piece, hpiece, rfl⟩ := List.mem_map.mp hmem
  obtain ⟨cs, hcs, rfl⟩ := List.mem_map.mp hpiece
  have htrim : (Text.trim (String.ofList cs)).toList = Text.trimBy Text.isBlank cs := by
    rw [Text.trim, String.toList_ofList, String.toList_ofList]
  refine ⟨of_decide_eq_true hne, ?_, ?_⟩
  · rw [htrim]
    exact fun hcomma => Text.notMem_of_mem_splitChars hcs (Text.mem_of_mem_trimBy hcomma)
  · rw [htrim]
    exact Text.trimmed_trimBy cs

/-! ## Items with commas between them -/

/-- A character before the first piece comes before all of them. -/
theorem intercalate_cons_head (separator piece : List Char) (c : Char) (pieces : List (List Char)) :
    separator.intercalate ((c :: piece) :: pieces) = c :: separator.intercalate (piece :: pieces) := by
  cases pieces with
  | nil => simp only [List.intercalate_singleton]
  | cons next pieces => simp only [List.intercalate_cons_cons, List.cons_append]

/-- The blank after a comma may be taken to belong to the item that follows. -/
theorem intercalate_comma_blank (piece : List Char) (pieces : List (List Char)) :
    [',', ' '].intercalate (piece :: pieces) =
      [','].intercalate (piece :: pieces.map (' ' :: ·)) := by
  induction pieces generalizing piece with
  | nil => rfl
  | cons next pieces ih =>
    rw [List.map_cons, List.intercalate_cons_cons, List.intercalate_cons_cons, ih, intercalate_cons_head,
      List.append_assoc, List.append_assoc]
    rfl

/-- An item has no blanks to be trimmed. -/
theorem IsItem.trim_eq (h : IsItem item) : Text.trim item = item := by
  rw [Text.trim, h.trimmed.trimBy_eq, String.ofList_toList]

/-- A blank before an item is trimmed. -/
theorem IsItem.trim_blank (h : IsItem item) : Text.trim (String.ofList (' ' :: item.toList)) = item := by
  have hblank : Text.isBlank ' ' = true := by decide
  rw [Text.trim, String.toList_ofList, Text.trimBy_cons hblank, h.trimmed.trimBy_eq, String.ofList_toList]

/-- Items are split as they were joined. -/
theorem splitItems_intercalate (h : ∀ item ∈ items, IsItem item) :
    splitItems (", ".intercalate items) = items := by
  cases items with
  | nil => decide
  | cons item items =>
    obtain ⟨hitem, hitems⟩ := List.forall_mem_cons.mp h
    have hpieces : Text.splitChars ',' (", ".intercalate (item :: items)).toList =
        item.toList :: items.map fun item => ' ' :: item.toList := by
      have hseparator : ", ".toList = [',', ' '] := rfl
      have hmap : (items.map String.toList).map (' ' :: ·) = items.map fun item => ' ' :: item.toList :=
        List.map_map
      rw [String.toList_intercalate, hseparator, List.map_cons, intercalate_comma_blank, hmap]
      refine Text.splitChars_intercalate (List.forall_mem_cons.mpr ⟨hitem.noComma, ?_⟩) (List.cons_ne_nil _ _)
      refine List.forall_mem_map.mpr fun other ho => ?_
      exact List.not_mem_cons_of_ne_of_not_mem (by decide) (hitems other ho).noComma
    have htrimmed : (Text.splitAt ',' (", ".intercalate (item :: items))).map Text.trim = item :: items := by
      rw [Text.splitAt, hpieces, List.map_cons, List.map_cons, String.ofList_toList, hitem.trim_eq,
        List.map_map, List.map_map]
      congr 1
      exact (List.map_congr_left fun other ho => (hitems other ho).trim_blank).trans (List.map_id items)
    rw [splitItems, htrimmed]
    exact List.filter_eq_self.mpr fun other ho => decide_eq_true (h other ho).ne_empty

/-! ## File suffixes -/

/-- An item in lower case has no comma, and no blank at its end. -/
theorem IsItem.lower (h : IsItem item) : ',' ∉ (Text.lower item).toList ∧
    ∀ c ∈ (Text.lower item).toList.getLast?, Text.isBlank c = false := by
  rw [Text.lower, String.toList_ofList]
  refine ⟨fun hcomma => h.noComma (Text.mem_of_mem_lowerAfter hcomma (by decide)), fun c hc => ?_⟩
  by_contra hblank
  rw [Bool.not_eq_false] at hblank
  have hlast := Text.getLast?_of_lowerAfter hc (Text.caseless_of_isBlank hblank)
  rw [h.trimmed.last c hlast] at hblank
  cases hblank

/-- A file suffix that was an item is one. -/
theorem isItem_of_mem_normalSuffixes (h : ∀ item ∈ items, IsItem item)
    (hs : suffix ∈ Settings.normalSuffixes items) : IsItem suffix := by
  have hnormal := Settings.normal_of_mem_normalSuffixes hs
  obtain ⟨cs, hcs⟩ := hnormal.point
  obtain ⟨item, hitem, hsuffix⟩ := List.mem_map.mp hs
  obtain ⟨hcomma, hlast⟩ := (h item (List.mem_filter.mp hitem).1).lower
  have hfirst : ∀ c ∈ suffix.toList.head?, Text.isBlank c = false := by
    rw [hcs]
    rintro c ⟨⟩
    decide
  refine ⟨hnormal.ne_empty, ?_, hfirst, ?_⟩
  · rw [← hsuffix]
    split
    · exact hcomma
    · rw [String.toList_append]
      exact fun hmem => (List.mem_append.mp hmem).elim (fun hpoint => absurd hpoint (by decide)) hcomma
  · rw [← hsuffix]
    split
    · exact hlast
    · rw [String.toList_append, List.getLast?_append]
      intro c hc
      rcases Option.or_eq_some_iff.mp hc with hc | ⟨-, hc⟩
      · exact hlast c hc
      · cases hc
        decide

end

end ContextSlice.Configuration
