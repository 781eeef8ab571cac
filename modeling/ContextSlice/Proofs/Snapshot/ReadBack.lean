import ContextSlice.Proofs.Document.File
import ContextSlice.Proofs.Json.LineEndings
import ContextSlice.Proofs.Json.RoundTrip
import ContextSlice.Proofs.Session.MadeOf
import ContextSlice.Proofs.Snapshot.Run

/-!
# Reading snapshots back

A snapshot that is read by its name is the payload of the slice that was saved, since the text of a value
is read as that value (`Snapshot.read_of_write`). Nothing is asked of a slice that is made by hand but that
the texts of its doubles are read as those doubles: if a whole number in it has too many digits, then it is
not saved (`Snapshot.read_of_save`).
-/

namespace ContextSlice

/-- The text of every double in a value is read as that double. -/
def Json.DoublesReadBack (value : Json) : Prop :=
  ∀ x, .real x ∈ value.leaves → Json.read (Json.print (.real x)) = .ok (.real x)

namespace Snapshot

section
variable {disk later : Disk} {folder path : FilePath} {clock : Instant} {slice : Slice Json}

/-- The payload of a slice with distinct names is made of leaves that are read as they are written, if its
doubles are and no whole number in it has too many digits. -/
theorem madeOf_legible {value : Json} (hn : value.DistinctNames) (hr : value.DoublesReadBack)
    (hi : value.leaves.any isTooLong = false) : value.MadeOf Json.Legible := by
  refine hn.madeOf fun leaf hl => ⟨fun n hint => ?_, fun x hreal => ?_⟩
  · rw [List.any_eq_false] at hi
    have hshort := hi leaf hl
    rw [hint, isTooLong] at hshort
    simpa using hshort
  · rw [hreal] at hl ⊢
    exact hr x hl

/-- The payload of a slice has distinct names if the objects in the slice have. -/
theorem distinctNames_payload (h : slice.Each Json.DistinctNames) :
    (Json.object slice.payload).DistinctNames := by
  have heach : slice.Each (Json.MadeOf fun _ => True) := h.mono fun _ hn => hn.madeOf fun _ _ => trivial
  exact (heach.payload (fun _ => trivial) trivial).distinctNames

/-- A snapshot that is written is read as the payload of its slice. -/
theorem read_of_write (hw : write disk folder clock slice = (.ok path, later))
    (hm : (Json.object slice.payload).MadeOf Json.Legible) :
    Snapshot.read later folder path.name = .ok (.object slice.payload) := by
  obtain ⟨clock', number, hpath⟩ := (outcome_of_write hw).written.isNamed
  have hchild : folder.child path.name = path := by rw [hpath, (name_isName clock' number).name_child]
  have hfind := (write_eq_ok hw).2
  have hfile : later.isFile path = .ok true := by
    rw [Disk.isFile, hfind]
    rfl
  have htext : Content.read (.text (text slice)) = .ok (text slice) := by
    rw [Content.read, text, Json.print, String.toList_ofList,
      Text.unifyNewlines_eq_self (Json.return_notMem_chars hm 0)]
  have hread : later.readJson path = .ok (.object slice.payload) :=
    readJson_eq_ok hfind htext (Json.read_print hm)
  rw [Snapshot.read, hchild, hfile]
  dsimp only
  rw [hread]

/-- A slice that is saved is read as its payload. It is not saved if a whole number in it has too many
digits, or if the disk refuses. -/
theorem read_of_save (hn : slice.Each Json.DistinctNames)
    (hr : (Json.object slice.payload).DoublesReadBack) :
    match save disk folder clock slice with
    | (.ok path, later) => Snapshot.read later folder path.name = .ok (.object slice.payload)
    | (.error .numberTooLong, _) => ∃ leaf ∈ (Json.object slice.payload).leaves, isTooLong leaf = true
    | (.error (.disk fault), later) => write disk folder clock slice = (.error fault, later) := by
  rcases hwrite : write disk folder clock slice with ⟨fault | path, later⟩
  · rw [save, hwrite]
  · cases hlong : (Json.object slice.payload).leaves.any isTooLong with
    | true =>
      rw [save, hwrite]
      dsimp only
      rw [hlong, if_pos rfl]
      exact List.any_eq_true.mp hlong
    | false =>
      rw [save_eq_ok hwrite hlong]
      exact read_of_write hwrite (madeOf_legible (distinctNames_payload hn) hr hlong)

end

end Snapshot

end ContextSlice
