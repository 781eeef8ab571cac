import ContextSlice.Document.File
import ContextSlice.Proofs.Disk.Stations

/-!
# Loading documents

What is loaded depends on what the document's path leads to, and on nothing else that the host has
(`loadDocument_congr`). If the path can be followed and no number in the file has too many digits
(`Host.Reads`), then a document that cannot be loaded is always a reason to refuse
(`refuses_of_loadDocument`).
-/

namespace ContextSlice

/-- A host can follow the path of a document: there is the home folder with which it may begin, the disk
can tell what it leads to, and the whole numbers in the file there do not have too many digits. -/
structure Host.Reads (host : Host) (path : FilePath) : Prop where
  home : ∃ file, host.expand path = some file
  known : ∀ file, host.expand path = some file → ∀ fault, host.disk.find? file ≠ .error fault
  digits : ∀ file, host.expand path = some file →
    ∀ n, host.disk.readJson file ≠ .error (.malformed (.tooLong n))

section
variable {disk other : Disk} {host again : Host} {path file : FilePath} {path? : Option FilePath}

/-- What is read at a path depends on what the path leads to. -/
theorem readDocument_congr (h : disk.find? path = other.find? path) :
    readDocument disk path = readDocument other path := by
  have hfile : disk.isFile path = other.isFile path := by rw [Disk.isFile, Disk.isFile, h]
  rw [readDocument, readDocument, ← hfile]
  cases hf : disk.isFile path with
  | error fault => rfl
  | ok found =>
    cases found with
    | false => rfl
    | true =>
      obtain ⟨content, hcontent⟩ : ∃ content, disk.find? path = .ok (some (.file content)) := by
        unfold Disk.isFile at hf
        revert hf
        rcases disk.find? path with _ | _ | _ | content <;> simp [Except.map, Entry.isFile]
      have hread : disk.readJson path = other.readJson path := by
        rw [Disk.readJson, Disk.readJson, Disk.readText, Disk.readText,
          Disk.content_of_find? hcontent, Disk.content_of_find? (h ▸ hcontent)]
      dsimp only
      rw [hread]

/-- The value in the text of a file is read. -/
theorem readJson_eq_ok {content : Content} {s : String} {value : Json}
    (h : disk.find? path = .ok (some (.file content))) (hs : content.read = .ok s)
    (hv : Json.read s = .ok value) : disk.readJson path = .ok value := by
  rw [Disk.readJson, Disk.readText_of_find? h hs]
  dsimp only
  rw [hv]

/-- The value that is read from a file is made a document. -/
theorem readDocument_eq_ok {content : Content} {value : Json}
    (h : disk.find? path = .ok (some (.file content))) (hv : disk.readJson path = .ok value) :
    readDocument disk path = .ok (asDocument value) := by
  have hfile : disk.isFile path = .ok true := by
    rw [Disk.isFile, h]
    rfl
  rw [readDocument, hfile]
  dsimp only
  rw [hv]

/-- Where nothing is at the path the document is missing. -/
theorem readDocument_eq_missing (h : disk.find? path = .ok none) :
    readDocument disk path = .error (.missing path) := by
  have hfile : disk.isFile path = .ok false := by
    rw [Disk.isFile, h]
    rfl
  rw [readDocument, hfile]

/-- What is loaded depends on what the path leads to, wherever it begins. -/
theorem loadDocument_congr (he : again.expand = host.expand)
    (h : ∀ path, path? = some path → ∀ file, host.expand path = some file →
      again.disk.find? file = host.disk.find? file) :
    loadDocument again path? = loadDocument host path? := by
  cases path? with
  | none => rfl
  | some path =>
    rw [loadDocument, loadDocument, documentPath, documentPath, he]
    cases hfile : host.expand path with
    | none => rfl
    | some file => exact readDocument_congr (h path rfl file hfile)

/-- If the document's path can be followed, then a document that cannot be loaded is a reason to
refuse. -/
theorem refuses_of_loadDocument {fault : DocumentFault} (h : ∀ path, path? = some path → host.Reads path)
    (hf : loadDocument host path? = .error fault) : fault.refuses = true := by
  cases path? with
  | none =>
    cases hf
    rfl
  | some path =>
    obtain ⟨⟨file, hfile⟩, hknown, hdigits⟩ := h path rfl
    have hread : readDocument host.disk file = .error fault := by
      rw [loadDocument, documentPath, hfile] at hf
      exact hf
    unfold readDocument at hread
    split at hread
    · rename_i fault' hisFile
      unfold Disk.isFile at hisFile
      cases hfind : host.disk.find? file with
      | error fault => exact absurd hfind (hknown file hfile fault)
      | ok found => rw [hfind] at hisFile; cases hisFile
    · cases hread
      rfl
    · split at hread
      · cases hread
      · rename_i n hjson
        exact absurd hjson (hdigits file hfile n)
      · cases hread
        rfl

end

end ContextSlice
