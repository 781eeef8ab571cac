import ContextSlice.Proofs.Disk.Growth

/-!
# What following a path depends on

A path leads through certain places, its stations (`Disk.stations`), whatever is on the disk. Where two
disks have the same at all of them, the path leads to the same on both (`Disk.find?_congr`); what else is
on the disks does not matter.
-/

namespace ContextSlice.Disk

/-- The places that names lead through from a place on, and the one that they lead to. -/
def stationsFrom (here : Place) : List String → List Place
  | [] => [here]
  | part :: parts => here :: stationsFrom (if part = ".." then here.up else here ++ [part]) parts

/-- The places that a path leads through, and the one that it leads to. -/
def stations (path : FilePath) : List Place := stationsFrom (start path) path.parts

section
variable {disk other : Disk} {here : Place} {parts : List String} {path : FilePath}

/-- Names lead to one of their stations. -/
theorem mem_stationsFrom {place : Place} (h : disk.locate here parts = .ok place) :
    place ∈ stationsFrom here parts := by
  induction parts generalizing here with
  | nil =>
    cases h
    exact List.mem_cons_self
  | cons part parts ih =>
    unfold locate at h
    split at h
    · cases h
    · cases h
    · split at h
      · cases h
      · exact List.mem_cons_of_mem _ (ih h)

/-- Names lead to the same place on disks that have the same at their stations. -/
theorem locate_congr (h : ∀ place ∈ stationsFrom here parts, disk.entry? place = other.entry? place) :
    disk.locate here parts = other.locate here parts := by
  induction parts generalizing here with
  | nil => rfl
  | cons part parts ih =>
    obtain ⟨hhere, hrest⟩ := List.forall_mem_cons.mp h
    rw [locate, locate, hhere, ih hrest]

/-- A path leads to the same on disks that have the same at its stations. -/
theorem find?_congr (h : ∀ place ∈ stations path, disk.entry? place = other.entry? place) :
    disk.find? path = other.find? path := by
  have hplace : disk.place path = other.place path := by
    rw [place, place, locate_congr h]
  cases hp : disk.place path with
  | error problem => cases problem <;> rw [find?, find?, ← hplace, hp]
  | ok place =>
    have hlocate : disk.locate (start path) path.parts = .ok place := by
      unfold Disk.place at hp
      split at hp
      · cases hp
      · split at hp
        · cases hp
        · exact hp
    rw [find?_of_place hp, find?_of_place (hplace ▸ hp), h place (mem_stationsFrom hlocate)]

/-- A path that leads to a file leads to its content. -/
theorem content_of_find? {content : Content} (h : disk.find? path = .ok (some (.file content))) :
    disk.content path = .ok content := by
  obtain ⟨place, hplace, hentry⟩ := find?_eq_some h
  rw [Disk.content, hplace]
  dsimp only
  rw [hentry]

/-- The text of the file that a path leads to is read. -/
theorem readText_of_find? {content : Content} {s : String}
    (h : disk.find? path = .ok (some (.file content))) (hs : content.read = .ok s) :
    disk.readText path = .ok s := by
  rw [readText, content_of_find? h]
  dsimp only
  rw [hs]

end

end ContextSlice.Disk
