import ContextSlice.Configuration.Store
import ContextSlice.Proofs.Disk.NullFree
import ContextSlice.Proofs.Disk.Overwriting
import ContextSlice.Proofs.Disk.Stations
import ContextSlice.Proofs.Datum.Reordered
import ContextSlice.Proofs.Steps
import ContextSlice.Shell.Libraries

/-!
# What the configuration file holds

If a table is read back as it was written (`Configuration.Restored`), then writing the configuration file
either succeeds, and the table is loaded from then on, or fails, and there is no configuration file, just as
there was none before (`Configuration.write_cases`): a file that is there can be written. Where there is no
file the table that is loaded is empty (`Configuration.load_of_no_file`), as long as the disk can tell
that there is none (`Configuration.Followed`). A file that is there is always written over, and if the table has
no text then nothing is left in it (`Configuration.write_of_file`, `Configuration.write_of_unwritable`). How
tables are read and written is left to the library of the host throughout.
-/

namespace ContextSlice.Configuration

/-- The content of the configuration file, if there is one. -/
def file? (host : Host) : Option Content :=
  match host.disk.find? host.configPath with
  | .ok (some (.file content)) => some content
  | _ => none

/-- A table is read back, but for the order of members, from the file that it is written to. -/
def Restored (toml : Toml.Library) (table : Members) : Prop :=
  ∃ text s found, toml.print table = .ok text ∧ (Content.text text).read = .ok s ∧
    toml.read s = .ok found ∧ Assoc.SameMap found table

/-- Whether there is a configuration file can be told. -/
def Followed (host : Host) : Prop := ∃ found, host.disk.find? host.configPath = .ok found

theorem configFile_isName : FilePath.IsName "config.toml" :=
  ⟨by decide, by decide, by decide, by decide⟩

section
variable {host : Host} {table : Members} {content : Content} {s name raw : String} {value : Json}

/-- No name on the path of the configuration file is too long for a disk. -/
theorem configPath_names (host : Host) :
    ∀ part ∈ host.configPath.parts, part.utf8ByteSize ≤ Disk.nameLimit := by
  have hparts : host.configPath.parts = host.configFolder.parts ++ ["config.toml"] := by
    rw [Host.configPath, configFile_isName.child]
  rw [hparts]
  exact List.forall_mem_append.mpr ⟨host.configNames, by decide⟩

/-- So whether there is a configuration file can be told whatever is written to the disk. -/
theorem Followed.withDisk (h : Followed host) (disk : Disk) : Followed (host.withDisk disk) :=
  Disk.exists_find?_eq_ok (configPath_names host) h disk

/-! ## Loading -/

/-- The table in the configuration file is read. -/
theorem content_of_file (h : host.disk.find? host.configPath = .ok (some (.file content)))
    (hs : content.read = .ok s) (ht : host.toml.read s = .ok table) :
    Configuration.content host = .ok (.inl table) := by
  have hhas : host.disk.has host.configPath = .ok true := by
    rw [Disk.has, h]
    rfl
  unfold Configuration.content
  rw [hhas, Disk.readText_of_find? h hs]
  dsimp only
  rw [ht]
  rfl

/-- A table that is read from the file is loaded. -/
theorem load_of_content (h : Configuration.content host = .ok (.inl table)) : load host = .ok table := by
  rw [load, h]
  rfl

/-- Without a configuration file nothing is loaded. -/
theorem load_of_no_file (hf : Followed host) (h : file? host = none) : load host = .ok [] := by
  obtain ⟨found, hfound⟩ := hf
  rcases found with _ | _ | content
  · have hhas : host.disk.has host.configPath = .ok false := by
      rw [Disk.has, hfound]
      rfl
    rw [load, content, hhas]
    rfl
  · have hhas : host.disk.has host.configPath = .ok true := by
      rw [Disk.has, hfound]
      rfl
    obtain ⟨place, hplace, hentry⟩ := Disk.find?_eq_some hfound
    rw [load, content, hhas, Disk.readText, Disk.content, hplace]
    dsimp only
    rw [hentry]
    rfl
  · rw [file?, hfound] at h
    cases h

/-! ## Writing -/

/-- There is no configuration file if there is none at its path. -/
theorem file?_eq_none (h : ∀ content, host.disk.find? host.configPath ≠ .ok (some (.file content))) :
    file? host = none := by
  unfold file?
  split
  · rename_i content hfile
    exact absurd hfile (h content)
  · rfl

/-- A table that is read back is written, and loaded from then on; or else there is no configuration file,
and there was none before. -/
theorem write_cases (host : Host) (hr : Restored host.toml table) :
    (∃ later found, write host table = (later, none) ∧ load (host.withDisk later) = .ok found ∧
      Assoc.SameMap found table) ∨
    ∃ later fault, write host table = (later, some fault) ∧ file? host = none ∧
      file? (host.withDisk later) = none := by
  obtain ⟨text, s, found, hprint, hread, htoml, hsame⟩ := hr
  obtain ⟨made, fault?, hmake⟩ : ∃ made fault?, host.disk.makeFolders host.configFolder = (made, fault?) :=
    ⟨_, _, rfl⟩
  have hgrows : host.disk.Grows made := by
    simpa only [hmake] using Disk.makeFolders_grows host.disk host.configFolder
  -- A file that is there before the folders are made is there afterwards.
  have hbefore (hnone : ∀ content, made.find? host.configPath ≠ .ok (some (.file content))) :
      file? host = none :=
    file?_eq_none fun content hfile => hnone content (hgrows.find?_eq_some hfile)
  cases fault? with
  | some fault =>
    have hnone : ∀ content, made.find? host.configPath ≠ .ok (some (.file content)) := fun content hfile =>
      Disk.makeFolders_eq_error hmake (Disk.find?_folder_of_child configFile_isName hfile)
    exact .inr ⟨made, .disk fault, by rw [write, hmake], hbefore hnone, file?_eq_none hnone⟩
  | none =>
    cases hlater : made.write host.configPath text with
    | ok later =>
      have hwrite : write host table = (later, none) := by simp only [write, hmake, hprint, hlater]
      have hcontent : Configuration.content (host.withDisk later) = .ok (.inl found) :=
        content_of_file (Disk.find?_of_write hlater) hread htoml
      exact .inl ⟨later, found, hwrite, load_of_content hcontent, hsame⟩
    | error fault =>
      have hwrite : write host table = (made, some (.disk fault)) := by
        simp only [write, hmake, hprint, hlater]
      have hnone := Disk.write_eq_error hlater
      exact .inr ⟨made, .disk fault, hwrite, hbefore hnone, file?_eq_none hnone⟩

/-! ## Writing over a file -/

theorem file?_of_find? (h : host.disk.find? host.configPath = .ok (some (.file content))) :
    file? host = some content := by
  rw [file?, h]

theorem find?_of_file? (h : file? host = some content) :
    host.disk.find? host.configPath = .ok (some (.file content)) := by
  unfold file? at h
  split at h
  · rename_i hfile
    cases h
    exact hfile
  · cases h

/-- Where there is a configuration file any text can be written to it. -/
theorem exists_write (h : file? host = some content) (text : String) :
    host.disk.makeFolders host.configFolder = (host.disk, none) ∧
      ∃ later, host.disk.write host.configPath text = .ok later ∧
        file? (host.withDisk later) = some (.text text) := by
  have hfile := find?_of_file? h
  refine ⟨Disk.makeFolders_of_folder (Disk.find?_folder_of_child configFile_isName hfile), ?_⟩
  cases hwrite : host.disk.write host.configPath text with
  | ok later => exact ⟨later, rfl, file?_of_find? (Disk.find?_of_write hwrite)⟩
  | error fault => exact absurd hfile (Disk.write_eq_error hwrite content)

/-- Where there is a configuration file, a table that has a text is written over it. -/
theorem write_of_file {text : String} (h : file? host = some content) (hp : host.toml.print table = .ok text) :
    ∃ later, write host table = (later, none) ∧ file? (host.withDisk later) = some (.text text) := by
  obtain ⟨hfolder, later, hwrite, hfile⟩ := exists_write h text
  exact ⟨later, by simp only [write, hfolder, hp, hwrite], hfile⟩

/-- A table that has none leaves an empty file there. -/
theorem write_of_unwritable {error : LibraryError} (h : file? host = some content)
    (hp : host.toml.print table = .error error) :
    ∃ later, write host table = (later, some (.unwritable error)) ∧
      file? (host.withDisk later) = some (.text "") := by
  obtain ⟨hfolder, later, hwrite, hfile⟩ := exists_write h ""
  exact ⟨later, by simp only [write, hfolder, hp, hwrite], hfile⟩

/-- A table that has been written is the configuration file. -/
theorem file?_of_write {later : Disk} (h : write host table = (later, none)) :
    ∃ text, host.toml.print table = .ok text ∧ file? (host.withDisk later) = some (.text text) := by
  unfold write at h
  split at h
  · cases h
  · cases hprint : host.toml.print table with
    | error error =>
      rw [hprint] at h
      dsimp only at h
      split at h <;> cases h
    | ok text =>
      rw [hprint] at h
      dsimp only at h
      split at h
      · rename_i hwrite
        cases h
        exact ⟨text, rfl, file?_of_find? (Disk.find?_of_write hwrite)⟩
      · cases h

theorem load_of_file (h : file? host = some content) (hs : content.read = .ok s)
    (ht : host.toml.read s = .ok table) : load host = .ok table :=
  load_of_content (content_of_file (find?_of_file? h) hs ht)

/-! ## Saving a setting -/

/-- Where there is a configuration file a setting is saved if its table has a text. -/
theorem save_of_file {text : String} (h : file? host = some content)
    (hc : changed host name raw = .ok (value, table)) (hp : host.toml.print table = .ok text) :
    ∃ later, save host name raw = (.ok value, later) ∧ file? (host.withDisk later) = some (.text text) := by
  obtain ⟨later, hwrite, hfile⟩ := write_of_file h hp
  exact ⟨later, by simp only [save, hc, writing, hwrite], hfile⟩

/-- A setting that is saved has been written with its table. -/
theorem of_save_eq_ok {later : Disk} (h : save host name raw = (.ok value, later)) :
    ∃ table, changed host name raw = .ok (value, table) ∧ write host table = (later, none) := by
  unfold save at h
  split at h
  · rename_i found table hchanged
    unfold writing at h
    split at h
    · rename_i hwrite
      cases h
      exact ⟨table, hchanged, hwrite⟩
    · cases h
  · cases h

end

/-! ## A host with a configuration file -/

/-- A host that has a configuration file with some text, and nothing else on its disk. -/
def holding (text : String) : Host :=
  { Shell.libraries with
    disk := ⟨[(["home"], .folder), (["home", "config.toml"], .file (.text text))]⟩
    workingFolder := ⟨0, []⟩
    home := ⟨0, ["userhome"]⟩
    accounts := []
    configFolder := ⟨0, ["home"]⟩
    documentVariable := none
    outputVariable := none
    clock := default }

theorem place_holding (text : String) :
    (holding text).disk.place (holding text).configPath = .ok ["home", "config.toml"] := by
  have hnull : (holding "").configPath.NullFree := by decide
  exact Disk.place_of_nullFree hnull

theorem file?_holding (text : String) : file? (holding text) = some (.text text) :=
  file?_of_find? (Disk.find?_of_place (place_holding text))

end ContextSlice.Configuration
