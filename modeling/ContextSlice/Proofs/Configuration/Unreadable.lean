import ContextSlice.Proofs.Configuration.Store

/-!
# Saving a setting where the file cannot be read

A configuration file whose text the reader of tables calls malformed counts as empty. So if a setting would be
accepted as the only one (`Configuration.accepted`), then saving it leaves a file with this setting and nothing
else, and if the writer of tables refuses it, an empty file (`Configuration.save_of_unread`). If the setting is
not accepted, or reading the text breaks off with another error, then saving fails and the file stays. All of
this holds whatever the reader and the writer are.
-/

namespace ContextSlice.Configuration

/-- The value that a text stands for, if it is accepted as the only setting. -/
def accepted (host : Host) (name raw : String) : Except ConfigFault Json := do
  let value ← coerce name raw
  let _ ← validate host [(name, .ofJson value)]
  pure value

/-- The table of a configuration file with one setting and nothing else. -/
def loneSetting (name : String) (value : Json) : Members :=
  [(contextKey, .object [(name, .ofJson value)])]

/-- There is a configuration file, and its text is read as no table. -/
structure Unread (host : Host) (content : Content) (fault : Toml.Fault) : Prop where
  file : file? host = some content
  text : ∃ s, content.read = .ok s ∧ host.toml.read s = .error fault

section
variable {host : Host} {content : Content} {name raw message : String} {value : Json} {fault : Toml.Fault}
  {error : LibraryError}

/-! ## A file that is no table -/

/-- A malformed text counts as no table, any other faulty text as a failure. -/
theorem Unread.content_eq (h : Unread host content fault) :
    Configuration.content host =
      match fault with
      | .malformed message => .ok (.inr message)
      | .broken error => .error (.unreadable error) := by
  obtain ⟨s, hs, hr⟩ := h.text
  have hfile := find?_of_file? h.file
  have hhas : host.disk.has host.configPath = .ok true := by
    rw [Disk.has, hfile]
    rfl
  rw [Configuration.content, hhas, Disk.readText_of_find? hfile hs]
  dsimp only
  rw [hr]
  cases fault <;> rfl

/-- From a malformed text nothing is loaded. -/
theorem Unread.load_eq_nil (h : Unread host content (.malformed message)) : load host = .ok [] := by
  rw [load, h.content_eq]
  rfl

/-- Where reading breaks off, so does loading. -/
theorem Unread.load_eq_error (h : Unread host content (.broken error)) :
    load host = .error (.unreadable error) := by
  rw [load, h.content_eq]
  rfl

/-- What is loaded as nothing is changed into the setting alone. -/
theorem changed_of_load (h : load host = .ok []) :
    changed host name raw = (accepted host name raw).map fun value => (value, loneSetting name value) := by
  rw [changed, accepted, h]
  cases coerce name raw with
  | error fault => rfl
  | ok value =>
    have hput : Assoc.put name (.ofJson value) [] = [(name, Datum.ofJson value)] := rfl
    simp only [bind, Except.bind, contextTable, List.lookup_nil, hput]
    cases validate host [(name, .ofJson value)] <;> rfl

/-- A table cannot be changed if it cannot be loaded. -/
theorem changed_eq_error {other : ConfigFault} (name raw : String) (h : load host = .error other) :
    ∃ fault, changed host name raw = .error fault := by
  rw [changed, h]
  cases coerce name raw with
  | error fault => exact ⟨fault, rfl⟩
  | ok value => exact ⟨other, rfl⟩

/-! ## Saving -/

/-- A setting that is saved where nothing is loaded from the file is all that the file holds then. -/
theorem save_alone {text : String} (hf : file? host = some content) (hl : load host = .ok [])
    (ha : accepted host name raw = .ok value) (hp : host.toml.print (loneSetting name value) = .ok text) :
    ∃ later, save host name raw = (.ok value, later) ∧
      file? (host.withDisk later) = some (.text text) := by
  have hchanged : changed host name raw = .ok (value, loneSetting name value) := by
    rw [changed_of_load hl, ha]
    rfl
  exact save_of_file hf hchanged hp

/-- A setting that cannot be written leaves an empty file. -/
theorem save_unwritable (hf : file? host = some content) (hl : load host = .ok [])
    (ha : accepted host name raw = .ok value)
    (hp : host.toml.print (loneSetting name value) = .error error) :
    ∃ later, save host name raw = (.error (.unwritable error), later) ∧
      file? (host.withDisk later) = some (.text "") := by
  obtain ⟨later, hwrite, hfile⟩ := write_of_unwritable hf hp
  refine ⟨later, ?_, hfile⟩
  rw [save, changed_of_load hl, ha]
  simp only [Except.map, writing, hwrite]

end

/-- If there is a configuration file and its text is read as no table, then saving a setting fails and leaves
the file as it is, unless the text is malformed and the setting would be accepted as the only one. In this
case nothing of the text remains: the file holds the setting alone, or nothing if the setting cannot be
written. -/
theorem save_of_unread {host : Host} {content : Content} {fault : Toml.Fault} (name raw : String)
    (h : Unread host content fault) :
    (∀ error, fault = .broken error → ∃ other, save host name raw = (.error other, host.disk)) ∧
    (∀ message, fault = .malformed message →
      (∀ other, accepted host name raw = .error other → save host name raw = (.error other, host.disk)) ∧
      ∀ value, accepted host name raw = .ok value →
        (∀ text, host.toml.print (loneSetting name value) = .ok text →
          ∃ later, save host name raw = (.ok value, later) ∧
            file? (host.withDisk later) = some (.text text)) ∧
        ∀ error, host.toml.print (loneSetting name value) = .error error →
          ∃ later, save host name raw = (.error (.unwritable error), later) ∧
            file? (host.withDisk later) = some (.text "")) := by
  refine ⟨fun error hbroken => ?_, fun message hmalformed => ?_⟩
  · subst hbroken
    obtain ⟨other, hchanged⟩ := changed_eq_error name raw h.load_eq_error
    exact ⟨other, by rw [save, hchanged]⟩
  · subst hmalformed
    have hload := h.load_eq_nil
    refine ⟨fun other hother => ?_, fun value hvalue => ⟨fun text htext => ?_, fun error herror => ?_⟩⟩
    · rw [save, changed_of_load hload, hother]
      rfl
    · exact save_alone h.file hload hvalue htext
    · exact save_unwritable h.file hload hvalue herror

/-- A text whose second header is not closed. -/
def tornText : String := "[other]\nx = 1\n[context\n"

theorem unread_tornText : Unread (holding tornText) (.text tornText) Shell.Toml.Fault.malformed.error where
  file := file?_holding tornText
  text := ⟨tornText, by decide⟩

/-- A truth value that is saved where the file has such a text. -/
theorem accepted_tornText : accepted (holding tornText) "reverse_scan" "true" = .ok (.bool true) ∧
    (holding tornText).toml.print (loneSetting "reverse_scan" (.bool true)) =
      .ok "[context]\nreverse_scan = true\n" := by decide

/-- Settings of which one is accepted and one cannot be written, saved where the file has such a text. -/
theorem save_of_unread_torn :
    Unread (holding tornText) (.text tornText) Shell.Toml.Fault.malformed.error ∧
    (∃ later, save (holding tornText) "reverse_scan" "true" = (.ok (.bool true), later) ∧
      file? ((holding tornText).withDisk later) = some (.text "[context]\nreverse_scan = true\n")) ∧
    (∃ fault, save (holding tornText) "min_substring_length" "0" = (.error fault, (holding tornText).disk)) ∧
    ∃ later, save (holding tornText) "output_dir" "\x01" =
      (.error (.unwritable Shell.Toml.PrintFault.text.error), later) ∧
      file? ((holding tornText).withDisk later) = some (.text "") := by
  have h := unread_tornText
  obtain ⟨hbool, hprint⟩ := accepted_tornText
  have hzero : (accepted (holding tornText) "min_substring_length" "0").toOption = none := by decide
  obtain ⟨hfolder, hfolderPrint⟩ : accepted (holding tornText) "output_dir" "\x01" = .ok (.text "\x01") ∧
      (holding tornText).toml.print (loneSetting "output_dir" (.text "\x01")) =
        .error Shell.Toml.PrintFault.text.error := by decide
  refine ⟨h, ?_, ?_, ?_⟩
  · exact (((save_of_unread _ _ h).2 _ rfl).2 _ hbool).1 _ hprint
  · cases hfault : accepted (holding tornText) "min_substring_length" "0" with
    | ok value =>
      rw [hfault] at hzero
      cases hzero
    | error fault => exact ⟨fault, ((save_of_unread _ _ h).2 _ rfl).1 _ hfault⟩
  · exact (((save_of_unread _ _ h).2 _ rfl).2 _ hfolder).2 _ hfolderPrint

/-- Saving a setting may succeed and replace a text that could not be read. -/
theorem not_forall_file_kept :
    ¬ ∀ (host : Host) (content : Content) (fault : Toml.Fault) (name raw : String),
      Unread host content fault →
      (∃ other, (save host name raw).1 = .error other) ∨
        file? (host.withDisk (save host name raw).2) = file? host := by
  intro hkept
  have h := unread_tornText
  obtain ⟨hbool, hprint⟩ := accepted_tornText
  obtain ⟨later, hsave, hfile⟩ := save_alone h.file h.load_eq_nil hbool hprint
  have hsame := hkept _ _ _ "reverse_scan" "true" h
  rw [hsave, hfile, h.file] at hsame
  rcases hsame with ⟨other, hother⟩ | hsame
  · cases hother
  · exact absurd (Content.text.inj (Option.some.inj hsame)) (by decide)

end ContextSlice.Configuration
