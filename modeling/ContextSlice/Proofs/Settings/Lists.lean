import ContextSlice.Proofs.Assoc
import ContextSlice.Proofs.Settings.Accepted

/-!
# Lists among the settings

Data that are accepted stay so with a further one that is accepted alone (`Settings.exists_ofMembers_put`).
If the reader of settings takes texts as they are (`SettingReader.TakesTexts`), then this is so of a list of
texts for each setting that is a list, and of a text for each that is a path
(`Settings.exists_ofMembers_texts`, `Settings.exists_ofMembers_path`). Such a setting is the list that
was given, or the file suffixes made from it (`Settings.lookup_members_of_texts`), which give themselves if
they are given again (`Settings.takenItems_takenItems`).
-/

namespace ContextSlice

/-- The reader reads a list of texts as these texts, and a text as the path that it stands for. -/
structure SettingReader.TakesTexts (reader : SettingReader) : Prop where
  texts : ∀ items, reader.texts (.texts items) = .ok items
  path : ∀ s, reader.path (.text s) = .ok (FilePath.ofText s)

namespace Settings

/-- The settings that are lists of texts. -/
def listNames : List String := [dependencyKeysName, fileFieldsName, fileSuffixesName, kindFieldsName]

/-- The settings that are paths. -/
def pathNames : List String := [documentPathName, outputFolderName]

/-- The texts that a setting has if some texts are given for it. -/
def takenItems (name : String) (items : List String) : List String :=
  if name = fileSuffixesName then normalSuffixes items else items

section
variable {α : Type} {reader : SettingReader} {values others pairs : Members} {name key : String}
  {value : Datum} {default x y : α} {read : Datum → Except SettingProblem α} {settings alone : Settings}
  {items given other : List String}

/-! ## One more value -/

/-- A setting depends on its own datum alone. -/
theorem setting_congr (h : values.lookup key = others.lookup key) :
    setting values key default read = setting others key default read := by
  rw [setting, setting, h]

/-- So does one that is a list. -/
theorem textsSetting_congr (h : values.lookup key = others.lookup key) :
    textsSetting reader values key given = textsSetting reader others key given := by
  rw [textsSetting, textsSetting, h]

/-- A value that was put is looked up as if it were alone, and the others as before. -/
theorem lookup_put_cases (values : Members) (name key : String) (value : Datum) :
    (Assoc.put name value values).lookup key = [(name, value)].lookup key ∨
      (Assoc.put name value values).lookup key = values.lookup key := by
  by_cases h : key = name
  · subst h
    exact .inl (by rw [Assoc.lookup_put_self, List.lookup_cons_self])
  · exact .inr (Assoc.lookup_put_of_ne values value h)

/-- A setting that is read from the data and from one more datum alone is read from them together. -/
theorem exists_setting_put (h : setting values key default read = .ok x)
    (ha : setting [(name, value)] key default read = .ok y) :
    ∃ z, setting (Assoc.put name value values) key default read = .ok z := by
  rcases lookup_put_cases values name key value with hlookup | hlookup
  · exact ⟨y, (setting_congr hlookup).trans ha⟩
  · exact ⟨x, (setting_congr hlookup).trans h⟩

/-- The same holds of a setting that is a list. -/
theorem exists_textsSetting_put (h : textsSetting reader values key given = .ok items)
    (ha : textsSetting reader [(name, value)] key given = .ok other) :
    ∃ texts, textsSetting reader (Assoc.put name value values) key given = .ok texts := by
  rcases lookup_put_cases values name key value with hlookup | hlookup
  · exact ⟨other, (textsSetting_congr hlookup).trans ha⟩
  · exact ⟨items, (textsSetting_congr hlookup).trans h⟩

/-- Values that are accepted stay so with one that is accepted alone. -/
theorem exists_ofMembers_put (h : ofMembers reader values = .ok settings)
    (ha : ofMembers reader [(name, value)] = .ok alone) :
    ∃ later, ofMembers reader (Assoc.put name value values) = .ok later := by
  rw [ofMembers_eq_ok_iff] at h ha
  obtain ⟨path, hpath⟩ := exists_setting_put h.documentPath ha.documentPath
  obtain ⟨folder, hfolder⟩ := exists_setting_put h.outputFolder ha.outputFolder
  obtain ⟨save, hsave⟩ := exists_setting_put h.saveSnapshots ha.saveSnapshots
  obtain ⟨keys, hkeys⟩ := exists_textsSetting_put h.dependencyKeys ha.dependencyKeys
  obtain ⟨before, hbefore, -⟩ := exists_of_map_eq_ok h.fileSuffixes
  obtain ⟨lone, hlone, -⟩ := exists_of_map_eq_ok ha.fileSuffixes
  obtain ⟨suffixes, hsuffixes⟩ := exists_textsSetting_put hbefore hlone
  obtain ⟨fields, hfields⟩ := exists_textsSetting_put h.fileFields ha.fileFields
  obtain ⟨kinds, hkinds⟩ := exists_textsSetting_put h.kindFields ha.kindFields
  obtain ⟨minimum, hminimum⟩ := exists_setting_put h.minSubstringLength ha.minSubstringLength
  obtain ⟨policy, hpolicy⟩ := exists_setting_put h.ambiguityPolicy ha.ambiguityPolicy
  obtain ⟨reverse, hreverse⟩ := exists_setting_put h.reverseScan ha.reverseScan
  have hread : ReadFrom reader (Assoc.put name value values) ⟨path, folder, save, keys, normalSuffixes suffixes,
      fields, kinds, minimum.val, policy, reverse, minimum.property⟩ :=
    ⟨hpath, hfolder, hsave, hkeys, by rw [hsuffixes]; rfl, hfields, hkinds, hminimum, hpolicy, hreverse⟩
  exact ⟨_, ofMembers_eq_ok_iff.mpr hread⟩

/-- The same holds of several values, each of which is accepted alone. -/
theorem exists_ofMembers_foldl (h : ∃ settings, ofMembers reader values = .ok settings)
    (hp : ∀ pair ∈ pairs, ∃ alone, ofMembers reader [(pair.1, pair.2)] = .ok alone) :
    ∃ later, ofMembers reader (pairs.foldl (fun values pair => Assoc.put pair.1 pair.2 values) values) =
      .ok later := by
  induction pairs generalizing values with
  | nil => exact h
  | cons pair pairs ih =>
    obtain ⟨settings, hsettings⟩ := h
    obtain ⟨⟨alone, halone⟩, hpairs⟩ := List.forall_mem_cons.mp hp
    exact ih (exists_ofMembers_put hsettings halone) hpairs

/-- Data that are put under other keys do not matter to a key. -/
theorem lookup_foldl_put (hp : ∀ pair ∈ pairs, pair.1 ≠ key) :
    (pairs.foldl (fun values pair => Assoc.put pair.1 pair.2 values) values).lookup key =
      values.lookup key := by
  induction pairs generalizing values with
  | nil => rfl
  | cons pair pairs ih =>
    obtain ⟨hpair, hpairs⟩ := List.forall_mem_cons.mp hp
    exact (ih hpairs).trans (Assoc.lookup_put_of_ne values pair.2 (Ne.symm hpair))

/-! ## Lists of texts -/

/-- A list of texts is read as these texts. -/
theorem textsSetting_of_lookup (hr : reader.TakesTexts) (h : values.lookup key = some (.texts items)) :
    textsSetting reader values key given = .ok items := by
  rw [textsSetting, h]
  dsimp only
  rw [hr.texts]

/-- A datum for one setting leaves the others at their defaults. -/
theorem setting_alone (h : key ≠ name) : setting [(name, value)] key default read = .ok default := by
  rw [setting, List.lookup_cons, beq_false_of_ne h]
  rfl

/-- A datum that can be read is the value of its setting, and the others have their defaults. -/
theorem setting_alone_of_read (h : read value = .ok x) :
    setting [(name, value)] key default read = .ok (if key = name then x else default) := by
  split
  · rename_i hkey
    subst hkey
    rw [setting, List.lookup_cons_self]
    dsimp only
    rw [h]
  · rename_i hkey
    exact setting_alone hkey

theorem textsSetting_of_ne (h : key ≠ name) :
    textsSetting reader [(name, value)] key given = .ok given := by
  rw [textsSetting, List.lookup_cons, beq_false_of_ne h]
  rfl

/-- A list of texts is the value of its setting, and the others have their defaults. -/
theorem textsSetting_alone (hr : reader.TakesTexts) (name key : String) (items given : List String) :
    textsSetting reader [(name, .texts items)] key given = .ok (if key = name then items else given) := by
  split
  · rename_i h
    subst h
    exact textsSetting_of_lookup hr List.lookup_cons_self
  · rename_i h
    exact textsSetting_of_ne h

/-- A list of texts is accepted for each setting that is a list. -/
theorem exists_ofMembers_texts (hr : reader.TakesTexts) (hn : name ∈ listNames) (items : List String) :
    ∃ settings, ofMembers reader [(name, .texts items)] = .ok settings := by
  have hne {key : String} (hk : key ∉ listNames) : key ≠ name := by
    rintro rfl
    exact hk hn
  let texts (key : String) (given : List String) : List String := if key = name then items else given
  let settings : Settings := { (default : Settings) with
    dependencyKeys := texts dependencyKeysName (default : Settings).dependencyKeys
    fileSuffixes := normalSuffixes (texts fileSuffixesName (default : Settings).fileSuffixes)
    fileFields := texts fileFieldsName (default : Settings).fileFields
    kindFields := texts kindFieldsName (default : Settings).kindFields }
  have hread : ReadFrom reader [(name, .texts items)] settings :=
    { documentPath := setting_alone (hne (by decide))
      outputFolder := setting_alone (hne (by decide))
      saveSnapshots := setting_alone (hne (by decide))
      dependencyKeys := textsSetting_alone hr ..
      fileSuffixes := by rw [textsSetting_alone hr]; rfl
      fileFields := textsSetting_alone hr ..
      kindFields := textsSetting_alone hr ..
      minSubstringLength := setting_alone (hne (by decide))
      ambiguityPolicy := setting_alone (hne (by decide))
      reverseScan := setting_alone (hne (by decide)) }
  exact ⟨settings, ofMembers_eq_ok_iff.mpr hread⟩

/-- A text is accepted for each setting that is a path. -/
theorem exists_ofMembers_path (hr : reader.TakesTexts) (hn : name ∈ pathNames) (s : String) :
    ∃ settings, ofMembers reader [(name, .text s)] = .ok settings := by
  have hne {key : String} (hk : key ∉ pathNames) : key ≠ name := by
    rintro rfl
    exact hk hn
  have hpath : readPath? reader (.text s) = .ok (some (FilePath.ofText s)) := by
    rw [readPath?, if_neg (by simp [Datum.text]), hr.path]
    rfl
  let settings : Settings := { (default : Settings) with
    documentPath := if documentPathName = name then some (FilePath.ofText s) else none
    outputFolder := if outputFolderName = name then FilePath.ofText s else (default : Settings).outputFolder
    fileSuffixes := normalSuffixes (default : Settings).fileSuffixes }
  have hread : ReadFrom reader [(name, .text s)] settings :=
    { documentPath := setting_alone_of_read hpath
      outputFolder := setting_alone_of_read (hr.path s)
      saveSnapshots := setting_alone (hne (by decide))
      dependencyKeys := textsSetting_of_ne (hne (by decide))
      fileSuffixes := by rw [textsSetting_of_ne (hne (by decide))]; rfl
      fileFields := textsSetting_of_ne (hne (by decide))
      kindFields := textsSetting_of_ne (hne (by decide))
      minSubstringLength := setting_alone (hne (by decide))
      ambiguityPolicy := setting_alone (hne (by decide))
      reverseScan := setting_alone (hne (by decide)) }
  exact ⟨settings, ofMembers_eq_ok_iff.mpr hread⟩

/-- A setting that is a list has the texts that were given for it. -/
theorem lookup_members_of_texts (hr : reader.TakesTexts) (h : ofMembers reader values = .ok settings)
    (hn : name ∈ listNames) (hv : values.lookup name = some (.texts items)) :
    settings.members.lookup name = some (.texts (takenItems name items)) := by
  have hread := ofMembers_eq_ok_iff.mp h
  simp only [listNames, List.mem_cons, List.not_mem_nil, or_false] at hn
  rcases hn with rfl | rfl | rfl | rfl
  · have hkeys := (textsSetting_of_lookup hr hv).symm.trans hread.dependencyKeys
    rw [Except.ok.inj hkeys]
    rfl
  · have hfields := (textsSetting_of_lookup hr hv).symm.trans hread.fileFields
    rw [Except.ok.inj hfields]
    rfl
  · have hsuffixes := hread.fileSuffixes
    rw [textsSetting_of_lookup hr hv] at hsuffixes
    have htaken : takenItems fileSuffixesName items = settings.fileSuffixes := Except.ok.inj hsuffixes
    rw [htaken]
    rfl
  · have hkinds := (textsSetting_of_lookup hr hv).symm.trans hread.kindFields
    rw [Except.ok.inj hkinds]
    rfl

/-- The texts that a setting has may be given for it again. -/
theorem takenItems_takenItems (name : String) (items : List String) :
    takenItems name (takenItems name items) = takenItems name items := by
  unfold takenItems
  split
  · exact normalSuffixes_eq_self fun suffix => normal_of_mem_normalSuffixes
  · rfl

end

end Settings

end ContextSlice
