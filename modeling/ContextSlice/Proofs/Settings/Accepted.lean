import ContextSlice.Proofs.Steps
import ContextSlice.Proofs.Text.LowerCase
import ContextSlice.Settings.Validation

/-!
# Settings that are accepted

Data are accepted as settings if each setting is read from its own datum (`Settings.ReadFrom`,
`Settings.ofMembers_eq_ok_iff`), so no datum matters to another setting, whatever reads them. File suffixes
that have been accepted begin with a point and are in lower case (`Settings.NormalSuffix`), and stay as they
are if they are given again (`Settings.normalSuffixes_eq_self`).
-/

namespace ContextSlice

/-- A checked application succeeds if, and only if, both of its parts do. -/
theorem Checked.apply_eq_ok_iff {α β : Type} {f : Checked (α → β)} {x : Checked α} {y : β} :
    Checked.apply f x = .ok y ↔ ∃ g a, f = .ok g ∧ x = .ok a ∧ g a = y := by
  rcases f with faults | f <;> rcases x with faults' | x <;> simp [Checked.apply]

namespace Settings

/-- Every setting is read from the datum under its name, or is the default. -/
structure ReadFrom (reader : SettingReader) (values : Members) (settings : Settings) : Prop where
  documentPath : setting values documentPathName (default : Settings).documentPath (readPath? reader) =
    .ok settings.documentPath
  outputFolder : setting values outputFolderName (default : Settings).outputFolder reader.path =
    .ok settings.outputFolder
  saveSnapshots : setting values saveSnapshotsName (default : Settings).saveSnapshots reader.bool =
    .ok settings.saveSnapshots
  dependencyKeys : textsSetting reader values dependencyKeysName (default : Settings).dependencyKeys =
    .ok settings.dependencyKeys
  fileSuffixes : (textsSetting reader values fileSuffixesName (default : Settings).fileSuffixes).map
    normalSuffixes = .ok settings.fileSuffixes
  fileFields : textsSetting reader values fileFieldsName (default : Settings).fileFields =
    .ok settings.fileFields
  kindFields : textsSetting reader values kindFieldsName (default : Settings).kindFields =
    .ok settings.kindFields
  minSubstringLength : setting values minSubstringLengthName
    ⟨(default : Settings).minSubstringLength, (default : Settings).minSubstringLength_pos⟩
      (readPositive reader) =
    .ok ⟨settings.minSubstringLength, settings.minSubstringLength_pos⟩
  ambiguityPolicy : setting values ambiguityPolicyName (default : Settings).ambiguityPolicy
    (readPolicy reader) = .ok settings.ambiguityPolicy
  reverseScan : setting values reverseScanName (default : Settings).reverseScan reader.bool =
    .ok settings.reverseScan

section
variable {reader : SettingReader} {values : Members} {settings : Settings}

/-- Data are accepted if, and only if, every setting is read from its own datum. -/
theorem ofMembers_eq_ok_iff :
    ofMembers reader values = .ok settings ↔ ReadFrom reader values settings := by
  constructor
  · intro h
    simp only [ofMembers, Checked.apply_eq_ok_iff] at h
    obtain ⟨_, reverseScan, ⟨_, policy, ⟨_, minimum, ⟨_, kindFields, ⟨_, fileFields, ⟨_, suffixes,
      ⟨_, keys, ⟨_, save, ⟨_, folder, ⟨_, path, hf, hpath, rfl⟩, hfolder, rfl⟩, hsave, rfl⟩, hkeys, rfl⟩,
      hsuffixes, rfl⟩, hfields, rfl⟩, hkinds, rfl⟩, hminimum, rfl⟩, hpolicy, rfl⟩, hreverse, rfl⟩ := h
    cases hf
    exact ⟨hpath, hfolder, hsave, hkeys, by rw [hsuffixes]; rfl, hfields, hkinds, hminimum, hpolicy, hreverse⟩
  · intro h
    obtain ⟨suffixes, hsuffixes, hnormal⟩ := exists_of_map_eq_ok h.fileSuffixes
    simp only [ofMembers, h.documentPath, h.outputFolder, h.saveSnapshots, h.dependencyKeys, hsuffixes,
      h.fileFields, h.kindFields, h.minSubstringLength, h.ambiguityPolicy, h.reverseScan, Checked.apply,
      hnormal]

/-! ## File suffixes -/

/-- A file suffix as it is accepted: it begins with a point and is made of small letters. -/
structure NormalSuffix (suffix : String) : Prop where
  point : ∃ cs, suffix.toList = '.' :: cs
  small : ∀ c ∈ suffix.toList, Text.Small c

variable {suffix : String} {suffixes : List String}

/-- A file suffix as it is accepted is not empty. -/
theorem NormalSuffix.ne_empty (h : NormalSuffix suffix) : suffix ≠ "" := by
  rintro rfl
  obtain ⟨cs, hcs⟩ := h.point
  cases hcs

/-- It stays as it is in lower case. -/
theorem NormalSuffix.lower_eq (h : NormalSuffix suffix) : Text.lower suffix = suffix := by
  rw [Text.lower, Text.lowerChars, Text.lowerAfter_eq_self h.small, String.ofList_toList]

theorem small_point : Text.Small '.' := ⟨by decide, by decide⟩

/-- File suffixes are made normal: each gets its point and small letters. -/
theorem normal_of_mem_normalSuffixes (h : suffix ∈ normalSuffixes suffixes) : NormalSuffix suffix := by
  obtain ⟨raw, -, rfl⟩ := List.mem_map.mp h
  have hsmall : ∀ c ∈ (Text.lower raw).toList, Text.Small c := by
    rw [Text.lower, String.toList_ofList]
    exact fun c hc => Text.small_of_mem_lowerAfter hc
  split
  · rename_i hpoint
    refine ⟨?_, hsmall⟩
    obtain ⟨rest, hrest⟩ := List.isPrefixOf_iff_prefix.mp hpoint
    have hlower : (Text.lower raw).toList = Text.lowerChar '.' ++ Text.lowerAfter ['.'] rest := by
      rw [Text.lower, String.toList_ofList, ← hrest]
      rfl
    rw [hlower, small_point.lowerChar_eq]
    exact ⟨_, rfl⟩
  · have htext : ("." ++ Text.lower raw).toList = '.' :: (Text.lower raw).toList := String.toList_append
    refine ⟨⟨_, htext⟩, ?_⟩
    rw [htext]
    exact List.forall_mem_cons.mpr ⟨small_point, hsmall⟩

/-- File suffixes that have been accepted stay as they are if they are given again. -/
theorem normalSuffixes_eq_self (h : ∀ suffix ∈ suffixes, NormalSuffix suffix) :
    normalSuffixes suffixes = suffixes := by
  have hfilter : suffixes.filter (· ≠ "") = suffixes :=
    List.filter_eq_self.mpr fun suffix hs => decide_eq_true (h suffix hs).ne_empty
  rw [normalSuffixes, hfilter]
  refine (List.map_congr_left fun suffix hs => ?_).trans (List.map_id suffixes)
  obtain ⟨cs, hcs⟩ := (h suffix hs).point
  have hpoint : Text.startsWith suffix "." = true := by
    rw [Text.startsWith, hcs]
    rfl
  rw [if_pos hpoint, (h suffix hs).lower_eq, id]

/-- File suffixes are accepted in their normal form, whatever reads them. -/
theorem ReadFrom.normalSuffix (h : ReadFrom reader values settings) :
    ∀ suffix ∈ settings.fileSuffixes, NormalSuffix suffix := by
  obtain ⟨suffixes, -, hnormal⟩ := exists_of_map_eq_ok h.fileSuffixes
  rw [← hnormal]
  exact fun suffix => normal_of_mem_normalSuffixes

end

end Settings

end ContextSlice
