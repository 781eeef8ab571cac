import ContextSlice.Datum
import ContextSlice.Settings.Basic
import ContextSlice.Text.LowerCase
import ContextSlice.Text.Search

/-!
# Checking settings

Settings are given as data under their names (`Settings.ofMembers`). What datum counts as a truth
value, a whole number, a path, a list of texts or one of some names is left to a library, the
`SettingReader`; here it is said which setting is read as what, which defaults there are, that the
least length of a text is not smaller than one, and how file suffixes are made alike. All data that do not fit are
reported together, in the order of the settings (`SettingFault`); names that are no settings are
ignored, and a setting that is not given has its default.
-/

namespace ContextSlice

/-- What is wrong with a datum: a short name for it, and words. -/
structure SettingProblem where
  code : String
  message : String
  deriving DecidableEq, Repr

/-- A datum that does not fit: the position within its list if it is an item of one, the problem
and the datum itself. -/
structure DatumFault where
  position : Option Nat
  problem : SettingProblem
  value : Datum
  deriving DecidableEq, Repr

/-- A datum that does not fit, and the setting that it was given for. -/
structure SettingFault extends DatumFault where
  name : String
  deriving DecidableEq, Repr

/-- A library that reads data as values of settings. A reader of texts reads the items of a list,
and tells about all that do not fit; a choice is read as the position of a name among some. The
report is what is told about all faults of the data that are given for a model. -/
structure SettingReader where
  bool : Datum → Except SettingProblem Bool
  int : Datum → Except SettingProblem Int
  path : Datum → Except SettingProblem FilePath
  texts : Datum → Except (List DatumFault) (List String)
  choice : (names : List String) → Datum → Except SettingProblem (Fin names.length)
  tooSmall : (least : Int) → SettingProblem
  report : (model : String) → List SettingFault → String

/-- A result, or everything that stands in its way. -/
abbrev Checked (α : Type) := Except (List SettingFault) α

/-- Applies a checked function to a checked value; the faults of both are kept. -/
def Checked.apply {α β : Type} (f : Checked (α → β)) (x : Checked α) : Checked β :=
  match f, x with
  | .ok f, .ok x => .ok (f x)
  | .ok _, .error faults => .error faults
  | .error faults, .ok _ => .error faults
  | .error faults, .error more => .error (faults ++ more)

namespace Settings

/-- The name of the settings as a model of data. -/
def modelName : String := "ContextSettings"

variable (reader : SettingReader)

/-- Reads a whole number from one on. -/
def readPositive (value : Datum) : Except SettingProblem { n : Nat // 1 ≤ n } := do
  let n ← reader.int value
  if h : 1 ≤ n then pure ⟨n.toNat, by omega⟩ else .error (reader.tooSmall 1)

/-- Reads the name of a policy. -/
def readPolicy (value : Datum) : Except SettingProblem AmbiguityPolicy :=
  (reader.choice (AmbiguityPolicy.list.map AmbiguityPolicy.name) value).map fun position =>
    AmbiguityPolicy.list.get (position.cast (List.length_map _))

/-- Reads a path that may be left open by null. -/
def readPath? (value : Datum) : Except SettingProblem (Option FilePath) :=
  if value = .scalar .null then .ok none else (reader.path value).map some

/-- The value of a setting, or its default if it is not given. -/
def setting {α : Type} (values : Members) (name : String) (default : α)
    (read : Datum → Except SettingProblem α) : Checked α :=
  match values.lookup name with
  | none => .ok default
  | some value =>
    match read value with
    | .ok x => .ok x
    | .error problem => .error [⟨⟨none, problem, value⟩, name⟩]

/-- The texts that a setting lists, or its default if it is not given. -/
def textsSetting (values : Members) (name : String) (default : List String) :
    Checked (List String) :=
  match values.lookup name with
  | none => .ok default
  | some value =>
    match reader.texts value with
    | .ok texts => .ok texts
    | .error faults => .error (faults.map fun fault => ⟨fault, name⟩)

/-- File suffixes in lower case, each with a point at its start; empty ones are left out. -/
def normalSuffixes (suffixes : List String) : List String :=
  (suffixes.filter (· ≠ "")).map fun suffix =>
    if Text.startsWith suffix "." then Text.lower suffix else "." ++ Text.lower suffix

/-- The settings with the given values. -/
def ofMembers (values : Members) : Checked Settings :=
  let defaults : Settings := default
  Checked.apply (Checked.apply (Checked.apply (Checked.apply (Checked.apply (Checked.apply
      (Checked.apply (Checked.apply (Checked.apply (Checked.apply
    (.ok fun documentPath outputFolder saveSnapshots dependencyKeys fileSuffixes fileFields
        kindFields (minimum : { n : Nat // 1 ≤ n }) ambiguityPolicy reverseScan =>
      { documentPath, outputFolder, saveSnapshots, dependencyKeys
        fileSuffixes := normalSuffixes fileSuffixes
        fileFields, kindFields, minSubstringLength := minimum.val, ambiguityPolicy, reverseScan
        minSubstringLength_pos := minimum.property })
    (setting values documentPathName defaults.documentPath (readPath? reader)))
    (setting values outputFolderName defaults.outputFolder reader.path))
    (setting values saveSnapshotsName defaults.saveSnapshots reader.bool))
    (textsSetting reader values dependencyKeysName defaults.dependencyKeys))
    (textsSetting reader values fileSuffixesName defaults.fileSuffixes))
    (textsSetting reader values fileFieldsName defaults.fileFields))
    (textsSetting reader values kindFieldsName defaults.kindFields))
    (setting values minSubstringLengthName
      ⟨defaults.minSubstringLength, defaults.minSubstringLength_pos⟩ (readPositive reader)))
    (setting values ambiguityPolicyName defaults.ambiguityPolicy (readPolicy reader)))
    (setting values reverseScanName defaults.reverseScan reader.bool)

end Settings

end ContextSlice
