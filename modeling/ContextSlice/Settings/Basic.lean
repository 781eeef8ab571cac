import ContextSlice.Disk.Path
import ContextSlice.Json.Basic

/-!
# Settings

What can be set for a request (`Settings`): where the document is and where snapshots go, which
members of an object hold dependencies, files and kinds, which endings make a symbol a file name,
how short a text may be to match by containment, and how an ambiguous end of a relationship is
resolved (`AmbiguityPolicy`). `Settings.members` lists them under their names.
-/

namespace ContextSlice

/-- Which of several candidates an end of a relationship stands for: the first one, the first
one in a file of the other end, or all of them. -/
inductive AmbiguityPolicy where
  | first
  | sameFile
  | all
  deriving DecidableEq, Repr

/-- The name of a policy. -/
def AmbiguityPolicy.name : AmbiguityPolicy → String
  | .first => "first"
  | .sameFile => "same_file"
  | .all => "all"

/-- The policies, in the order in which they are offered. -/
def AmbiguityPolicy.list : List AmbiguityPolicy := [.first, .sameFile, .all]

/-- The settings of a request. -/
structure Settings where
  documentPath : Option FilePath := none
  outputFolder : FilePath := ⟨0, ["ast-context-results"]⟩
  saveSnapshots : Bool := true
  dependencyKeys : List String :=
    ["resolvesTo", "typeResolvesTo", "usesVariables", "usesFunctions", "usesTypes", "dependsOn",
      "calls", "accesses", "contains"]
  fileSuffixes : List String := [".bal", ".py", ".ts", ".js", ".java", ".go"]
  fileFields : List String := ["sourceFile", "source_file", "filePath", "file_path", "file"]
  kindFields : List String := ["kind", "nodeType", "type"]
  minSubstringLength : Nat := 1
  ambiguityPolicy : AmbiguityPolicy := .first
  reverseScan : Bool := false
  minSubstringLength_pos : 1 ≤ minSubstringLength := by decide
  deriving DecidableEq, Repr

namespace Settings

instance : Inhabited Settings := ⟨{}⟩

/-- The names of the settings, in their order. -/
def documentPathName : String := "ast_json_path"
@[inherit_doc documentPathName] def outputFolderName : String := "output_dir"
@[inherit_doc documentPathName] def saveSnapshotsName : String := "save_snapshots"
@[inherit_doc documentPathName] def dependencyKeysName : String := "dependency_keys"
@[inherit_doc documentPathName] def fileSuffixesName : String := "file_suffixes"
@[inherit_doc documentPathName] def fileFieldsName : String := "file_fields"
@[inherit_doc documentPathName] def kindFieldsName : String := "kind_fields"
@[inherit_doc documentPathName] def minSubstringLengthName : String := "min_substring_length"
@[inherit_doc documentPathName] def ambiguityPolicyName : String := "ambiguity_policy"
@[inherit_doc documentPathName] def reverseScanName : String := "reverse_scan"

/-- The settings under their names. -/
def members (settings : Settings) : List (String × Json) :=
  [(documentPathName, (settings.documentPath.map fun path => Json.text path.text).getD .null),
    (outputFolderName, .text settings.outputFolder.text),
    (saveSnapshotsName, .bool settings.saveSnapshots),
    (dependencyKeysName, .texts settings.dependencyKeys),
    (fileSuffixesName, .texts settings.fileSuffixes),
    (fileFieldsName, .texts settings.fileFields),
    (kindFieldsName, .texts settings.kindFields),
    (minSubstringLengthName, .int settings.minSubstringLength),
    (ambiguityPolicyName, .text settings.ambiguityPolicy.name),
    (reverseScanName, .bool settings.reverseScan)]

end Settings

end ContextSlice
