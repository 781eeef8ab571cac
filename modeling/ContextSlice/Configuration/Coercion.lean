import ContextSlice.Decimal.Integer
import ContextSlice.Disk.Basic
import ContextSlice.Libraries
import ContextSlice.Text.Blank

/-!
# Values of settings typed by hand

A setting that is kept in the configuration file is typed as one text. What this text stands for
depends on the setting (`SettingForm`, `coerce`): the items of a list are separated by commas, a
truth value is one of some words, a whole number has digits of any script, and all other settings
take the text as it is. `ConfigFault` lists what can be wrong about a configuration; some of these
faults are told to whoever asked (`ConfigFault.refuses`), and the others end the work.
-/

namespace ContextSlice

/-- What can be wrong about the configuration or a change of it. Invalid settings come with what the
library reports about them. -/
inductive ConfigFault where
  | unknownSetting (name : String)
  | unclearBoolean (name raw : String)
  | notInteger (raw : String)
  | numberTooLong (digits : Nat)
  | contextNotTable
  | encoding (fault : Text.Utf8.Fault)
  | invalid (faults : List SettingFault) (report : String)
  | unreadable (error : LibraryError)
  | unwritable (error : LibraryError)
  | disk (fault : DiskFault)
  deriving DecidableEq, Repr

/-- Whether a request or a command is refused because of a fault. The other faults end it without
an answer. -/
def ConfigFault.refuses : ConfigFault → Bool
  | .unknownSetting _ | .unclearBoolean .. | .notInteger _ | .numberTooLong _ | .encoding _
  | .invalid .. => true
  | .unreadable error | .unwritable error => error.ofValue
  | .contextNotTable | .disk _ => false

namespace Configuration

/-- The form in which the value of a setting is typed. -/
inductive SettingForm where
  | texts
  | boolean
  | integer
  | plain
  deriving DecidableEq, Repr

/-- The settings that can be kept, with the forms of their values. -/
def forms : List (String × SettingForm) :=
  [(Settings.ambiguityPolicyName, .plain), (Settings.documentPathName, .plain),
    (Settings.dependencyKeysName, .texts), (Settings.fileFieldsName, .texts),
    (Settings.fileSuffixesName, .texts), (Settings.kindFieldsName, .texts),
    (Settings.minSubstringLengthName, .integer), (Settings.outputFolderName, .plain),
    (Settings.reverseScanName, .boolean), (Settings.saveSnapshotsName, .boolean)]

end Configuration

/-- What a message says about a configuration that is at fault. -/
def ConfigFault.message : ConfigFault → String
  | .unknownSetting name =>
    s!"Unknown setting '{name}'. Valid keys: " ++
      ", ".intercalate (Configuration.forms.map (·.1))
  | .unclearBoolean name raw => s!"Setting '{name}' expects true/false, got '{raw}'"
  | .notInteger raw =>
    "invalid literal for int() with base 10: " ++ String.ofList ((Text.quoted raw).toList.take 200)
  | .numberTooLong digits => tooLongMessage digits
  | .contextNotTable => "the context entry is no table"
  | .encoding fault => fault.message
  | .invalid _ report => report
  | .unreadable error | .unwritable error => error.message
  | .disk fault => fault.message

namespace Configuration

/-- Words that stand for yes and for no. -/
def onWords : List String := ["1", "true", "yes", "on"]
@[inherit_doc onWords] def offWords : List String := ["0", "false", "no", "off"]

/-- The items of a list that is typed with commas between them. -/
def splitItems (raw : String) : List String :=
  ((Text.splitAt ',' raw).map Text.trim).filter (· ≠ "")

/-- The truth value that a setting's text stands for. -/
def readSwitch (name raw : String) : Except ConfigFault Bool :=
  let word := Text.lower (Text.trim raw)
  if onWords.contains word then .ok true
  else if offWords.contains word then .ok false
  else .error (.unclearBoolean name raw)

/-- The whole number that a text stands for. -/
def readWhole (raw : String) : Except ConfigFault Int :=
  match readInteger raw with
  | .ok n => .ok n
  | .error .notNumber => .error (.notInteger raw)
  | .error (.tooLong digits) => .error (.numberTooLong digits)

/-- The value that a text stands for as the value of a setting. -/
def coerce (name raw : String) : Except ConfigFault Json :=
  match forms.lookup name with
  | none => .error (.unknownSetting name)
  | some .texts => .ok (.texts (splitItems raw))
  | some .boolean => (readSwitch name raw).map .bool
  | some .integer => (readWhole raw).map .int
  | some .plain => .ok (.text raw)

end Configuration

end ContextSlice
