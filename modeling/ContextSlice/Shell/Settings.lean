import ContextSlice.Decimal.Integer
import ContextSlice.Json.Display
import ContextSlice.Settings.Validation

/-!
# Reading data as settings

The reader of settings that the program runs with (`Shell.settingReader`). A datum may be of a kind
close to the one asked for: a truth value may be written as a number or a word, a whole number as a
text or as a number without fraction, which must fit into 64 bits then. A report names all faults
one after another, each with the datum that does not fit (`report`).
-/

namespace ContextSlice.Shell

/-- What can be wrong with a datum. -/
inductive Problem where
  | notBoolean
  | unclearBoolean
  | notInteger
  | unclearInteger
  | fraction
  | notFinite
  | tooLong
  | tooSmall (least : Int)
  | notList
  | notText
  | notChoice (names : List String)
  | notPath

/-- The short name of a problem. -/
def Problem.code : Problem → String
  | .notBoolean => "bool_type"
  | .unclearBoolean => "bool_parsing"
  | .notInteger => "int_type"
  | .unclearInteger => "int_parsing"
  | .fraction => "int_from_float"
  | .notFinite => "finite_number"
  | .tooLong => "int_parsing_size"
  | .tooSmall _ => "greater_than_equal"
  | .notList => "tuple_type"
  | .notText => "string_type"
  | .notChoice _ => "literal_error"
  | .notPath => "path_type"

/-- Names in quotes, with commas between them and a word before the last one. -/
def alternatives : List String → String
  | [] => ""
  | [name] => s!"'{name}'"
  | [name, last] => s!"'{name}' or '{last}'"
  | name :: names => s!"'{name}', " ++ alternatives names

/-- What a message says about a problem. -/
def Problem.message : Problem → String
  | .notBoolean => "Input should be a valid boolean"
  | .unclearBoolean => "Input should be a valid boolean, unable to interpret input"
  | .notInteger => "Input should be a valid integer"
  | .unclearInteger => "Input should be a valid integer, unable to parse string as an integer"
  | .fraction => "Input should be a valid integer, got a number with a fractional part"
  | .notFinite => "Input should be a finite number"
  | .tooLong => "Unable to parse input string as an integer, exceeded maximum size"
  | .tooSmall least => s!"Input should be greater than or equal to {least}"
  | .notList => "Input should be a valid tuple"
  | .notText => "Input should be a valid string"
  | .notChoice names => "Input should be " ++ alternatives names
  | .notPath => "Input is not a valid path for <class 'pathlib.Path'>"

/-- A problem as a reader tells about it. -/
def Problem.told (problem : Problem) : SettingProblem := ⟨problem.code, problem.message⟩

/-! ## Reading -/

/-- The text in small ASCII letters. -/
def asciiLower (s : String) : String := String.ofList (s.toList.map Char.toLower)

/-- Words that stand for no and for yes. -/
def noWords : List String := ["0", "off", "f", "false", "n", "no"]
@[inherit_doc noWords] def yesWords : List String := ["1", "on", "t", "true", "y", "yes"]

/-- The bound of the whole numbers of 64 bits with a sign. -/
def wordBound : Int := Int.pow 2 63

/-- The truth value that a whole number of 64 bits stands for. -/
def boolOfInt (n : Int) : Except Problem Bool :=
  if n = 0 then .ok false else if n = 1 then .ok true else .error .unclearBoolean

/-- Reads a truth value. -/
def readBool : Datum → Except Problem Bool
  | .scalar (.bool b) => .ok b
  | .scalar (.int n) =>
    if -wordBound ≤ n ∧ n < wordBound then boolOfInt n else .error .notBoolean
  | .scalar (.real x) =>
    match x.toInt? with
    | some n => if -wordBound < n ∧ n < wordBound then boolOfInt n else .error .notBoolean
    | none => .error .notBoolean
  | .scalar (.text s) =>
    if noWords.contains (asciiLower s) then .ok false
    else if yesWords.contains (asciiLower s) then .ok true
    else .error .unclearBoolean
  | _ => .error .notBoolean

/-- Reads a whole number. -/
def readInt : Datum → Except Problem Int
  | .scalar (.bool b) => .ok (if b then 1 else 0)
  | .scalar (.int n) => .ok n
  | .scalar (.real x) =>
    match x.toInt?, x.shape with
    | some n, _ => if -wordBound < n ∧ n < wordBound then .ok n else .error .tooLong
    | none, .finite .. => .error .fraction
    | none, _ => .error .notFinite
  | .scalar (.text s) =>
    match readPlainInteger s with
    | .ok n => .ok n
    | .error .notNumber => .error .unclearInteger
    | .error (.tooLong _) => .error .tooLong
  | _ => .error .notInteger

/-- Reads a path. -/
def readPath : Datum → Except Problem FilePath
  | .scalar (.text s) => .ok (FilePath.ofText s)
  | _ => .error .notPath

/-- Reads one of some names as its position. -/
def readChoice (names : List String) : Datum → Except Problem (Fin names.length)
  | .scalar (.text s) => (names.finIdxOf? s).elim (.error (.notChoice names)) .ok
  | _ => .error (.notChoice names)

/-- The faults of the items of a list, counted from `position`. -/
def itemFaults (position : Nat) : List Datum → List DatumFault
  | [] => []
  | .scalar (.text _) :: items => itemFaults (position + 1) items
  | item :: items => ⟨some position, Problem.told .notText, item⟩ :: itemFaults (position + 1) items

/-- The text that a datum is. -/
def text? : Datum → Option String
  | .scalar (.text s) => some s
  | _ => none

/-- Reads a list of texts. -/
def readTexts : Datum → Except (List DatumFault) (List String)
  | .list items =>
    match itemFaults 0 items with
    | [] => .ok (items.filterMap text?)
    | faults => .error faults
  | value => .error [⟨none, Problem.told .notList, value⟩]

/-! ## Reports -/

/-- The characters that show a date, a time or an instant. -/
def momentChars : Moment → List Char
  | .date year month day => s!"datetime.date({year}, {month}, {day})".toList
  | .time hour minute second micros => s!"datetime.time({hour}, {minute}, {second}, {micros})".toList
  | .instant clock offset =>
    let parts := ", ".intercalate (clock.parts.map toString)
    (s!"datetime.datetime({parts}" ++ (offset.elim "" fun _ => ", tzinfo=<toml.tz.TomlTz object>") ++
      ")").toList

mutual

/-- The characters that show a datum. -/
def displayChars : Datum → List Char
  | .scalar .null => Json.displayChars .null
  | .scalar (.bool b) => Json.displayChars (.bool b)
  | .scalar (.int n) => Json.displayChars (.int n)
  | .scalar (.real x) => Json.displayChars (.real x)
  | .scalar (.text s) => Json.displayChars (.text s)
  | .scalar (.moment m) => momentChars m
  | .list items => '[' :: Json.commaChars (displayItems items) ++ [']']
  | .object members => '\x7b' :: Json.commaChars (displayMembers members) ++ ['\x7d']

/-- The characters that show each item. -/
def displayItems : List Datum → List (List Char)
  | [] => []
  | item :: items => displayChars item :: displayItems items

/-- The characters that show each member. -/
def displayMembers : Members → List (List Char)
  | [] => []
  | (key, value) :: members =>
    (Text.quotedChars key.toList ++ ':' :: ' ' :: displayChars value) :: displayMembers members

end

/-- The name of a datum's kind. -/
def kindName : Datum → String
  | .scalar .null => "NoneType"
  | .scalar (.bool _) => "bool"
  | .scalar (.int _) => "int"
  | .scalar (.real _) => "float"
  | .scalar (.text _) => "str"
  | .scalar (.moment (.date ..)) => "date"
  | .scalar (.moment (.time ..)) => "time"
  | .scalar (.moment (.instant ..)) => "datetime"
  | .list _ => "list"
  | .object _ => "dict"

/-- The characters of a text that fit into some bytes of UTF-8. -/
def takeBytes : (limit : Nat) → List Char → List Char
  | _, [] => []
  | limit, c :: cs => if c.utf8Size ≤ limit then c :: takeBytes (limit - c.utf8Size) cs else []

/-- A text of more than fifty bytes of UTF-8 with its middle left out: at most 25 bytes at the
start and 24 at the end remain. -/
def abridge (s : String) : String :=
  if s.utf8ByteSize ≤ 50 then s
  else
    let cs := s.toList
    String.ofList (takeBytes 25 cs) ++ "..." ++ String.ofList (takeBytes 24 cs.reverse).reverse

/-- The line that says where more is told about a problem; nothing is told about paths. -/
def hint (problem : SettingProblem) : String :=
  if problem.code = Problem.notPath.code then ""
  else "\n    For further information visit https://errors.pydantic.dev/2.14/v/" ++ problem.code

/-- The lines about one fault. -/
def faultLines (fault : SettingFault) : String :=
  let place := fault.name ++ fault.position.elim "" fun n => s!".{n}"
  place ++ "\n  " ++ fault.problem.message ++ " [type=" ++ fault.problem.code ++
    ", input_value=" ++ abridge (String.ofList (displayChars fault.value)) ++ ", input_type=" ++
    kindName fault.value ++ "]" ++ hint fault.problem

/-- The report about all faults of the data for a model. -/
def report (model : String) (faults : List SettingFault) : String :=
  let count :=
    if faults.length = 1 then "1 validation error" else s!"{faults.length} validation errors"
  "\n".intercalate (s!"{count} for {model}" :: faults.map faultLines)

/-- The reader of settings. -/
def settingReader : SettingReader where
  bool value := (readBool value).mapError Problem.told
  int value := (readInt value).mapError Problem.told
  path value := (readPath value).mapError Problem.told
  texts := readTexts
  choice names value := (readChoice names value).mapError Problem.told
  tooSmall least := Problem.told (.tooSmall least)
  report := report

end ContextSlice.Shell
