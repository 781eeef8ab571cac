import ContextSlice.Text.Quoted
import ContextSlice.Text.Search
import ContextSlice.Text.Similarity

/-!
# Options on the command line

The words after a command's name are options, values of options, and arguments (`Words.read`). An
option is known by one of its spellings (`OptionRule`). A long spelling begins with two hyphens and
may carry its value after an equals sign; short ones begin with one hyphen, and several of them may
be put together, the last of which may carry its value. The word `--` ends the options, and a
hyphen alone is an argument. What is wrong with an option is an `OptionFault`, whatever else is
wrong with the words a `UsageFault`; one about a name that is not known tells which known ones are
like it.
-/

namespace ContextSlice.Shell

/-- What can be wrong with an option. -/
inductive OptionFault where
  | unknown (spelling : String) (similar : List String)
  | missingValue (spelling : String)
  | needlessValue (spelling : String)
  deriving DecidableEq, Repr

/-- What can be wrong with the words of a command line. An option may be wrong where the name of a
command is due; the commands with names like the word after it are told then. -/
inductive UsageFault where
  | missingCommand
  | unknownCommand (name : String) (commands : List String)
  | option (fault : OptionFault) (commands : List String)
  | missingArgument (name : String)
  | extraArguments (words : List String)
  | badValue (spellings : List String) (reason : String)
  deriving DecidableEq, Repr

/-- A message together with the names of the commands that may have been meant, the most similar
first. The full stops at its end give way to the one before them. -/
def suggesting (message : String) : List String → String
  | [] => message
  | names =>
    String.ofList (message.toList.reverse.dropWhile (· = '.')).reverse ++ ". Did you mean " ++
      ", ".intercalate (names.map Text.quoted) ++ "?"

/-- What a message says about an option. -/
def OptionFault.message : OptionFault → String
  | .unknown spelling _ => "No such option: " ++ Text.escapeControls spelling
  | .missingValue spelling => "Option " ++ Text.quoted spelling ++ " requires an argument."
  | .needlessValue spelling => "Option " ++ Text.quoted spelling ++ " does not take a value."

/-- What a message adds about options whose spellings are like an unknown one, in their order as
texts. -/
def OptionFault.hint : OptionFault → String
  | .unknown _ (spelling :: spellings) =>
    let ordered := (spelling :: spellings).mergeSort fun a b => a ≤ b
    " (Possible options: " ++ ", ".intercalate ordered ++ ")"
  | _ => ""

/-- What a message says about a command line that is not used as it should be. -/
def UsageFault.message : UsageFault → String
  | .missingCommand => "Missing command."
  | .unknownCommand name commands =>
    suggesting ("No such command " ++ Text.quoted name ++ ".") commands
  | .option fault commands => suggesting fault.message commands ++ fault.hint
  | .missingArgument name => s!"Missing argument '{name}'."
  | .extraArguments words =>
    "Got unexpected extra argument(s) (" ++ Text.escapeControls (" ".intercalate words) ++ ")"
  | .badValue [] reason => "Invalid value: " ++ reason
  | .badValue spellings reason =>
    let names := " / ".intercalate (spellings.map fun spelling => s!"'{spelling}'")
    s!"Invalid value for {names}: {reason}"

namespace CommandLine

/-- What an option says: a text, or yes or no. -/
inductive OptionValue where
  | text (s : String)
  | flag (b : Bool)
  deriving DecidableEq, Repr

/-- The form of an option: it stands for yes or no, or it takes a value, which is a text, a path or
a whole number from one on. -/
inductive OptionForm where
  | flag (b : Bool)
  | text
  | path
  | count
  deriving DecidableEq, Repr

/-- An option: what it sets, how it is spelled, and its form. -/
structure OptionRule where
  key : String
  spellings : List String
  form : OptionForm
  deriving DecidableEq, Repr

/-- What an option stands for that takes no value. -/
def OptionRule.flag? (rule : OptionRule) : Option Bool :=
  match rule.form with
  | .flag b => some b
  | _ => none

/-- An option that stands for yes. -/
def switch (key : String) (spellings : List String) : OptionRule := ⟨key, spellings, .flag true⟩

/-- The two options that stand for yes and for no. -/
def switches (key yes no : String) : List OptionRule :=
  [⟨key, [yes], .flag true⟩, ⟨key, [no], .flag false⟩]

/-- The options that words may hold: those with a rule, and the long spellings of those that an
outer layer acts on by itself. The latter are known only to be told to somebody who misspells an
option. -/
structure OptionSet where
  rules : List OptionRule := []
  reserved : List String := ["--help"]
  deriving DecidableEq, Repr

/-- Whether a spelling is a long one. -/
def isLong (spelling : String) : Bool := Text.startsWith spelling "--"

/-- All long spellings of some options. -/
def OptionSet.longSpellings (options : OptionSet) : List String :=
  ((options.rules.flatMap (·.spellings)).filter isLong) ++ options.reserved

/-- What the words after a command say: the options in their order, and the arguments. -/
structure Words where
  options : List (String × OptionValue) := []
  arguments : List String := []
  deriving DecidableEq, Repr

/-- What one word says as an option: the options in it, and whether the next word is the value
of the last one. -/
structure Reading where
  options : List (String × OptionValue)
  takesNext : Bool

namespace Words

variable (options : OptionSet)

/-- The option with a spelling. -/
def rule? (spelling : String) : Option OptionRule :=
  options.rules.find? fun rule => rule.spellings.contains spelling

/-- Reads a long spelling with the value that it carries, if any. -/
def readLong (spelling : String) (value? next? : Option String) : Except OptionFault Reading :=
  match rule? options spelling with
  | none =>
    .error (.unknown spelling (Text.closeMatches spelling options.longSpellings))
  | some rule =>
    match rule.flag?, value?, next? with
    | some flag, none, _ => .ok ⟨[(rule.key, .flag flag)], false⟩
    | some _, some _, _ => .error (.needlessValue spelling)
    | none, some value, _ => .ok ⟨[(rule.key, .text value)], false⟩
    | none, none, some next => .ok ⟨[(rule.key, .text next)], true⟩
    | none, none, none => .error (.missingValue spelling)

/-- Reads the letters of short spellings that are put together. -/
def readShort (next? : Option String) : List Char → Except OptionFault Reading
  | [] => .ok ⟨[], false⟩
  | c :: cs =>
    let spelling := String.ofList ['-', c]
    match rule? options spelling with
    | none => .error (.unknown spelling [])
    | some rule =>
      match rule.flag?, cs, next? with
      | some flag, _, _ => do
        let more ← readShort next? cs
        pure { more with options := (rule.key, .flag flag) :: more.options }
      | none, _ :: _, _ => .ok ⟨[(rule.key, .text (String.ofList cs))], false⟩
      | none, [], some next => .ok ⟨[(rule.key, .text next)], true⟩
      | none, [], none => .error (.missingValue spelling)

/-- Reads one word that begins with a hyphen. -/
def readOption (word : String) (next? : Option String) : Except OptionFault Reading :=
  if isLong word then
    let cs := word.toList
    let spelling := String.ofList (cs.takeWhile (· ≠ '='))
    match cs.dropWhile (· ≠ '=') with
    | [] => readLong options spelling none next?
    | _ :: value => readLong options spelling (some (String.ofList value)) next?
  else readShort options next? (word.toList.drop 1)

/-- Whether a word stands for options. -/
def isOption (word : String) : Bool := Text.startsWith word "-" && word ≠ "-"

/-- Reads words. Options may stand between the arguments if they are `mixed`; otherwise all words
from the first argument on are arguments. -/
def read (mixed : Bool) (words : List String) : Except OptionFault Words :=
  match words with
  | [] => .ok {}
  | word :: rest =>
    if word = "--" then .ok { arguments := rest }
    else if isOption word then do
      let found ← readOption options word rest.head?
      let more ← read mixed (if found.takesNext then rest.drop 1 else rest)
      pure { more with options := found.options ++ more.options }
    else if mixed then do
      let more ← read mixed rest
      pure { more with arguments := word :: more.arguments }
    else .ok { arguments := word :: rest }
termination_by words.length
decreasing_by
  · split
    · simp only [List.length_drop, List.length_cons]
      omega
    · simp only [List.length_cons]
      omega
  · simp

/-- The words that are left when the options before the first argument are read. Of options that
are wrong the first is the last that is read. -/
def afterOptions : List String → List String
  | [] => []
  | word :: rest =>
    if word = "--" then rest
    else if isOption word then
      match readOption options word rest.head? with
      | .error _ => rest
      | .ok found => afterOptions (if found.takesNext then rest.drop 1 else rest)
    else word :: rest
termination_by words => words.length
decreasing_by
  split
  · simp only [List.length_drop, List.length_cons]
    omega
  · simp only [List.length_cons]
    omega

/-- What the last option that sets a key says. -/
def last? (words : Words) (key : String) : Option OptionValue := words.options.reverse.lookup key

/-- The text that an option gives. -/
def text? (words : Words) (key : String) : Option String :=
  (words.last? key).bind fun value =>
    match value with
    | .text s => some s
    | .flag _ => none

/-- The flag that an option sets. -/
def flag? (words : Words) (key : String) : Option Bool :=
  (words.last? key).bind fun value =>
    match value with
    | .flag b => some b
    | .text _ => none

end Words

end CommandLine

end ContextSlice.Shell
