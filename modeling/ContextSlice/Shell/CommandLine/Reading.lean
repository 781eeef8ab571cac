import ContextSlice.CommandLine.Command
import ContextSlice.Shell.CommandLine.Options
import ContextSlice.Shell.Settings

/-!
# Reading a command

How a command is read from the words of a command line (`Invocation.read`). The words before the
name of the command are options of the program itself. The settings that a command gives are put
aside as they are typed.
-/

namespace ContextSlice.Shell

open ContextSlice.CommandLine (Command)

namespace CommandLine

/-- A command, and whether everything is to be reported while it runs. -/
structure Invocation where
  verbose : Bool
  command : Command
  deriving Repr

/-- The option that names the document. -/
def documentRule : OptionRule := ⟨Settings.documentPathName, ["--ast", "-a"], .path⟩

/-- The option that names the folder of the snapshots. -/
def folderRule : OptionRule := ⟨Settings.outputFolderName, ["--output-dir", "-o"], .path⟩

/-- The options of the command `context`. -/
def contextOptions : OptionSet :=
  { rules :=
      [documentRule, folderRule, ⟨Settings.ambiguityPolicyName, ["--policy"], .text⟩,
        switch "json" ["--json"]] ++
        switches Settings.saveSnapshotsName "--save" "--no-save" ++
        switches Settings.reverseScanName "--reverse-scan" "--no-reverse-scan" }

/-- The options of the commands `resolve` and `stats`. -/
def documentOptions : OptionSet := { rules := [documentRule] }

/-- The options of the command `export-graph`. -/
def exportOptions : OptionSet :=
  { rules := [documentRule, ⟨"output", ["--output", "-o"], .path⟩] }

/-- The options of the command `snapshots list`. -/
def listOptions : OptionSet := { rules := [folderRule, ⟨"limit", ["--limit"], .count⟩] }

/-- The options of the command `snapshots show`. -/
def showOptions : OptionSet := { rules := [folderRule] }

/-- A path that an option gives as the value of a setting, in its normal form. -/
def pathOverride (words : Words) (name : String) : List (String × Json) :=
  ((words.text? name).map fun path => (name, Json.text (FilePath.ofText path).text)).toList

/-- A text that an option gives as the value of a setting. -/
def textOverride (words : Words) (name : String) : List (String × Json) :=
  ((words.text? name).map fun s => (name, Json.text s)).toList

/-- A flag that an option sets as the value of a setting. -/
def flagOverride (words : Words) (name : String) : List (String × Json) :=
  ((words.flag? name).map fun b => (name, Json.bool b)).toList

/-- The settings that the options of a command give. -/
def overrides (words : Words) : List (String × Json) :=
  pathOverride words Settings.documentPathName ++ pathOverride words Settings.outputFolderName ++
    flagOverride words Settings.saveSnapshotsName ++ flagOverride words Settings.reverseScanName ++
    textOverride words Settings.ambiguityPolicyName

/-- What is wrong with the value of an option. -/
def valueProblem? : OptionForm → String → Option String
  | .path, s => if s.contains '\x00' then some "Value error, embedded null byte" else none
  | .count, s =>
    match Settings.readPositive settingReader (.text s) with
    | .ok _ => none
    | .error problem => some problem.message
  | .text, _ | .flag _, _ => none

/-- Checks the values that options are given, in the order in which the options first come. Of an
option that comes several times only the last value is checked. -/
def checkValues (options : OptionSet) (words : Words) : Except UsageFault Unit :=
  words.options.forM fun (key, _) =>
    match options.rules.find? (·.key = key), words.text? key with
    | some rule, some s =>
      (valueProblem? rule.form s).elim (.ok ()) fun reason =>
        .error (.badValue rule.spellings reason)
    | _, _ => .ok ()

/-- Reads the words after the name of a command, and checks the values in them. -/
def readWords (options : OptionSet) (mixed : Bool) (words : List String) :
    Except UsageFault Words := do
  let found ← (Words.read options mixed words).mapError fun fault => .option fault []
  checkValues options found
  pure found

/-- Refuses arguments that are left. -/
def noMore : List String → Except UsageFault Unit
  | [] => .ok ()
  | words => .error (.extraArguments words)

/-- The symbols of a command, at least one. -/
def someSymbols : List String → Except UsageFault (List String)
  | [] => .error (.missingArgument "symbols")
  | symbols => .ok symbols

/-- The greatest number of snapshots to list. -/
def limitOf (words : Words) : Nat :=
  match (words.text? "limit").map fun s => Settings.readPositive settingReader (.text s) with
  | some (.ok limit) => limit.val
  | _ => 20

/-- Reads the command `context`. -/
def readContext (words : List String) : Except UsageFault Command := do
  let found ← readWords contextOptions true words
  let symbols ← someSymbols found.arguments
  pure (.context symbols (overrides found) ((found.flag? "json").getD false))

/-- Reads the command `resolve`. -/
def readResolve (words : List String) : Except UsageFault Command := do
  let found ← readWords documentOptions true words
  let symbols ← someSymbols found.arguments
  pure (.resolve symbols (overrides found))

/-- Reads the command `stats`. -/
def readStats (words : List String) : Except UsageFault Command := do
  let found ← readWords documentOptions true words
  noMore found.arguments
  pure (.stats (overrides found))

/-- Reads the command `export-graph`. -/
def readExport (words : List String) : Except UsageFault Command := do
  let found ← readWords exportOptions true words
  let symbols ← someSymbols found.arguments
  pure (.exportGraph symbols (overrides found) (found.text? "output"))

/-- Reads the command `snapshots list`. -/
def readList (words : List String) : Except UsageFault Command := do
  let found ← readWords listOptions true words
  noMore found.arguments
  pure (.listSnapshots (overrides found) (limitOf found))

/-- Reads the command `snapshots show`. -/
def readShow (words : List String) : Except UsageFault Command := do
  let found ← readWords showOptions true words
  noMore (found.arguments.drop 1)
  pure (.showSnapshot found.arguments.head? (overrides found))

/-- Reads the command `set-config`. -/
def readSetConfig (words : List String) : Except UsageFault Command := do
  let found ← readWords {} true words
  match found.arguments with
  | [] => .error (.missingArgument "key")
  | [_] => .error (.missingArgument "value")
  | name :: raw :: more => do
    noMore more
    pure (.setConfig name raw)

/-- Reads a command that takes nothing. -/
def readBare (command : Command) (words : List String) : Except UsageFault Command := do
  let found ← readWords {} true words
  noMore found.arguments
  pure command

/-- Reads the name of a command and what follows it, given the commands by their names. Words with
no known name in front are read as options first, so that what is wrong with them as options is
told, and the option that asks for the version is granted even here. The names that are told to be
like the one that is missed are like the first word after those options. -/
def choose (options : OptionSet)
    (commands : List (String × (List String → Except UsageFault Command))) :
    List String → Except UsageFault Command
  | [] => .error .missingCommand
  | name :: words =>
    match commands.lookup name with
    | some read => read words
    | none => do
      let similar := (Words.afterOptions options (name :: words)).head?.elim [] fun word =>
        Text.closeMatches word (commands.map (·.1))
      let found ← (Words.read options false (name :: words)).mapError (.option · similar)
      if (found.flag? "version").getD false then pure .version
      else .error (.unknownCommand name similar)

/-- Reads a command about snapshots. -/
def readSnapshots (words : List String) : Except UsageFault Command := do
  let found ← readWords {} false words
  choose {} [("list", readList), ("show", readShow)] found.arguments

/-- The options of the program itself. -/
def programOptions : OptionSet :=
  { rules := [switch "version" ["--version", "-V"], switch "verbose" ["--verbose", "-v"]]
    reserved := ["--install-completion", "--show-completion", "--help"] }

/-- The commands by their names. -/
def commands : List (String × (List String → Except UsageFault Command)) :=
  [("context", readContext), ("resolve", readResolve), ("stats", readStats),
    ("export-graph", readExport), ("snapshots", readSnapshots),
    ("show-config", readBare .showConfig), ("set-config", readSetConfig),
    ("reset-config", readBare .resetConfig)]

/-- Reads the name of a command and what follows it. -/
def readCommand : List String → Except UsageFault Command := choose programOptions commands

/-- What somebody is told who asks for help. -/
def help : String :=
  "Usage: astctx [OPTIONS] COMMAND [ARGS]...\n\nCommands:\n" ++
    String.join (commands.map fun command => "  " ++ command.1 ++ "\n")

/-- Reads the words of a command line. The option that asks for the version makes all words after
the options of the program of no account. -/
def Invocation.read (words : List String) : Except UsageFault Invocation := do
  let found ← readWords programOptions false words
  let verbose := (found.flag? "verbose").getD false
  if (found.flag? "version").getD false then pure { verbose, command := .version }
  else
    let command ← readCommand found.arguments
    pure { verbose, command }

end CommandLine

end ContextSlice.Shell
