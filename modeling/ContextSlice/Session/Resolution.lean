import ContextSlice.Session.Basic
import ContextSlice.Text.Search

/-!
# Resolving symbols

A symbol of a request is a text that stands for objects of the document. There are several ways in
which it can do so (`Strategy`), and all of them are tried: `Session.explain` tells what each one
finds, and `Session.resolve` puts this together. The ids found for all symbols of a request are
its seeds (`Session.seeds`).
-/

namespace ContextSlice

/-- A way in which a symbol stands for objects: as the name of their file, as their name, as
their name in lower case, as a text that holds their name or is held by it, or as their id. -/
inductive Strategy where
  | file
  | exact
  | lowercase
  | substring
  | id
  deriving DecidableEq, Repr

/-- The name of a strategy. -/
def Strategy.name : Strategy → String
  | .file => "file"
  | .exact => "exact"
  | .lowercase => "lowercase"
  | .substring => "substring"
  | .id => "id"

/-- All strategies in the order in which they are tried. -/
def Strategy.all : List Strategy := [.file, .exact, .lowercase, .substring, .id]

/-- A name of a file in lower case, its names of folders separated by slashes. -/
def normalFile (file : String) : String := Text.lower (Text.replaceChar '\\' "/" file)

/-- Whether a file's name is the wanted one or ends with it after a slash. -/
def fileMatches (wanted file : String) : Bool :=
  normalFile file = wanted || Text.endsWith (normalFile file) ("/" ++ wanted)

/-- Whether one of two texts holds the other one, and this one has at least `minimum`
characters. -/
def overlaps (minimum : Nat) (name symbol : String) : Bool :=
  if Text.contains symbol name then minimum ≤ name.length
  else Text.contains name symbol && minimum ≤ symbol.length

namespace Session

variable (session : Session)

/-- Whether a symbol is the name of a file by its ending. -/
def isFileSymbol (symbol : String) : Bool :=
  session.settings.fileSuffixes.any (Text.endsWith (Text.lower symbol) ·)

/-- The ids in the files that a symbol names. -/
def fileHits (symbol : String) : List String :=
  let wanted := normalFile symbol
  distinct (((Assoc.keys session.index.files).filter (fileMatches wanted ·)).flatMap
    session.index.idsInFile)

/-- The ids of the objects whose name in lower case overlaps with the symbol. -/
def substringHits (symbol : String) : List String :=
  let needle := Text.lower symbol
  distinct (((Assoc.keys session.index.names).filter fun name =>
      overlaps session.settings.minSubstringLength (Text.lower name) needle).flatMap
    session.index.idsNamed)

/-- The ids that a strategy finds for a symbol that is not empty. -/
def hits (symbol : String) : Strategy → List String
  | .file => if session.isFileSymbol symbol then session.fileHits symbol else []
  | .exact => session.index.idsNamed symbol
  | .lowercase => session.index.idsNamed (Text.lower symbol)
  | .substring => session.substringHits symbol
  | .id => if session.index.has symbol then [symbol] else []

/-- What each strategy finds for a symbol, those that find nothing left out; the empty symbol
stands for nothing. -/
def explain (symbol : String) : List (Strategy × List String) :=
  if symbol = "" then []
  else (Strategy.all.map fun strategy => (strategy, session.hits symbol strategy)).filter
    fun found => !found.2.isEmpty

/-- The ids that a symbol stands for. -/
def resolve (symbol : String) : List String := distinct ((session.explain symbol).flatMap (·.2))

/-- The ids that a value given as a symbol stands for; only texts stand for any. -/
def resolveValue (symbol : Json) : List String := symbol.text?.elim [] session.resolve

/-- The ids that the symbols of a request stand for. -/
def seeds (symbols : List Json) : List String := distinct (symbols.flatMap session.resolveValue)

/-- The symbols of a request that stand for something, each once. -/
def matchedSymbols (symbols : List Json) : List Json :=
  distinct (symbols.filter fun symbol => !(session.resolveValue symbol).isEmpty)

/-- What is reported about resolving the symbols of a request. -/
def resolutionNotices (symbols : List Json) : List Notice :=
  (symbols.filter fun symbol => (session.resolveValue symbol).isEmpty).map .unmatched

end Session

end ContextSlice
