import ContextSlice.Settings.Validation

/-!
# Libraries

What the program leaves to libraries (`Libraries`): reading and writing tables of TOML
(`Toml.Library`), reading data as values of settings (`SettingReader`), reading the arguments of the
tool (`ArgumentReader`), and what a console makes of the text of a cell. A library may refuse what it is
given (`LibraryError`). Nothing is said here about what the libraries do; a theorem that rests on
something they do has it as a hypothesis.
-/

namespace ContextSlice

/-- An error that a library raises: its kind, its message, and whether it counts as an error of a
value, as all do that tell a user about the input. -/
structure LibraryError where
  kind : String
  message : String
  ofValue : Bool
  deriving DecidableEq, Repr

/-- Why a text is not read as a table of TOML: it is malformed, or reading it breaks off with an
error that is not about the text. -/
inductive Toml.Fault where
  | malformed (message : String)
  | broken (error : LibraryError)
  deriving DecidableEq, Repr

/-- A reader and a writer of tables of TOML. -/
structure Toml.Library where
  read : String → Except Toml.Fault Members
  print : Members → Except LibraryError String

/-- A reader of arguments that are declared as an object with one member, which lists texts: the
texts, or what is told about all faults. The declaration has a schema. -/
structure ArgumentReader where
  read : (model name : String) → Json → Except String (List String)
  schema : (model name purpose : String) → Json

/-- The libraries that the program uses. -/
structure Libraries where
  toml : Toml.Library
  reader : SettingReader
  arguments : ArgumentReader
  console : (cell : String) → Except LibraryError String

end ContextSlice
