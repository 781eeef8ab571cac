import ContextSlice.Libraries

/-!
# Faults of TOML

Why a text cannot be read as a table (`Fault`), and why a table cannot be written (`PrintFault`). Most
texts that cannot be read are simply malformed; four cases are told apart from these, because they
stop the request that reads the text, where a malformed text is only ignored.
-/

namespace ContextSlice.Shell.Toml

/-- Why a text cannot be read: it breaks the rules, it ends where more has to follow, a path in it
leads through a value that is no table, a table is to be added to a value that is no list, or a
value under the empty name goes on in the next line. -/
inductive Fault where
  | malformed
  | cutShort
  | notTable
  | notList
  | unnamed
  deriving DecidableEq, Repr

/-- A fault as the reader of a table tells about it. -/
def Fault.error : Fault → ContextSlice.Toml.Fault
  | .malformed => .malformed "TomlDecodeError"
  | .cutShort => .broken ⟨"IndexError", "the text ends too early", false⟩
  | .notTable => .broken ⟨"TypeError", "a path leads through a value that is no table", false⟩
  | .notList => .broken ⟨"AttributeError", "a table is added to a value that is no list", false⟩
  | .unnamed =>
    .broken ⟨"UnboundLocalError", "a value under the empty name goes on in the next line", false⟩

/-- Why a table cannot be written: it holds a text that is nothing but one character without an
escape, a list of tables and of other values, or an instant a day or more away from universal
time. -/
inductive PrintFault where
  | text
  | mixedList
  | offset
  deriving DecidableEq, Repr

/-- A fault as the writer of a table tells about it. -/
def PrintFault.error : PrintFault → LibraryError
  | .text => ⟨"IndexError", "a text is one character without an escape", false⟩
  | .mixedList => ⟨"TypeError", "a list holds tables and other values", false⟩
  | .offset => ⟨"ValueError", "offset must be strictly between a day behind and a day ahead", true⟩

end ContextSlice.Shell.Toml
