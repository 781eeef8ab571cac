import ContextSlice.Shell.Arguments
import ContextSlice.Shell.Markup
import ContextSlice.Shell.Settings
import ContextSlice.Shell.Toml.Printer
import ContextSlice.Shell.Toml.Reader

/-!
# The libraries of the program

The libraries that the program runs with (`Shell.libraries`).
-/

namespace ContextSlice.Shell

/-- The reader and writer of tables of TOML. -/
def tomlLibrary : ContextSlice.Toml.Library where
  read s := (Toml.read s).mapError Toml.Fault.error
  print table := (Toml.print table).mapError Toml.PrintFault.error

/-- The libraries that the program runs with. -/
def libraries : Libraries where
  toml := tomlLibrary
  reader := settingReader
  arguments := argumentReader
  console := Markup.render

end ContextSlice.Shell
