import ContextSlice.Libraries
import ContextSlice.Notice

/-!
# Output of a command

A command writes lines and tables (`Block`). The text of a cell goes through the console of the host,
which may make something else of it or refuse it (`Table.shown`); a refused cell ends the output
before its table (`shownBlocks`). The line of a notice names its level and the part of the program that
it comes from.
-/

namespace ContextSlice.CommandLine

/-- A table with a title, the heads of its columns, and its rows. -/
structure Table where
  title : String
  columns : List String
  rows : List (List String)
  deriving DecidableEq, Repr

/-- A part of the output. -/
inductive Block where
  | line (s : String)
  | table (table : Table)
  deriving DecidableEq, Repr

section
variable (console : String → Except LibraryError String)

/-- A table as the console shows it. -/
def Table.shown (table : Table) : Except LibraryError Table := do
  let rows ← table.rows.mapM fun row => row.mapM console
  pure { table with rows }

/-- What the console shows of some parts of the output: all of them, or those before the first
table that it refuses, and the error. -/
def shownBlocks : List Block → List Block × Option LibraryError
  | [] => ([], none)
  | .line s :: blocks =>
    let (shown, error) := shownBlocks blocks
    (.line s :: shown, error)
  | .table found :: blocks =>
    match found.shown console with
    | .error error => ([], some error)
    | .ok table =>
      let (shown, error) := shownBlocks blocks
      (.table table :: shown, error)

end

/-- The line of a notice. -/
def noticeLine (notice : Notice) : String :=
  notice.level.name ++ " " ++ notice.channel ++ ": " ++ notice.message ++ "\n"

/-- The lines of those notices that are reported: all of them, or the grave ones. -/
def noticeLines (verbose : Bool) (notices : List Notice) : String :=
  String.join ((notices.filter fun notice => verbose || notice.level.isGrave).map noticeLine)

end ContextSlice.CommandLine
