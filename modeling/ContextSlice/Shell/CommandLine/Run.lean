import ContextSlice.CommandLine.Run
import ContextSlice.Shell.CommandLine.Reading
import ContextSlice.Text.ControlSequence

/-!
# Running a command line

Running the words of a command line (`Shell.CommandLine.run`), and how what comes of it is written: lines
without the control sequences that only a terminal understands (`plainLine`), and tables in columns
for a reader who has nothing better (`blockText`).
-/

namespace ContextSlice.Shell.CommandLine

open ContextSlice.CommandLine

/-- What comes of a command line that can be read: the run of its command, and whether everything is
to be reported. -/
structure Result where
  verbose : Bool
  run : Run

/-- Runs the command that the words of a command line ask for. -/
def run (host : Host) (words : List String) : Except UsageFault Result :=
  (Invocation.read words).map fun invocation =>
    ⟨invocation.verbose, runCommand host invocation.command⟩

/-- A line without control sequences. -/
def plainLine (s : String) : String := Text.withoutControls (s ++ "\n")

/-- What is written to the error output. -/
def Result.errorText (result : Result) : String :=
  noticeLines result.verbose result.run.notices ++
    String.join (result.run.complaints.map plainLine)

/-- What is said about why a command ended. -/
def faultMessage : Fault → String
  | .badValue reason => (UsageFault.badValue [] reason).message
  | fault => fault.message

/-- The greatest length in each column of some rows. -/
def columnWidths : List (List String) → List Nat
  | [] => []
  | row :: rows =>
    let widths := columnWidths rows
    (List.range (max row.length widths.length)).map fun column =>
      max ((row[column]?).elim 0 String.length) (widths[column]?.getD 0)

/-- A row with its cells filled up to some widths. -/
def paddedRow (widths : List Nat) (row : List String) : String :=
  let cells := row.zipIdx.map fun (cell, column) =>
    cell ++ String.ofList (List.replicate ((widths[column]?.getD 0) - cell.length) ' ')
  "  ".intercalate cells ++ "\n"

/-- A part of the output as a text. -/
def blockText : Block → String
  | .line s => plainLine s
  | .table found =>
    let lines := found.columns :: found.rows
    found.title ++ "\n" ++ String.join (lines.map (paddedRow (columnWidths lines)))

end ContextSlice.Shell.CommandLine
