import ContextSlice.Text.Search

/-!
# Paths of files

A path is a number of leading slashes and the names after them (`FilePath`). Reading a path from a
text (`FilePath.ofText`) drops empty names and the names `.`, but keeps `..`, since what that leads
to is known on a disk only; two leading slashes are kept and three or more count as one. The empty
path is written `.` (`FilePath.text`).
-/

namespace ContextSlice

/-- A path: how many slashes it begins with, and its names. -/
structure FilePath where
  slashes : Nat
  parts : List String
  deriving DecidableEq, Repr

namespace FilePath

/-- The path that a text names. -/
def ofText (s : String) : FilePath :=
  let leading := (s.toList.takeWhile (· = '/')).length
  { slashes := if leading ≤ 2 then leading else 1
    parts := (Text.splitAt '/' s).filter fun part => part ≠ "" && part ≠ "." }

/-- The text of a path. -/
def text (path : FilePath) : String :=
  if path.slashes = 0 && path.parts.isEmpty then "."
  else String.ofList (List.replicate path.slashes '/') ++ "/".intercalate path.parts

/-- The path that leads from one path on by another; an absolute path leads there from
anywhere. -/
def join (path next : FilePath) : FilePath :=
  if 0 < next.slashes then next else { path with parts := path.parts ++ next.parts }

/-- The path of something with a name in the folder at a path. -/
def child (path : FilePath) (name : String) : FilePath := path.join (ofText name)

/-- The path without its last name. -/
def parent (path : FilePath) : FilePath := { path with parts := path.parts.dropLast }

/-- The last name of a path. -/
def name (path : FilePath) : String := path.parts.getLastD ""

end FilePath

end ContextSlice
