import ContextSlice.Disk.Basic
import ContextSlice.Libraries
import ContextSlice.Snapshot.Instant

/-!
# Hosts

What the program finds around itself (`Host`): its libraries, the disk, the folders on it that it
knows by name, the accounts, the two environment variables that it looks at, and the clock. Paths that
do not begin with a slash begin in the working folder; a path that begins with `~` begins in
somebody's home folder (`Host.expand`).
-/

namespace ContextSlice

/-- The surroundings of the program. The configuration folder is one that a disk can have: no name on
its path is longer than a disk takes. Whoever sets a longer one has no configuration, and is none of
these hosts. -/
structure Host extends Libraries where
  disk : Disk
  workingFolder : FilePath
  home : FilePath
  accounts : List (String × FilePath)
  configFolder : FilePath
  documentVariable : Option String
  outputVariable : Option String
  clock : Instant
  configNames : ∀ part ∈ configFolder.parts, part.utf8ByteSize ≤ Disk.nameLimit := by decide

namespace Host

/-- The path of the configuration file. -/
def configPath (host : Host) : FilePath := host.configFolder.child "config.toml"

/-- The same surroundings with another disk. -/
def withDisk (host : Host) (disk : Disk) : Host := { host with disk }

/-- The home folder that a first name of a path stands for: `~` for one's own, and `~` with the
name of an account for that one's. -/
def homeFolder? (host : Host) (part : String) : Option FilePath :=
  if part = "~" then some host.home
  else host.accounts.lookup (String.ofList (part.toList.drop 1))

/-- A path with a leading `~` replaced by the home folder that it stands for; `none` if there is no
such folder. -/
def expand (host : Host) (path : FilePath) : Option FilePath :=
  match path.slashes, path.parts with
  | 0, part :: parts =>
    if Text.startsWith part "~" then
      (host.homeFolder? part).map fun home => { home with parts := home.parts ++ parts }
    else some path
  | _, _ => some path

end Host

end ContextSlice
