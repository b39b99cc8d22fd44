import SecurityScan.Fault
import SecurityScan.Ignore.Rule

/-!
# Ignore files

A missing file is the normal case and means no rules. A file that is there but cannot be read is
told in a warning and also means no rules.
-/

namespace SecurityScan

open Files (FileSystem)

namespace IgnoreRule

/-- The rules of a file. -/
def read (fs : FileSystem) (path : String) : Except Fault (List IgnoreRule) :=
  match fs.readText (Path.tidy path) with
  | .ok text => .ok (ofLines (Text.splitLines text))
  | .error e =>
    if Files.isUnreadable e then
      .error (.ignoreFile ("Cannot read ignore file " ++ path ++ ": " ++ e.message))
    else .error e

/-- The rules of a file, or none with a warning. -/
def load (fs : FileSystem) (path : String) : Attempt (List IgnoreRule) := do
  if (← Attempt.ofExcept (fs.place? (Path.tidy path))).isSome then
    match read fs path with
    | .ok rules => return rules
    | .error (.ignoreFile m) =>
      Attempt.note .warning ("⚠️  " ++ m ++ "; continuing without ignore rules")
      return []
    | .error e => throw e
  else return []

end IgnoreRule

end SecurityScan
