import SecurityScan.Fault
import SecurityScan.Ignore.Rule
import SecurityScan.Value.Basic

/-!
# Files to scan

The source files that paths lead to, below directories at any depth. Hidden entries and linked
directories are not entered, and the ignore rules have the last word.
-/

namespace SecurityScan

open Files (FileSystem Node)

/-! ## Order -/

/-- A list without the members that equal their successor. -/
def dropRepeats : List String → List String
  | [] => []
  | [x] => [x]
  | x :: y :: rest => if x = y then dropRepeats (y :: rest) else x :: dropRepeats (y :: rest)

/-- Texts in ascending order of their characters, each once. -/
def ascending (xs : List String) : List String :=
  dropRepeats (xs.mergeSort fun a b => decide (a ≤ b))

/-! ## Walking -/

def isHidden (name : String) : Bool := Text.startsWith name "."

namespace Files

mutual

/-- The files below an entry of the directory at path `dir`, links to files among them. -/
def filesAt (fs : FileSystem) (dir name : String) : Node → List String
  | .dir entries => if isHidden name then [] else filesIn fs (Path.join dir name) entries
  | .file _ | .link _ =>
    if !isHidden name && fs.hasFile (Path.join dir name) then [Path.join dir name] else []

/-- The files below the entries of the directory at path `dir`. -/
def filesIn (fs : FileSystem) (dir : String) : List (String × Node) → List String
  | [] => []
  | (name, node) :: rest => filesAt fs dir name node ++ filesIn fs dir rest

end

end Files

/-! ## Collecting -/

/-- A path as it was given, and where it leads to. -/
structure ScanTarget where
  raw : String
  absolute : String

def ScanTarget.ofPath (cwd raw : String) : ScanTarget := ⟨raw, Path.absolute cwd raw⟩

/-- Chooses among files by their extension and by the ignore rules. -/
structure Collector where
  project : Project
  extensions : List Value
  rules : List IgnoreRule
  /-- Whether ignored files are taken too. -/
  force : Bool

namespace Collector

/-- Whether a path has one of the extensions of source files. -/
def isSource (extensions : List Value) (path : String) : Bool :=
  extensions.any fun e => e.same (.str (Path.suffix path))

/-- Whether a file is one to scan. -/
def takes (c : Collector) (path : String) : Bool :=
  isSource c.extensions path && !c.project.excludes c.rules c.force path

/-- The files to scan that one path leads to; none when it leads nowhere. -/
def filesAt? (c : Collector) (fs : FileSystem) (path : String) : Option (List String) :=
  if (Files.pathFault? path).isSome then none
  else
    match fs.find path with
    | .ok (.file ..) => some ([path].filter c.takes)
    | .ok (.directory _ entries) => some ((Files.filesIn fs path entries).filter c.takes)
    | _ => none

/-- The files of each target in turn; a target that leads nowhere is noted. -/
def found (c : Collector) (fs : FileSystem) : List ScanTarget → Noted (List String)
  | [] => pure []
  | t :: ts => do
    let here ← match c.filesAt? fs t.absolute with
      | some files => pure files
      | none => do
        note .warning ("⚠️  Path not found: " ++ t.raw)
        pure []
    return here ++ (← c.found fs ts)

/-- The files to scan, in ascending order. -/
def collect (c : Collector) (fs : FileSystem) (targets : List ScanTarget) :
    Noted (List String) := do
  return ascending (← c.found fs targets)

end Collector

/-! ## Reading -/

/-- The text of a source file; none, after a note, when it cannot be read. -/
def sourceText? (fs : FileSystem) (path : String) : Attempt (Option String) := do
  match fs.readText (Path.tidy path) with
  | .ok text => return some text
  | .error f =>
    if Files.isUnreadable f then
      Attempt.note .warning ("⚠️  Could not read " ++ path ++ ": " ++ f.message)
      return none
    else throw f

/-- A file in the text of several: a header with its name, then its own text. -/
def sourceSection (name text : String) : String :=
  "# File: " ++ name ++ "\n" ++ text ++ "\n\n"

/-- The texts of files, one after the other, without those that cannot be read. -/
def concatenated (fs : FileSystem) (project : Project) : List String → Attempt String
  | [] => pure ""
  | path :: rest => do
    let here := match ← sourceText? fs path with
      | some text => sourceSection (project.displayPath path) text
      | none => ""
    return here ++ (← concatenated fs project rest)

end SecurityScan
