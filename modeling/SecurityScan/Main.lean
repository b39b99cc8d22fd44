import SecurityScan.CommandLine.Run
import SecurityScan.Files.Change
import Std.Time.Format

/-!
# The program

Reads the files below the current directory, runs one command on them and writes what it changed.
From here no other program can be started and no backend can be reached: commands are missing and
so are the packages of all clients, which the notes of a scan tell.
-/

namespace SecurityScan.CommandLine

/-! ## Reading -/

/-- What directory entries are on disk. A link leads to where it ends. -/
partial def load (entries : Array IO.FS.DirEntry) : IO Files.Dir :=
  entries.toList.filterMapM fun e => do
    match (← e.path.symlinkMetadata).type with
    | .dir => return some (e.fileName, .dir (← load (← e.path.readDir)))
    | .file => return some (e.fileName, .file (← IO.FS.readBinFile e.path).toList)
    | .symlink =>
      try return some (e.fileName, .link (← IO.FS.realPath e.path).toString)
      catch _ => return none
    | .other => return none

def loadFiles : IO Files.FileSystem := do
  let here ← IO.currentDir
  return ⟨.below (Path.names here.toString) (← load (← here.readDir)), here.toString⟩

/-- The variables that settings are read from. -/
def loadEnvironment : IO Settings.Environment :=
  (Settings.readable.flatMap (·.names)).filterMapM fun name => do
    return (← IO.getEnv name).map (name, ·)

def currentTime : IO String := do
  return (← Std.Time.PlainDateTime.now).format "uuuu-MM-dd HH:mm:ss"

/-! ## Writing -/

def save : Files.Change → IO Unit
  | .makeDir path => IO.FS.createDir path
  | .write path bytes => IO.FS.writeBinFile path ⟨bytes.toArray⟩

def levelName : Level → String
  | .info => "INFO"
  | .warning => "WARNING"
  | .error => "ERROR"

def Stop.tell : Stop → IO UInt32
  | .help g => do
    IO.print g.help
    return 0
  | .refused title usage message => do
    IO.eprint (usage ++ title ++ ": error: " ++ message ++ "\n")
    return 2

/-! ## Running -/

/-- No command can be run and no client be opened. -/
def cutOff (environment : Settings.Environment) (now : String) : Surroundings Unit where
  environment := environment
  link := ⟨fun _ => true, fun _ => none⟩
  send _ := return .error (.backend "no client")
  shell _ := return .missing
  now := now

/-- Runs the command that the fields name. What it changed is written also after a fault. -/
def execute (fields : Entries) : IO UInt32 := do
  let before ← loadFiles
  let now ← currentTime
  let step := (run (cutOff (← loadEnvironment) now) fields).run.run before
  let out := step.run ()
  let ((result, after), _) := out.value
  for n in out.notes do
    IO.eprintln (now ++ " - " ++ levelName n.level ++ " - " ++ n.text)
  for c in before.changes after do
    save c
  match result with
  | .ok ending =>
    IO.print ending.printed
    return UInt32.ofNat ending.status
  | .error f =>
    IO.eprintln f.report
    return 1

end SecurityScan.CommandLine

open SecurityScan.CommandLine in
def main (words : List String) : IO UInt32 :=
  match read (withCommand words) with
  | .ok fields => execute fields
  | .error stop => stop.tell
