import SecurityScan.Config.Freeze
import SecurityScan.Config.Issue
import SecurityScan.Config.Source

/-!
# Building a configuration

The usual settings with those of the configuration file over them, those of the environment over
these and those of the command line on top; they are checked, and frozen when nothing is wrong.
-/

namespace SecurityScan

namespace Settings

def fileName : String := ".codewardrc"

/-- All layers merged, the last one on top. -/
def layered (file environment arguments : Settings) : Settings :=
  ((usual.merge file).merge environment).merge arguments

end Settings

/-- What a configuration is built from. -/
structure ConfigSource where
  files : Files.FileSystem
  environment : Settings.Environment
  arguments : Entries
  /-- The directory of the project. -/
  project : String
  /-- A configuration file other than the project's own. -/
  file : Option String

namespace Config

/-- The path of the configuration file. -/
def pathIn (source : ConfigSource) : String :=
  match source.file with
  | none | some "" => Path.tidy (Path.join source.project Settings.fileName)
  | some path => path

/-- The configuration of checked settings: warnings are noted, and errors are a fault. -/
def ofChecked (s : Settings) : Attempt Config := do
  let issues ← Attempt.ofExcept s.issues
  for i in issues.filter fun i => !i.isError do
    Attempt.note .warning i.text
  match issues.filter Issue.isError with
  | [] => Attempt.ofExcept (ofSettings s)
  | errors => throw (.settings (errors.map Issue.text))

def build (source : ConfigSource) : Attempt Config := do
  let file ← Settings.ofFile source.files (pathIn source)
  if !file.isEmpty then
    Attempt.note .info ("Applied " ++ Settings.fileName ++ " overrides (" ++
      toString file.length ++ " keys)")
  let environment ← ExceptT.lift (Settings.ofEnvironment source.environment)
  ofChecked (Settings.layered file environment (Settings.ofArguments source.arguments))

end Config

end SecurityScan
