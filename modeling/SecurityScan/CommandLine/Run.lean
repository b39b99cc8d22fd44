import SecurityScan.Analyzer.Tool
import SecurityScan.Backend.Manager
import SecurityScan.CommandLine.Commands
import SecurityScan.Config.Build
import SecurityScan.Scaffold.Start
import SecurityScan.Scan.Run

/-!
# Running commands

What each command does with its fields: one scan with a report at its end, or files to start with.
Settings that cannot be used end a command with a status of its own; any other fault ends the
program.
-/

namespace SecurityScan.CommandLine

open Files (FileSystem)

/-- What the program runs in. -/
structure Surroundings (σ : Type) where
  environment : Settings.Environment
  link : Backend.Link
  send : Backend.Request → Session σ (Except Fault Backend.Answer)
  shell : Command.Shell σ
  /-- The time that pages show. -/
  now : String

/-- A step that changes files and asks the surroundings. Both changes stay after a fault. -/
abbrev Program (σ : Type) := ExceptT Fault (StateT FileSystem (Session σ))

namespace Program

variable {σ : Type}

def ofNoted {α : Type} (x : Noted α) : Program σ α :=
  ExceptT.lift (StateT.lift (Session.ofNoted x))

def ofExcept {α : Type} (x : Except Fault α) : Program σ α := ExceptT.mk (pure x)

def ofAttempt {α : Type} (x : Attempt α) : Program σ α :=
  ExceptT.mk (StateT.lift (Session.ofAttempt x))

def ofScanStep {α : Type} (x : ScanStep σ α) : Program σ α := ExceptT.mk (StateT.lift x.run)

def ofEdit {α : Type} (x : Edit α) : Program σ α :=
  ExceptT.mk fun fs => Session.ofNoted (x.run.run fs)

def files : Program σ FileSystem := ExceptT.lift get

end Program

/-- How a command ends: its exit status and what it prints. -/
structure Ending where
  status : Nat
  printed : String

/-! ## Fields -/

/-- A field that is a text. -/
def textField (fields : Entries) (name : String) : Option String :=
  (fields.field? name).bind Value.str?

def flagField (fields : Entries) (name : String) : Bool :=
  ((fields.field? name).map Value.holds).getD false

def listField (fields : Entries) (name : String) : List String :=
  (((fields.field? name).bind Value.list?).getD []).filterMap Value.str?

/-- What a scan's fields ask for. -/
def requestOf (fields : Entries) : Noted ScanRequest := do
  let paths := listField fields "paths"
  let chosen := (textField fields "explicit_mode").bind fun s => (ScanMode.ofName s).toOption
  let mode ← ScanMode.resolve paths chosen
  return ⟨mode, paths, flagField fields "ai", flagField fields "force_scan_ignored"⟩

/-! ## Commands -/

variable {σ : Type}

/-- The configuration of the project in the current directory. -/
def configured (w : Surroundings σ) (fs : FileSystem) (arguments : Entries) : Attempt Config :=
  Config.build ⟨fs, w.environment, arguments, ".", none⟩

/-- The manager of a scan, with a client if one can be opened. -/
def connected (w : Surroundings σ) (config : Config) : Noted Manager := do
  let (isReady, m) ← (Manager.ofConfig config).initialized w.link none
  if !isReady then
    note .warning "⚠️  AI analysis unavailable; AI findings will be empty"
  return m

/-- A tool as an analyzer of the current directory. -/
def analyzer (w : Surroundings σ) (config : Config) (tool : Tool) (options : Entries) :
    StaticAnalyzer σ :=
  ⟨tool.name, Analyzer.run ⟨tool, options, none, .int config.toolTimeout⟩ w.shell⟩

def analyzers (w : Surroundings σ) (config : Config) : List (StaticAnalyzer σ) := [
  analyzer w config .brakeman config.brakemanOptions,
  analyzer w config .bundlerAudit config.bundlerAuditOptions]

def runScan (w : Surroundings σ) (fields : Entries) : Program σ Ending := do
  let fs ← Program.files
  let config ← Program.ofAttempt (configured w fs fields)
  let request ← Program.ofNoted (requestOf fields)
  let manager ← Program.ofNoted (connected w config)
  let services : Services σ := {
    ask := manager.analyze w.send
    shell := w.shell
    analyzers := if request.onlyAi then [] else analyzers w config }
  let scanner ← Program.ofAttempt (Scanner.ofConfig fs config none)
  match ← Program.ofScanStep (scanner.run services fs request) with
  | none => return ⟨0, ""⟩
  | some report =>
    let format := (textField fields "format").getD ""
    let made ← Program.ofEdit
      (report.deliver format config.reportPath config.htmlTemplate w.now)
    match made with
    | .printed text => return ⟨0, text⟩
    | .saved _ => return ⟨0, ""⟩

def runInit : Program σ Ending := do
  let _ ← Program.ofEdit (Scaffold.start ".")
  return ⟨0, ""⟩

def runCiSetup (w : Surroundings σ) (fields : Entries) : Program σ Ending := do
  let config ← Program.ofAttempt (configured w (← Program.files) [])
  let service := (textField fields "ci").getD ""
  let _ ← Program.ofEdit (Scaffold.writeWorkflow service config ".")
  return ⟨0, ""⟩

/-- The status of a command whose settings cannot be used. -/
def badSettings : Nat := 2

/-- Runs the command that the fields name. -/
def run (w : Surroundings σ) (fields : Entries) : Program σ Ending := do
  let ending : Program σ Ending :=
    match textField fields "command" with
    | some "init" => runInit
    | some "ci-setup" => runCiSetup w fields
    | _ => runScan w fields
  try ending
  catch
    | .settings issues => do
      Program.ofNoted
        (note .error ("❌ Configuration error: " ++ (Fault.settings issues).message))
      return ⟨badSettings, ""⟩
    | f => throw f

/-- Whether the program is to tell all that it does. -/
def isVerboseRun (fields : Entries) : Bool := flagField fields "verbose"

end SecurityScan.CommandLine
