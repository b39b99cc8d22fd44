import SecurityScan.Command
import SecurityScan.Config.Basic
import SecurityScan.Dispatch
import SecurityScan.Ignore.File
import SecurityScan.Prompt.Basic
import SecurityScan.Reply.Schema
import SecurityScan.Report.Combined
import SecurityScan.Scan.Collect
import SecurityScan.Scan.Mode
import SecurityScan.StagedDiff

/-!
# Scans

One scan from the request to the combined report: the static analyzers, the text to analyze by
mode, and one question to the backend for each unit of it.
-/

namespace SecurityScan

open Files (FileSystem)

/-- What is scanned and how. -/
structure ScanRequest where
  mode : ScanMode
  paths : List String
  /-- Whether the static analyzers are left out. -/
  onlyAi : Bool
  /-- Whether ignored files are scanned too. -/
  force : Bool

/-- A static analyzer: its name in the report, and a run of it. -/
structure StaticAnalyzer (σ : Type) where
  name : String
  run : Session σ (Except Fault Value)

/-- What a scan asks of its surroundings. -/
structure Services (σ : Type) where
  /-- The backend's reply to a prompt in the form of a schema, null when it has none. -/
  ask : String → Value → Session σ (Except Fault Value)
  shell : Command.Shell σ
  analyzers : List (StaticAnalyzer σ)

/-- A step of a scan, which a fault can end. -/
abbrev ScanStep (σ : Type) := ExceptT Fault (Session σ)

namespace ScanStep

variable {σ : Type}

def ofSession {α : Type} (x : Session σ α) : ScanStep σ α := ExceptT.lift x

def ofAttempt {α : Type} (x : Attempt α) : ScanStep σ α := ExceptT.mk (Session.ofAttempt x)

def note (level : Level) (text : String) : ScanStep σ Unit := ofSession (Session.note level text)

end ScanStep

/-- All that the scans of one project have in common. -/
structure Scanner where
  config : Config
  project : Project
  prompts : Prompts
  rules : List IgnoreRule
  /-- The length of a text that is analyzed in one call. -/
  limit : Nat

namespace Scanner

variable {σ : Type}

/-- The scanner of a project, which is the current directory when none is given. -/
def ofConfig (fs : FileSystem) (config : Config) (root : Option String) : Attempt Scanner := do
  let given := (root.filter (· != "")).getD fs.cwd
  let top := Path.absolute fs.cwd given
  let limit ← Attempt.ofExcept (Chunk.limitOf (.int config.chunkSize))
  let rules ← IgnoreRule.load fs (Path.below top config.ignoreFile)
  return ⟨config, ⟨fs.cwd, some top⟩,
    Prompts.ofTemplates config.promptTemplates config.language, rules, limit⟩

def root (s : Scanner) : String := s.project.rootPath

def collector (s : Scanner) (force : Bool) : Collector :=
  ⟨s.project, s.config.sourceExtensions, s.rules, force⟩

/-! ## Static analyzers -/

/-- The output that one run comes to: null, after a note, for a fault. -/
def outputOf (name : String) : Except Fault Value → Noted Value
  | .ok v => pure v
  | .error f => do
    note .error ("❌ " ++ name ++ " failed: " ++ f.report)
    return .null

/-- The outputs by name, each analyzer run once and in order. -/
def outputs (entries : Entries) : List (StaticAnalyzer σ) → Session σ Entries
  | [] => pure entries
  | a :: rest => do
    let outcome ← a.run
    let output ← Session.ofNoted (outputOf a.name outcome)
    outputs (Entries.insert entries (.str a.name) output) rest

def runAnalyzers (analyzers : List (StaticAnalyzer σ)) : Session σ Entries := do
  Session.note .info "🔧 Running static analyzers..."
  outputs [] analyzers

/-! ## Units -/

/-- The question about one unit. -/
def question (s : Scanner) (u : AnalysisUnit) : Question :=
  ⟨u.content, .list (s.config.checks.map .str), Reply.schema, u.label⟩

/-- The backend's reply for one unit. -/
def askAbout (s : Scanner) (services : Services σ) : Analyze σ := fun u => do
  match ← Session.ofAttempt (s.prompts.build (s.question u) Prompts.usualKey) with
  | .error f => return .error f
  | .ok prompt => services.ask prompt Reply.schema

def analyzeText (s : Scanner) (services : Services σ) (content : String) (label : Option String) :
    ScanStep σ (List Value) :=
  ScanStep.ofSession (AnalysisUnit.analyzeText (s.askAbout services) s.limit content label)

/-! ## Modes -/

/-- The results of a scan's units, or none when nothing was analyzed. -/
abbrev UnitResults := Option (List Value)

/-- The results for those files that can be read, file by file. -/
def analyzeFiles (s : Scanner) (services : Services σ) (fs : FileSystem) :
    List String → ScanStep σ UnitResults
  | [] => pure none
  | path :: rest => do
    match ← ScanStep.ofAttempt (sourceText? fs path) with
    | none => s.analyzeFiles services fs rest
    | some text =>
      let label := s.project.displayPath path
      ScanStep.note .info ("🔍 Analyzing file: " ++ label)
      let here ← s.analyzeText services text (some label)
      let later ← s.analyzeFiles services fs rest
      return some (here ++ later.getD [])

def scanPaths (s : Scanner) (services : Services σ) (fs : FileSystem) (request : ScanRequest) :
    ScanStep σ UnitResults := do
  let targets := request.paths.map (ScanTarget.ofPath fs.cwd)
  let files ← ScanStep.ofSession
    (Session.ofNoted ((s.collector request.force).collect fs targets))
  if files.isEmpty then
    ScanStep.note .info "No source files found in the specified paths."
    return none
  else
    ScanStep.note .info ("🤖 Scanning " ++ toString files.length ++ " file(s) with AI...")
    s.analyzeFiles services fs files

def scanDiff (s : Scanner) (services : Services σ) : ScanStep σ UnitResults := do
  let diff ← ExceptT.mk ((DiffReader.ofRepository s.root).staged services.shell)
  match diff.str?.getD "" with
  | "" =>
    ScanStep.note .info "No staged changes to scan."
    return none
  | text =>
    ScanStep.note .info "🤖 Scanning staged differences with AI..."
    return some (← s.analyzeText services text none)

def scanAll (s : Scanner) (services : Services σ) (fs : FileSystem) (request : ScanRequest) :
    ScanStep σ UnitResults := do
  let targets := [ScanTarget.ofPath fs.cwd s.root]
  let files ← ScanStep.ofSession
    (Session.ofNoted ((s.collector request.force).collect fs targets))
  let content ← ScanStep.ofAttempt (concatenated fs s.project files)
  if Text.strip content == "" then
    ScanStep.note .info "No code found to scan."
    return none
  else
    ScanStep.note .info
      ("🤖 Scanning entire codebase (" ++ toString files.length ++ " files) with AI...")
    return some (← s.analyzeText services content none)

def analyzeMode (s : Scanner) (services : Services σ) (fs : FileSystem) (request : ScanRequest) :
    ScanStep σ UnitResults :=
  match request.mode with
  | .paths => s.scanPaths services fs request
  | .diff => s.scanDiff services
  | .all => s.scanAll services fs request

/-! ## Report -/

/-- The report of all results, after a note on the units that have none. -/
def reportOf (results : List Value) (outputs : Option Entries) : Noted CombinedReport := do
  let failed := results.countP Value.isNull
  if 0 < failed then
    note .warning ("⚠️  " ++ toString failed ++ " of " ++ toString results.length ++
      " analysis unit(s) returned no result")
  let findings := CombinedReport.ofFindings (CombinedReport.combine results)
  let report ← CombinedReport.build findings (outputs.getD [])
  note .info ("   ✅ Scan complete: " ++ toString report.findings.length ++ " AI finding(s)")
  return report

/-- The outputs of the static analyzers, unless they are left out. -/
def staticOutputs (services : Services σ) (onlyAi : Bool) : ScanStep σ (Option Entries) :=
  if onlyAi then pure none else some <$> ScanStep.ofSession (runAnalyzers services.analyzers)

/-- What a scan comes to. There is no report when nothing was analyzed and no analyzer was to run. -/
def conclude : UnitResults → Option Entries → ScanStep σ (Option CombinedReport)
  | none, none => do
    ScanStep.note .info "Nothing to scan."
    return none
  | results, outputs =>
    some <$> ScanStep.ofSession (Session.ofNoted (reportOf (results.getD []) outputs))

/-- One scan. -/
def run (s : Scanner) (services : Services σ) (fs : FileSystem) (request : ScanRequest) :
    ScanStep σ (Option CombinedReport) := do
  let outputs ← staticOutputs services request.onlyAi
  let results ← s.analyzeMode services fs request
  conclude results outputs

end Scanner

end SecurityScan
