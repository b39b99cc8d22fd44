import SecurityScan.Command
import SecurityScan.Json.Reader

/-!
# Static analyzers

External tools that look at the project on their own and report as JSON. A tool that cannot be
run, or whose output is no JSON object, has no report.
-/

namespace SecurityScan

/-- The arguments that an option stands for: a flag alone, a flag with its value, or nothing. -/
def optionArgument (key : Value) : Value → Except Fault (List String)
  | .bool true => do return [← key.displayed]
  | .bool false | .null => .ok []
  | v => do return [← key.displayed, ← v.displayed]

def optionArguments (options : Entries) : Except Fault (List String) := do
  return (← options.mapM fun e => optionArgument e.1 e.2).flatten

structure Tool where
  /-- The name that reports use. -/
  name : String
  /-- The name that notes use. -/
  title : String
  command : List String

namespace Tool

def brakeman : Tool := ⟨"brakeman", "Brakeman", ["brakeman", "-f", "json", ".", "--force"]⟩

def bundlerAudit : Tool :=
  ⟨"bundler_audit", "bundler-audit", ["bundle", "audit", "--format", "json"]⟩

end Tool

/-- A tool with its options, the directory it looks at and its time limit in seconds. -/
structure Analyzer where
  tool : Tool
  options : Entries
  directory : Option String
  timeout : Value

namespace Analyzer

def command (a : Analyzer) : Except Fault Command := do
  return ⟨a.tool.command ++ (← optionArguments a.options), a.directory, a.timeout⟩

/-- The report in a tool's output; the exit status tells only whether there are findings. -/
def report (a : Analyzer) (stdout : String) : Attempt Value := do
  match Json.read stdout with
  | .error (.malformed ..) =>
    Attempt.note .error ("❌ Failed to parse " ++ a.tool.title ++ " JSON output")
    return .null
  | .error (.tooManyDigits n) => throw (.tooManyDigits n)
  | .error .tooDeep => throw .tooDeep
  | .ok (.map es) =>
    Attempt.note .info ("   ✅ " ++ a.tool.title ++ " finished")
    return .map es
  | .ok v =>
    Attempt.note .error ("❌ Unexpected " ++ a.tool.title ++ " output type: " ++ v.kind)
    return .null

/-- What an outcome of a command comes to. -/
def reportOf (a : Analyzer) (c : Command) (outcome : Command.Outcome) : Attempt Value := do
  match c.outputOf outcome with
  | .ok output => a.report output.stdout
  | .error (.tool reason) =>
    Attempt.note .error ("❌ " ++ a.tool.title ++ " could not run: " ++ reason)
    return .null
  | .error f => throw f

/-- Runs the tool; null when it has no report. -/
def run {σ : Type} (a : Analyzer) (shell : Command.Shell σ) : Session σ (Except Fault Value) := do
  Session.note .info ("🔍 Running " ++ a.tool.title ++ "...")
  match a.command with
  | .error f => return .error f
  | .ok c =>
    let outcome ← shell c
    Session.ofAttempt (a.reportOf c outcome)

end Analyzer

end SecurityScan
