import SecurityScan.Report.Count
import SecurityScan.Text.Line

/-!
# Console reports

The report as plain text for a terminal.
-/

namespace SecurityScan.CombinedReport

/-- The lines of a snippet with their numbers. -/
def numberedLines (indent : String) (lines : List String) : String :=
  String.join (lines.mapIdx fun i l => indent ++ toString (i + 1) ++ ": " ++ l ++ "\n")

/-- A snippet with numbered lines; one that does not hold is shown as missing. -/
def numberedSnippet (indent : String) (snippet : Value) : Except Fault String :=
  if !snippet.holds then .ok (indent ++ "(none)\n")
  else
    match snippet with
    | .str s => .ok (numberedLines indent (Text.splitLines s))
    | v => .error (v.lacks "splitlines")

def snippetIndent : String := "      "

/-- The field of a finding as text, empty when it is missing. -/
def fieldText (v : Value) (name : String) : Except Fault String := do
  return (← v.lookupD name (.str "")).display

/-- The field of a warning as text, `None` when it is missing. -/
def fieldOrNone (v : Value) (name : String) : Except Fault String := do
  return (← v.lookupD name .null).display

/-- The type of a finding; one that does not hold is unknown. -/
def typeText (finding : Value) : Except Fault String := do
  return ((← finding.lookupD "type" .null).orElse (.str "Unknown Type")).display

def severityIcon (name : String) : String := ((Severity.ofName? name).map (·.icon)).getD "⚪"

/-- A text without the newlines at its end. -/
def withoutLastNewlines (s : String) : String :=
  String.ofList (Text.trimRightBy (· == '\n') s.toList)

def consoleFinding (finding : Value) : Except Fault (List String) := do
  let severity := (← finding.lookupD "severity" (.str "Unknown")).display
  let snippet ← numberedSnippet snippetIndent (← finding.lookupD "code_snippet" .null)
  return ["  - Type: " ++ (← typeText finding),
    "    Severity: " ++ severityIcon severity ++ " " ++ severity,
    "    Location: " ++ (← fieldText finding "location"),
    "    Details: " ++ (← fieldText finding "details"),
    "    Code Snippet:",
    withoutLastNewlines snippet,
    ""]

def consoleWarning (warning : Value) : Except Fault (List String) := do
  return ["    - Warning Type: " ++ (← fieldOrNone warning "warning_type"),
    "      Confidence: " ++ (← fieldOrNone warning "confidence"),
    "      Message: " ++ (← fieldOrNone warning "message"),
    "      File: " ++ (← fieldOrNone warning "file"),
    "      Line: " ++ (← fieldOrNone warning "line"),
    "      Code: " ++ (← fieldOrNone warning "code"),
    "      Link: " ++ (← fieldOrNone warning "link")]

def consoleGem (entry : Value) : Except Fault (List String) := do
  let advisory ← entry.lookupD "advisory" (.map [])
  let gem ← entry.lookupD "gem" (.map [])
  let id ← fieldOrNone advisory "id"
  let name ← fieldOrNone gem "name"
  let version ← fieldOrNone gem "version"
  let title ← fieldOrNone advisory "title"
  let url ← fieldOrNone advisory "url"
  let criticality ← fieldOrNone advisory "criticality"
  let patched := (← advisory.lookupD "patched_versions" .null).orElse (.list [])
  return ["    - ID: " ++ id,
    "      Gem: " ++ name ++ " (" ++ version ++ ")",
    "      Title: " ++ title,
    "      URL: " ++ url,
    "      Criticality: " ++ criticality,
    "      Patched Versions: " ++ (← patched.joinTexts ", ")]

def consoleStatic (r : CombinedReport) : Except Fault (List String) := do
  if r.tools.isEmpty then return ["Static analyzers were skipped."]
  let warnings ← r.warnings?
  let warningLines ← match warnings with
    | none => pure ["  ⚠️  Brakeman results not available."]
    | some w =>
      if w.holds then pure (List.flatten (← (← w.members).mapM consoleWarning))
      else pure ["  ✅ No Brakeman warnings found."]
  let gems ← r.gems?
  let gemLines ← match gems with
    | none => pure ["  ⚠️  Bundler-Audit results not available."]
    | some [] => pure ["  ✅ No vulnerable gems found."]
    | some entries => pure (List.flatten (← entries.mapM consoleGem))
  return ["Brakeman:"] ++ warningLines ++ ["", "Bundler-Audit:"] ++ gemLines ++ [""]

/-- A name and its colon in ten columns. -/
def severityColumn (s : Severity) : String :=
  let text := s.name ++ ":"
  text ++ String.ofList (List.replicate (10 - text.length) ' ')

def rule : String := String.ofList (List.replicate 80 '=')

/-- The report for a terminal. -/
def console (r : CombinedReport) : Except Fault String := do
  let head := [rule, "🔒 CODEWARD SECURITY SCAN", rule, "", "--- AI Analysis Results ---"]
  let findings ← r.findings.mapM consoleFinding
  let findingLines :=
    if r.findings.isEmpty then ["✅ No AI-detected security risks."] else findings.flatten
  let static ← consoleStatic r
  let counts ← countBySeverity r.findings
  let (warnings, gems) ← r.countStatic
  let countLines := counts.map fun (s, n) =>
    "   " ++ s.icon ++ " " ++ severityColumn s ++ toString n
  let lines := head ++ findingLines ++ ["", "--- Static Analysis Results ---"] ++ static ++
    ["--- Scan Summary ---",
      "📊 AI Analysis: " ++ toString r.findings.length ++ " issues"] ++ countLines ++
    ["🔧 Brakeman: " ++ toString warnings ++ " warnings",
      "📦 Bundler-Audit: " ++ toString gems ++ " vulnerabilities", rule]
  return String.intercalate "\n" lines ++ "\n"

end SecurityScan.CombinedReport
