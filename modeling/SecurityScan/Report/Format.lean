import SecurityScan.Files.Edit
import SecurityScan.Html.Page
import SecurityScan.Report.Console
import SecurityScan.Report.Json
import SecurityScan.Report.Markdown
import SecurityScan.Template.Reader

/-!
# Report formats

A report as text in one of four formats, and where the text goes: one format is printed, the
others are saved to files. A page may be laid out by a template of one's own.
-/

namespace SecurityScan

open Files (FileSystem)

inductive ReportFormat
  | console
  | json
  | markdown
  | html
deriving DecidableEq

namespace ReportFormat

def all : List ReportFormat := [.console, .json, .markdown, .html]

def name : ReportFormat → String
  | .console => "console"
  | .json => "json"
  | .markdown => "markdown"
  | .html => "html"

/-- What the names of its files end in. -/
def extension : ReportFormat → String
  | .console => ""
  | .json => ".json"
  | .markdown => ".md"
  | .html => ".html"

/-- The format of a name. -/
def ofName (s : String) : Except Fault ReportFormat :=
  match all.find? (·.name == s) with
  | some f => .ok f
  | none => .error (.badValue ("Unknown report format: " ++ s ++ ". Choose from: " ++
      commaSeparated (all.map name)))

end ReportFormat

/-! ## Pages -/

namespace ReportView

/-- The warnings, which are those that their tool put out if it put out any. -/
def warningsMeaning (v : ReportView) : Template.Meaning :=
  match (v.tools.field? "brakeman").bind Value.entries? with
  | some es =>
    match v.warnings, es.field? "warnings" with
    | some _, some _ => .part "static_results" ["brakeman", "warnings"]
    | warnings, _ => .value (warnings.getD .null)
  | none => .value (v.warnings.getD .null)

/-- The results that a tool put out, with their places, if it put out a list. -/
def gemResults? (v : ReportView) : Option (List (Value × Nat)) := do
  let output ← (← v.tools.field? "bundler_audit").entries?
  let scan ← (← output.field? "scan").entries?
  return (← (← scan.field? "results").list?).zipIdx

/-- Whether a result is one of a gem with a known vulnerability. -/
def isGem (entry : Value) : Bool :=
  match CombinedReport.isUnpatched entry with
  | .ok b => b
  | .error _ => false

/-- The gems, which are some of the results that their tool put out. -/
def gemsMeaning (v : ReportView) : Template.Meaning :=
  match v.gems, v.gemResults? with
  | some _, some results =>
    .chosen "static_results" ["bundler_audit", "scan", "results"]
      ((results.filter fun (entry, _) => isGem entry).map (·.2))
  | gems, _ => .value ((gems.map Value.list).getD .null)

/-- What the names in a template stand for. -/
def names (v : ReportView) : List (String × Template.Meaning) := [
  ("ai_risks", .value (.list v.findings)),
  ("static_results", .value (.map v.tools)),
  ("brakeman_warnings", v.warningsMeaning),
  ("vulnerable_gems", v.gemsMeaning),
  ("severity_counts", .value (.record (v.severityCounts.map fun (s, n) => (s.name, .int n)))),
  ("static_counts", .value
    (.record [("brakeman", .int v.warningCount), ("bundler_audit", .int v.gemCount)])),
  ("static_skipped", .value (.bool v.skipped)),
  ("generated_at", .value (.str v.generatedAt))]

end ReportView

namespace CombinedReport

/-- The template of a file; none, after a note, when the file has none that can be used. -/
def templateOf (fs : FileSystem) (path : String) : Attempt (Option Template) := do
  match fs.readText (Path.tidy path) with
  | .ok source =>
    match Template.read source with
    | .ok t => return some t
    | .error (.fault f) => throw f
    | .error .malformed =>
      Attempt.note .warning ("⚠️  HTML template " ++ path ++ " is invalid (" ++
        Note.omitted "jinja" ++ "); using the built-in template")
      return none
  | .error (.file f) =>
    Attempt.note .warning ("⚠️  HTML template not readable (" ++ f.message ++
      "); using the built-in template")
    return none
  | .error f => throw f

/-- The page of a report, by the template of a file if one is given. -/
def html (r : CombinedReport) (fs : FileSystem) (template : Option String) (now : String) :
    Attempt String := do
  let own ← match template with
    | none | some "" => pure none
    | some path => templateOf fs path
  let v ← Attempt.ofExcept (r.view now)
  match own with
  | none => Attempt.ofExcept (Html.Page.page v)
  | some t => Attempt.ofExcept (t.render v.names)

/-- The text of a report in a format. -/
def rendered (r : CombinedReport) (fs : FileSystem) (format : ReportFormat)
    (template : Option String) (now : String) : Attempt String :=
  match format with
  | .console => Attempt.ofExcept r.console
  | .json => Attempt.ofExcept r.json
  | .markdown => Attempt.ofExcept r.markdown
  | .html => r.html fs template now

/-! ## Delivery -/

/-- What became of a report. -/
inductive Delivery
  | printed (text : String)
  | saved (path : String)

/-- Renders a report, and only then prints it or saves it to a file. -/
def deliver (r : CombinedReport) (format : String) (start : String) (template : Option String)
    (now : String) : Edit Delivery := do
  let f ← Edit.ofExcept (ReportFormat.ofName format)
  let text ← Edit.ofAttempt (r.rendered (← Edit.files) f template now)
  match f with
  | .console => return .printed (text ++ "\n")
  | f =>
    let path := Path.tidy (start ++ f.extension)
    Edit.saveText path text
    Edit.note .info ("📄 " ++ Text.upper f.name ++ " report generated: " ++ path)
    return .saved path

end CombinedReport

end SecurityScan
