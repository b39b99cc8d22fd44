import SecurityScan.Html.Escape
import SecurityScan.Report.Count

/-!
# The built-in page

A standalone page with a summary, a table of findings, and a table for each static tool. Every
value goes in as data, so that all markup of the page is written here.
-/

namespace SecurityScan

/-- What a page shows, worked out before any of it is laid out. -/
structure ReportView where
  findings : List Value
  tools : Entries
  warnings : Option Value
  gems : Option (List Value)
  severityCounts : List (Severity × Nat)
  warningCount : Nat
  gemCount : Nat
  skipped : Bool
  generatedAt : String

namespace CombinedReport

/-- The view of a report at a moment. -/
def view (r : CombinedReport) (generatedAt : String) : Except Fault ReportView := do
  let warnings ← r.warnings?
  let gems ← r.gems?
  let severityCounts ← countBySeverity r.findings
  let (warningCount, gemCount) ← r.countStatic
  return ⟨r.findings, r.tools, warnings, gems, severityCounts, warningCount, gemCount,
    r.tools.isEmpty, generatedAt⟩

end CombinedReport

namespace Html.Page

/-- A field of a value; none when there is no such field. -/
def attr (v : Value) (name : String) : Option Value :=
  match v with
  | .map es => Entries.field? es name
  | _ => none

/-- A field of what may be missing itself, which is then a fault. -/
def attrOf (v : Option Value) (name : String) : Except Fault (Option Value) :=
  match v with
  | some v => .ok (attr v name)
  | none => .error (.undefined ("no value to take '" ++ name ++ "' of"))

/-- A value as text; what is missing shows nothing. -/
def shown (v : Option Value) : Part := .data ((v.map Value.display).getD "")

def holds (v : Option Value) : Bool := (v.map Value.holds).getD false

def head : String :=
  "<!DOCTYPE html>\n" ++
  "<html lang=\"en\">\n" ++
  "<head>\n" ++
  "  <meta charset=\"UTF-8\">\n" ++
  "  <title>Codeward Security Report</title>\n" ++
  "  <style>\n" ++
  "    body \x7b font-family: Arial, sans-serif; background: #f8f8f8; color: #222; \x7d\n" ++
  "    .container \x7b max-width: 1000px; margin: 2em auto; background: #fff; padding: 2em; border-radius: 8px; \x7d\n" ++
  "    h1 \x7b color: #2d5be3; \x7d\n" ++
  "    table \x7b border-collapse: collapse; width: 100%; margin-bottom: 1.5em; \x7d\n" ++
  "    th, td \x7b border: 1px solid #ddd; padding: 0.5em; text-align: left; vertical-align: top; \x7d\n" ++
  "    th \x7b background: #f0f0f0; \x7d\n" ++
  "    pre \x7b background: #f4f4f4; padding: 0.5em; border-radius: 4px; overflow-x: auto; margin: 0; \x7d\n" ++
  "    .severity-critical \x7b color: #b00020; font-weight: bold; \x7d\n" ++
  "    .severity-high \x7b color: #d35400; font-weight: bold; \x7d\n" ++
  "    .severity-medium \x7b color: #b7950b; \x7d\n" ++
  "    .severity-low \x7b color: #1e8449; \x7d\n" ++
  "    .unavailable \x7b color: #888; font-style: italic; \x7d\n" ++
  "    .timestamp \x7b color: #888; font-size: 0.9em; \x7d\n" ++
  "  </style>\n" ++
  "</head>\n" ++
  "<body>\n" ++
  "<div class=\"container\">\n" ++
  "  <h1>🔒 Codeward Security Report</h1>\n" ++
  "  <div class=\"timestamp\">Generated: "

def countRow (row : Severity × Nat) : List Part :=
  [.markup "<li>", .data row.1.name, .markup ": ", .data (toString row.2), .markup "</li>\n    "]

def summary (v : ReportView) : List Part :=
  [.markup head, .data v.generatedAt,
    .markup "</div>\n\n  <h2>Summary</h2>\n  <ul>\n    <li>AI findings: ",
    .data (toString v.findings.length), .markup "</li>\n    "] ++
  v.severityCounts.flatMap countRow ++
  [.markup "\n    <li>Brakeman warnings: ", .data (toString v.warningCount),
    .markup "</li>\n    <li>Vulnerable gems: ", .data (toString v.gemCount),
    .markup "</li>\n  </ul>\n\n  <h2>AI Analysis Results</h2>\n  "]

/-! ## Findings -/

def snippet (v : Option Value) : List Part :=
  if holds v then [.markup "<pre>", shown v, .markup "</pre>"] else []

def findingRow (f : Value) : List Part :=
  let kind := attr f "type"
  let severity := attr f "severity"
  [.markup "\n    <tr class=\"ai-risk\">\n      <td>",
    if holds kind then shown kind else .data "Unknown Type",
    .markup "</td>\n      <td class=\"severity-",
    .data (if holds severity then Text.lower ((severity.map Value.display).getD "") else ""),
    .markup "\">", shown severity,
    .markup "</td>\n      <td>", shown (attr f "location"),
    .markup "</td>\n      <td>", shown (attr f "details"),
    .markup "</td>\n      <td>"] ++
  snippet (attr f "code_snippet") ++ [.markup "</td>\n    </tr>\n    "]

def findingTable (findings : List Value) : List Part :=
  if findings.isEmpty then [.markup "\n  <p>No AI-detected security risks.</p>\n  "]
  else
    [.markup ("\n  <table>\n    <tr><th>Type</th><th>Severity</th><th>Location</th>" ++
      "<th>Details</th><th>Code Snippet</th></tr>\n    ")] ++
    findings.flatMap findingRow ++ [.markup "\n  </table>\n  "]

/-! ## Static tools -/

/-- A text that links to an address if there is one. -/
def linked (address label : Option Value) : List Part :=
  if holds address then
    [.markup "<a href=\"", shown address, .markup "\">", shown label, .markup "</a>"]
  else [shown label]

def warningRow (w : Value) : List Part :=
  [.markup "\n    <tr>\n      <td>"] ++ linked (attr w "link") (attr w "warning_type") ++
  [.markup "</td>\n      <td>", shown (attr w "confidence"),
    .markup "</td>\n      <td>", shown (attr w "message"),
    .markup "</td>\n      <td>", shown (attr w "file"),
    .markup "</td>\n      <td>", shown (attr w "line"),
    .markup "</td>\n    </tr>\n    "]

def warningTable (warnings : Option Value) : Except Fault (List Part) :=
  match warnings with
  | none => .ok [.markup "\n  <p class=\"unavailable\">Brakeman results not available.</p>\n  "]
  | some ws =>
    if !ws.holds then .ok [.markup "\n  <p>No Brakeman warnings found.</p>\n  "]
    else do
      let rows := (← ws.members).flatMap warningRow
      return [.markup ("\n  <table>\n    <tr><th>Warning Type</th><th>Confidence</th>" ++
        "<th>Message</th><th>File</th><th>Line</th></tr>\n    ")] ++ rows ++
        [.markup "\n  </table>\n  "]

/-- The members of a list of versions with commas between them. -/
def versionList (versions : Option Value) : Except Fault String :=
  match versions with
  | none => .ok ""
  | some vs =>
    if !vs.holds then .ok ""
    else do return commaSeparated ((← vs.members).map Value.display)

def gemRow (entry : Value) : Except Fault (List Part) := do
  let gem := attr entry "gem"
  let advisory := attr entry "advisory"
  let name ← attrOf gem "name"
  let version ← attrOf gem "version"
  let url ← attrOf advisory "url"
  let id ← attrOf advisory "id"
  let title ← attrOf advisory "title"
  let criticality ← attrOf advisory "criticality"
  let patched ← versionList (← attrOf advisory "patched_versions")
  return [.markup "\n    <tr>\n      <td>", shown name, .markup " (", shown version,
    .markup ")</td>\n      <td>"] ++ linked url id ++
    [.markup "</td>\n      <td>", shown title, .markup "</td>\n      <td>", shown criticality,
      .markup "</td>\n      <td>", .data patched, .markup "</td>\n    </tr>\n    "]

def gemTable (gems : Option (List Value)) : Except Fault (List Part) :=
  match gems with
  | none =>
    .ok [.markup "\n  <p class=\"unavailable\">Bundler-Audit results not available.</p>\n  "]
  | some [] => .ok [.markup "\n  <p>No vulnerable gems found.</p>\n  "]
  | some entries => do
    let rows ← entries.mapM gemRow
    return [.markup ("\n  <table>\n    <tr><th>Gem</th><th>Advisory</th><th>Title</th>" ++
      "<th>Criticality</th><th>Patched Versions</th></tr>\n    ")] ++ rows.flatten ++
      [.markup "\n  </table>\n  "]

def staticPart (v : ReportView) : Except Fault (List Part) :=
  if v.skipped then
    .ok [.markup "\n  <p class=\"unavailable\">Static analyzers were skipped.</p>\n  "]
  else do
    return [.markup "\n  <h3>Brakeman</h3>\n  "] ++ (← warningTable v.warnings) ++
      [.markup "\n\n  <h3>Bundler-Audit</h3>\n  "] ++ (← gemTable v.gems) ++ [.markup "\n  "]

/-- The parts of the page. -/
def parts (v : ReportView) : Except Fault (List Part) := do
  return summary v ++ findingTable v.findings ++
    [.markup "\n\n  <h2>Static Analysis Results</h2>\n  "] ++ (← staticPart v) ++
    [.markup "\n</div>\n</body>\n</html>"]

def page (v : ReportView) : Except Fault String := do return render (← parts v)

end Html.Page

end SecurityScan
