import SecurityScan.Report.Console

/-!
# Markdown reports

A summary, then the findings of each severity under a heading of their own, then the warnings and
the vulnerable gems. A finding whose severity is none of the five is counted but not listed.
-/

namespace SecurityScan.CombinedReport

def markdownFinding (index : Nat) (finding : Value) : Except Fault String := do
  let title ← typeText finding
  let location ← fieldText finding "location"
  let details ← fieldText finding "details"
  let snippet ← finding.lookupD "code_snippet" .null
  let code := if snippet.holds then "```ruby\n" ++ snippet.display ++ "\n```\n\n" else ""
  return "### " ++ toString index ++ ". " ++ title ++ "\n\n" ++
    "**Location**: `" ++ location ++ "`\n\n" ++ "**Details**: " ++ details ++ "\n\n" ++ code ++
    "---\n\n"

/-- The entries of a section, numbered from `index`. -/
def markdownFindings (index : Nat) : List Value → Except Fault String
  | [] => .ok ""
  | f :: fs => do return (← markdownFinding index f) ++ (← markdownFindings (index + 1) fs)

/-- The section of one severity; none when it has no findings. -/
def markdownSection (findings : List Value) (s : Severity) : Except Fault String := do
  match ← findingsAt s findings with
  | [] => return ""
  | fs =>
    return "## " ++ s.name ++ " Issues (" ++ toString fs.length ++ ")\n\n" ++
      (← markdownFindings 1 fs)

def markdownWarning (warning : Value) : Except Fault String := do
  return "- **" ++ (← fieldOrNone warning "warning_type") ++ "** (" ++
    (← fieldOrNone warning "confidence") ++ "): " ++ (← fieldOrNone warning "message") ++ " `" ++
    (← fieldOrNone warning "file") ++ ":" ++ (← fieldOrNone warning "line") ++ "`\n"

def markdownGem (entry : Value) : Except Fault String := do
  let advisory ← entry.lookupD "advisory" (.map [])
  let gem ← entry.lookupD "gem" (.map [])
  return "- **" ++ (← fieldOrNone gem "name") ++ " " ++ (← fieldOrNone gem "version") ++ "**: " ++
    (← fieldOrNone advisory "id") ++ " " ++ (← fieldOrNone advisory "title") ++ " (" ++
    (← fieldOrNone advisory "criticality") ++ ")\n"

/-- The report as Markdown. -/
def markdown (r : CombinedReport) : Except Fault String := do
  let counts ← countBySeverity r.findings
  let (warningCount, gemCount) ← r.countStatic
  let summary := "# 🔒 Codeward Security Report\n\n" ++ "## 📊 Summary\n\n" ++
    "**AI Findings**: " ++ toString r.findings.length ++ "\n\n" ++
    String.join (counts.map fun (s, n) =>
      "- " ++ s.icon ++ " **" ++ s.name ++ "**: " ++ toString n ++ "\n") ++
    "\n**Brakeman warnings**: " ++ toString warningCount ++ "\n\n" ++
    "**Vulnerable gems**: " ++ toString gemCount ++ "\n\n" ++ "---\n\n"
  let sections ← Severity.all.mapM (markdownSection r.findings)
  let warnings := (← r.warnings?).getD .null
  let warningPart ←
    if warnings.holds then do
      let lines ← (← warnings.members).mapM markdownWarning
      pure ("## Brakeman Warnings\n\n" ++ String.join lines ++ "\n")
    else pure ""
  let gemPart ← match (← r.gems?).getD [] with
    | [] => pure ""
    | gems => do
      let lines ← gems.mapM markdownGem
      pure ("## Vulnerable Gems\n\n" ++ String.join lines ++ "\n")
  return summary ++ String.join sections ++ warningPart ++ gemPart

end SecurityScan.CombinedReport
