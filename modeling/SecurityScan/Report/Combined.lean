import SecurityScan.Note
import SecurityScan.Value.Access

/-!
# Combined reports

The findings of all analysis units in one list, and the output of every static tool in the shape
that reports read. A tool without usable output is marked unavailable.
-/

namespace SecurityScan

/-- Findings in the order they came, and tool outputs by tool name. -/
structure CombinedReport where
  findings : List Value
  tools : Entries

namespace CombinedReport

def unavailable : String := "unavailable"

/-- The list of findings in the result of one unit; none when it has no such list. -/
def findingsOf? (result : Value) : Option (List Value) := do
  (← (← result.entries?).field? "security_risks").list?

/-- The findings of all units, in order; results without a list of findings add none. -/
def combine (results : List Value) : List Value :=
  results.flatMap fun r => (findingsOf? r).getD []

/-- The result that holds a list of findings. -/
def ofFindings (findings : List Value) : Value := .record [("security_risks", .list findings)]

/-! ## Tools -/

/-- The field in which a known tool lists its results. -/
def resultField? : String → Option String
  | "brakeman" => some "warnings"
  | "bundler_audit" => some "results"
  | _ => none

/-- What stands for the output of a tool that has none. -/
def unavailableOutput : String → Value
  | "brakeman" => .record [("warnings", .list []), ("status", .str unavailable)]
  | "bundler_audit" =>
    .record [("scan", .record [("results", .list [])]), ("status", .str unavailable)]
  | _ => .record [("status", .str unavailable), ("results", .list [])]

/-- The name of a tool; a key that is no text names no known one. -/
def toolName (tool : Value) : String := tool.str?.getD ""

/-- A tool's output in the shape of reports. -/
def normalizeOutput (tool raw : Value) : Noted Value := do
  let none' := unavailableOutput (toolName tool)
  match raw with
  | .null =>
    note .warning ("⚠️  " ++ tool.display ++ " produced no output; marking it unavailable")
    return none'
  | .map es =>
    match resultField? (toolName tool) with
    | none => return raw
    | some field =>
      match (Entries.field? es field).bind Value.list? with
      | none =>
        note .warning ("Malformed " ++ tool.display ++ " output: missing '" ++ field ++
          "' list; marking it unavailable")
        return none'
      | some results =>
        if toolName tool == "bundler_audit" then
          return .record [("scan", .record [("results", .list results)])]
        else return raw
  | _ =>
    note .warning ("Malformed " ++ tool.display ++ " output (" ++ raw.kind ++
      "); marking it unavailable")
    return none'

/-- Every tool's output in the shape of reports, in the order of the tools. -/
def normalizeAll : Entries → Noted Entries
  | [] => pure []
  | (tool, raw) :: rest => do
    let output ← normalizeOutput tool raw
    return (tool, output) :: (← normalizeAll rest)

/-- A report from one combined result and the raw outputs by tool; no outputs mean none ran. -/
def build (result : Value) (outputs : Entries) : Noted CombinedReport := do
  return ⟨(findingsOf? result).getD [], ← normalizeAll outputs⟩

/-- The outputs by tool that a value holds; a value that does not hold has none. -/
def outputsOf (v : Value) : Except Fault Entries :=
  if v.holds then v.entriesFor "items" else .ok []

/-- The report as one value. -/
def toValue (r : CombinedReport) : Value :=
  .record [("ai_security_risks", .list r.findings), ("static_analysis_results", .map r.tools)]

end CombinedReport

end SecurityScan
