import SecurityScan.Report.Combined
import SecurityScan.Text.Case

/-!
# Counts

Findings by severity, Brakeman warnings and vulnerable gems.
-/

namespace SecurityScan

inductive Severity
  | critical
  | high
  | medium
  | low
  | info
deriving DecidableEq

namespace Severity

/-- From the worst to the mildest. -/
def all : List Severity := [.critical, .high, .medium, .low, .info]

def name : Severity → String
  | .critical => "Critical"
  | .high => "High"
  | .medium => "Medium"
  | .low => "Low"
  | .info => "Info"

def icon : Severity → String
  | .critical => "🔴"
  | .high => "🟠"
  | .medium => "🟡"
  | .low => "🟢"
  | .info => "🔵"

/-- The severity of a name, exactly as it is spelled. -/
def ofName? (s : String) : Option Severity := all.find? (·.name == s)

/-- The severity of a name in any case. -/
def ofText? (s : String) : Option Severity := ofName? (Text.capitalize s)

end Severity

namespace CombinedReport

/-- The severity of a finding, if it is one of the five. -/
def severityOf (finding : Value) : Except Fault (Option Severity) := do
  return Severity.ofText? (← finding.lookupD "severity" (.str "")).display

/-- The findings of one severity, in order. -/
def findingsAt (severity : Severity) (findings : List Value) : Except Fault (List Value) :=
  findings.filterM fun f => return (← severityOf f) == some severity

/-- How many findings each severity has, from the worst to the mildest. -/
def countBySeverity (findings : List Value) : Except Fault (List (Severity × Nat)) := do
  let severities ← findings.mapM severityOf
  return Severity.all.map fun s => (s, severities.count (some s))

/-- The output of a tool that has one. -/
def output? (r : CombinedReport) (tool : String) : Except Fault (Option Value) :=
  match r.tools.field? tool with
  | none => .ok none
  | some v =>
    if !v.holds then .ok none
    else do
      match ← v.lookup "status" with
      | some (.str s) => return if s == unavailable then none else some v
      | _ => return some v

/-- The Brakeman warnings; none when Brakeman has no results. -/
def warnings? (r : CombinedReport) : Except Fault (Option Value) := do
  match ← r.output? "brakeman" with
  | none => return none
  | some v =>
    match ← v.lookupD "warnings" (.list []) with
    | .null => return none
    | ws => return some ws

/-- Whether an entry says that a gem has a known vulnerability. -/
def isUnpatched (entry : Value) : Except Fault Bool := do
  return ((← entry.lookup "type").getD .null).same (.str "unpatched_gem")

/-- The gems with a known vulnerability; none when bundler-audit has no results. -/
def gems? (r : CombinedReport) : Except Fault (Option (List Value)) := do
  match ← r.output? "bundler_audit" with
  | none => return none
  | some v =>
    let results ← (← v.lookupD "scan" (.map [])).lookupD "results" (.list [])
    return some (← (← results.members).filterM isUnpatched)

/-- The number of warnings and of gems. -/
def countStatic (r : CombinedReport) : Except Fault (Nat × Nat) := do
  let warnings := ((← r.warnings?).getD .null).orElse (.list [])
  let gems := (← r.gems?).getD []
  return (← warnings.count, gems.length)

end CombinedReport

end SecurityScan
