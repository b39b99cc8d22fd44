import SecurityScan.Json.Writer
import SecurityScan.Report.Combined

/-!
# JSON reports

The whole report as indented JSON.
-/

namespace SecurityScan.CombinedReport

def json (r : CombinedReport) : Except Fault String :=
  match SecurityScan.Json.write? .indented r.toValue with
  | some text => .ok text
  | none => .error (.wrongKind "a value or a key has no JSON form")

end SecurityScan.CombinedReport
