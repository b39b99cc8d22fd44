import SecurityScan.Chunk
import SecurityScan.Report.Combined
import SecurityScan.Session
import SecurityScan.Value.Basic

/-!
# Analysis units

A text is analyzed in one call when it is within the limit, else chunk by chunk. The units depend
on the text, the limit and the label alone, so that a call which fails changes none of the others.
-/

namespace SecurityScan

/-- What one call analyzes. -/
structure AnalysisUnit where
  content : String
  label : Option String
deriving DecidableEq

/-- What analyzes a unit: its result, null when it has none, or the fault that stopped it. -/
abbrev Analyze (σ : Type) := AnalysisUnit → Session σ (Except Fault Value)

namespace AnalysisUnit

variable {σ : Type}

/-- The units of a text. -/
def ofText (limit : Nat) (content : String) (label : Option String) : List AnalysisUnit :=
  if content.length ≤ limit then [⟨content, label⟩]
  else (Chunk.ofText limit content label).map fun c => ⟨c.content, c.label⟩

/-- What notes call a text with a label. -/
def titleOf (label : Option String) : String :=
  match label with
  | none | some "" => "content"
  | some l => l

/-- The result that an outcome comes to: null, after a note, for a fault. -/
def resultOf (u : AnalysisUnit) : Except Fault Value → Noted Value
  | .error f => do
    note .error ("Analysis failed for " ++ titleOf u.label ++ ": " ++ f.report)
    return .null
  | .ok .null => do
    note .warning ("⚠️  No analysis result for " ++ titleOf u.label)
    return .null
  | .ok v => pure v

/-- The result of one call. -/
def analyze (u : AnalysisUnit) (call : Analyze σ) : Session σ Value := do
  let outcome ← call u
  Session.ofNoted (u.resultOf outcome)

/-- The results of one call for each unit, in order. -/
def analyzeAll (call : Analyze σ) : List AnalysisUnit → Session σ (List Value)
  | [] => pure []
  | u :: us => do
    let result ← u.analyze call
    return result :: (← analyzeAll call us)

/-- The results for a text, one for each of its units. -/
def analyzeText (call : Analyze σ) (limit : Nat) (content : String) (label : Option String) :
    Session σ (List Value) := do
  let units := ofText limit content label
  if limit < content.length then
    Session.note .info
      ("   ✂️  Split " ++ titleOf label ++ " into " ++ toString units.length ++ " chunks")
  analyzeAll call units

/-- The findings for a text in one result, those of its units in order. -/
def processText (call : Analyze σ) (limit : Nat) (content : String) (label : Option String) :
    Session σ Value := do
  return CombinedReport.ofFindings (CombinedReport.combine (← analyzeText call limit content label))

end AnalysisUnit

end SecurityScan
