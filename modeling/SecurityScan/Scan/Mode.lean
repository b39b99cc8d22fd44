import SecurityScan.Fault

/-!
# Scan modes

What a scan looks at: given paths, the staged changes or the whole project.
-/

namespace SecurityScan

inductive ScanMode
  | paths
  | diff
  | all
deriving DecidableEq

namespace ScanMode

def every : List ScanMode := [.paths, .diff, .all]

def name : ScanMode → String
  | .paths => "paths"
  | .diff => "diff"
  | .all => "all"

/-- The mode of a name. -/
def ofName (s : String) : Except Fault ScanMode :=
  match every.find? (·.name == s) with
  | some m => .ok m
  | none => .error (.badValue (Text.quoted s ++ " is not a valid ScanMode"))

/-- Paths always win; without any the chosen mode is taken, or else the staged changes. -/
def resolve (paths : List String) (chosen : Option ScanMode) : Noted ScanMode := do
  match paths, chosen with
  | [], _ => return chosen.getD .diff
  | _, some m =>
    note .warning
      ("⚠️  Paths provided with --" ++ m.name ++ "; scanning the specified paths instead")
    return .paths
  | _, none => return .paths

end ScanMode

end SecurityScan
