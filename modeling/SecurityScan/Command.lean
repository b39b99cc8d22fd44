import SecurityScan.Session
import SecurityScan.Value.Access

/-!
# Commands

External programs that a scan runs, and what running one comes to.
-/

namespace SecurityScan

structure Command where
  arguments : List String
  directory : Option String
  /-- Seconds until it is given up, whole or not. -/
  timeout : Value

namespace Command

/-- What running a command comes to. -/
inductive Outcome
  | finished (stdout stderr : Option String) (code : Int)
  | missing
  | timedOut
  | failed (f : Fault)

/-- The output and the exit status of a command that ran to its end. -/
structure Output where
  stdout : String
  stderr : String
  code : Int

/-- What runs commands. -/
abbrev Shell (σ : Type) := Command → Session σ Outcome

def program (c : Command) : String := c.arguments.head?.getD ""

/-- The command as it is typed. -/
def line (c : Command) : String := " ".intercalate c.arguments

/-- What an outcome is for a tool: its output, or the reason why there is none. -/
def outputOf (c : Command) : Outcome → Except Fault Output
  | .finished stdout stderr code => .ok ⟨stdout.getD "", stderr.getD "", code⟩
  | .missing => .error (.tool (c.program ++ " is not installed or not found in PATH"))
  | .timedOut =>
    .error (.tool ("Command timed out after " ++ c.timeout.display ++ "s: " ++ c.line))
  | .failed f => .error f

end Command

end SecurityScan
