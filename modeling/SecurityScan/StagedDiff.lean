import SecurityScan.Command
import SecurityScan.Text.CharClass

/-!
# Staged changes

What is about to be committed, as the version control system shows it. Where it cannot show it,
nothing is staged.
-/

namespace SecurityScan

/-- Reads the staged changes of a repository. -/
structure DiffReader where
  repository : String
  timeout : Value

namespace DiffReader

/-- A reader that waits half a minute. -/
def ofRepository (path : String) : DiffReader := ⟨path, .int 30⟩

def command (r : DiffReader) (arguments : List String) : Command :=
  ⟨"git" :: arguments, some r.repository, r.timeout⟩

/-- The output of a command, null when there is none, or the reason why it failed. -/
def outputOf (c : Command) : Command.Outcome → Except Fault Value
  | .missing => .error (.git "git is not installed or not found in PATH")
  | .timedOut => .error (.git ("git command timed out: " ++ c.line))
  | .failed f => .error f
  | .finished stdout _ 0 => .ok ((stdout.map Value.str).getD .null)
  | .finished _ none _ => .error (Value.null.lacks "strip")
  | .finished _ (some stderr) code =>
    .error (.git ("git command failed (exit " ++ toString code ++ "): " ++ c.line ++ "\n" ++
      Text.strip stderr))

/-- The output of the version control system for some arguments. -/
def output {σ : Type} (r : DiffReader) (shell : Command.Shell σ) (arguments : List String) :
    Session σ (Except Fault Value) := do
  return outputOf (r.command arguments) (← shell (r.command arguments))

def stagedArguments : List String := ["diff", "--staged"]

/-- The staged changes that an output stands for. -/
def stagedOf (x : Except Fault Value) : Attempt Value := do
  match x with
  | .ok diff => return diff
  | .error (.git reason) =>
    Attempt.note .warning ("⚠️  Could not read staged changes: " ++ reason)
    return .str ""
  | .error f => throw f

/-- The staged changes, empty after a note when they cannot be read. -/
def staged {σ : Type} (r : DiffReader) (shell : Command.Shell σ) :
    Session σ (Except Fault Value) := do
  let x ← r.output shell stagedArguments
  Session.ofAttempt (stagedOf x)

end DiffReader

end SecurityScan
