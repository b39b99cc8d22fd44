import SecurityScan.Fault

/-!
# Sessions

Steps that ask something outside the program, such as a backend or a command, and write notes. The
state stands for all that is outside.
-/

namespace SecurityScan

abbrev Session (σ : Type) := StateT σ Noted

namespace Session

variable {σ : Type}

def note (level : Level) (text : String) : Session σ Unit :=
  StateT.lift (SecurityScan.note level text)

/-- A step of its own that asks nothing. -/
def ofNoted {α : Type} (x : Noted α) : Session σ α := StateT.lift x

/-- A step that may stop, with its fault as a result. -/
def ofAttempt {α : Type} (x : Attempt α) : Session σ (Except Fault α) := ofNoted x.run

end Session

end SecurityScan
