import SecurityScan.Json.Reader
import SecurityScan.Reply.Fence
import SecurityScan.Reply.Finding

/-!
# Reading replies

A reply is a map, or a text that holds one as JSON, maybe between fences. One that cannot be read
or does not fit is noted and left out.
-/

namespace SecurityScan.Reply

/-- The value of a reply that is a text; null after a note when it is not JSON. -/
def decoded (s : String) : Attempt (Option Value) := do
  match Json.read (withoutFence s) with
  | .ok v => return some v
  | .error (.malformed p line column index) =>
    Attempt.note .warning
      ("AI reply is not valid JSON: " ++ Json.placeText p line column index)
    return none
  | .error (.tooManyDigits n) => throw (.tooManyDigits n)
  | .error .tooDeep => throw .tooDeep

/-- The checked form of a reply's value. -/
def checked (v : Value) : Attempt (Option Value) := do
  match v with
  | .map es =>
    match envelopeOf es with
    | .ok (findings, more) => return some (← Attempt.ofExcept (checkedValue findings more))
    | .error n =>
      Attempt.note .warning
        ("AI reply does not match the output schema: " ++ toString n ++ " error(s)")
      return none
  | v =>
    Attempt.note .warning ("AI reply has unexpected type " ++ v.kind)
    return none

/-- The checked form of a reply. -/
def read (raw : Value) : Attempt (Option Value) := do
  match raw with
  | .str s =>
    match ← decoded s with
    | some v => checked v
    | none => return none
  | v => checked v

end SecurityScan.Reply
