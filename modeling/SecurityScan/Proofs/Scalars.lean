import SecurityScan.Proofs.Attempt
import SecurityScan.Yaml.ScalarValue

/-!
# Scalars without a value

Each tag has its own kinds of faults. A plain scalar, which has the tag that its form tells, lacks a
value only by a wrong value or by a number that is too large: a day that no month has, digits that
write no number or too many of them.
-/

namespace SecurityScan.Yaml

namespace Tag

end Tag

/-- A wrong value. -/
def IsValueError (f : Fault) : Prop := f.kind = "ValueError"

theorem IsValueError.eq {f : Fault} (h : IsValueError f) : f.kind = "ValueError" := h

/-! ## Numbers -/

theorem stops_wholeOf (s : String) : Stops IsValueError (Fault.wholeOf s) := by
  rw [Fault.wholeOf]
  split
  · exact stops_ok
  · exact stops_error rfl
  · exact stops_error rfl

/-- A wrong value, or one that is too large. -/
def IsNumberError (f : Fault) : Prop := IsValueError f ∨ f.kind = "OverflowError"

theorem stops_doubleOf (s : String) : Stops IsValueError (Fault.doubleOf s) := by
  rw [Fault.doubleOf]
  split
  · exact stops_ok
  · exact stops_error rfl

theorem stops_toDouble (n : Nat) : Stops (fun f => f.kind = "OverflowError") (toDouble n) := by
  rw [toDouble]
  cases Double.ofInt? n with
  | none => exact stops_error rfl
  | some x => exact stops_ok

end SecurityScan.Yaml
