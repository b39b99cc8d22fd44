import SecurityScan.Number.Double

/-!
# Powers of doubles

The power of two doubles where it is a double. It is computed by the floating point unit, and
only the cases that have a rule of their own are told apart here.
-/

namespace SecurityScan.Double

/-! ## The form of sixty-four bits -/

/-- The bits of a double. -/
def bits : Double → Nat
  | .finite neg mant exp _ =>
    let sign := if neg then 2 ^ 63 else 0
    if mant < 2 ^ 52 then sign + mant else sign + (exp + 1) * 2 ^ 52 + (mant - 2 ^ 52)
  | .infinite neg => (if neg then 2 ^ 63 else 0) + 2047 * 2 ^ 52
  | .nan => 4095 * 2 ^ 51

/-- The double of some bits. -/
def ofBits (n : Nat) : Double :=
  let neg := 2 ^ 63 ≤ n
  let exp := n / 2 ^ 52 % 2048
  let part := n % 2 ^ 52
  if exp = 2047 then if part = 0 then .infinite neg else .nan
  else if exp = 0 then ofScaled neg part 0
  else ofScaled neg (2 ^ 52 + part) (exp - 1)

def toFloat (x : Double) : Float := Float.ofBits (UInt64.ofNat x.bits)

def ofFloat (x : Float) : Double := ofBits x.toBits.toNat

/-! ## Powers -/

/-- Whether a double is a whole number. -/
def isWhole (x : Double) : Bool :=
  match x.scaled? with
  | some n => n % 2 ^ 1074 == 0
  | none => false

inductive PowerError
  /-- Zero to a negative power. -/
  | divisionByZero
  /-- The power is larger than all doubles. -/
  | overflow

/-- A power that is not real: the size and the angle of it. -/
structure Polar where
  size : Double
  angle : Double

/-- `x` to the power `y`; a negative number to a power that is not whole is no double. -/
def power (x y : Double) : Except PowerError (Double ⊕ Polar) :=
  let result := ofFloat (x.toFloat.pow y.toFloat)
  if x.isZero && y.isNegative then
    if y.isZero then .ok (.inl result) else .error .divisionByZero
  else
    match x, y with
    | .finite true m _ _, .finite .. =>
      if m ≠ 0 ∧ !y.isWhole then
        let size := ofFloat (x.neg.toFloat.pow y.toFloat)
        let angle := ofFloat ((Float.atan2 0 (-1)) * y.toFloat)
        if size.scaled?.isNone then .error .overflow else .ok (.inr ⟨size, angle⟩)
      else if result.scaled?.isNone then .error .overflow
      else .ok (.inl result)
    | .finite .., .finite .. =>
      if result.scaled?.isNone then .error .overflow else .ok (.inl result)
    | _, _ => .ok (.inl result)

/-- The real and the imaginary part of a number of a size and an angle. -/
def Polar.parts (p : Polar) : Double × Double :=
  (ofFloat (p.size.toFloat * p.angle.toFloat.cos), ofFloat (p.size.toFloat * p.angle.toFloat.sin))

end SecurityScan.Double
