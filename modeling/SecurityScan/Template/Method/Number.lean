import SecurityScan.Template.Method.Collection
import SecurityScan.Template.Rounding

/-!
# Operations of numbers

What numbers can be asked to do.
-/

namespace SecurityScan.Template.Method

open Render

def bitLength (n : Nat) : Nat := if n == 0 then 0 else Nat.log2 n + 1

def bitCount (n : Nat) : Nat := ((Nat.toDigits 2 n).filter (· == '1')).length

/-- A double as a fraction in lowest terms. -/
def fraction (x : Double) : Render Item :=
  match x with
  | .nan => throw (.badValue "cannot convert NaN to integer ratio")
  | .infinite _ => throw (.overflow "cannot convert Infinity to integer ratio")
  | x =>
    let n := x.scaled?.getD 0
    let common := Nat.gcd n.natAbs (2 ^ 1074)
    return .tuple [.int (n / common), .int (2 ^ 1074 / common : Nat)]

/-- The hexadecimal form of a double. -/
def hexText (x : Double) : String :=
  match x with
  | .finite neg mant exp _ =>
    let sign := if neg then "-" else ""
    if mant == 0 then sign ++ "0x0.0p+0"
    else
      let (lead, power) : Nat × Int := if mant < 2 ^ 52 then (0, -1022) else (1, (exp : Int) - 1022)
      let digits := String.ofList (Text.hexDigits 13 (mant % 2 ^ 52))
      sign ++ "0x" ++ toString lead ++ "." ++ digits ++ "p" ++
        (if power < 0 then "" else "+") ++ toString power
  | x => x.text

/-- Two whole numbers combined bit by bit, negative ones as if with endless leading ones. -/
def bitwise (f : Nat → Nat → Nat) (m n : Int) : Int :=
  let size := max (bitLength m.natAbs) (bitLength n.natAbs) + 1
  let all : Int := 2 ^ size
  let r : Int := f (m % all).toNat (n % all).toNat
  if 2 * r < all then r else r - all

/-- A whole number with its bits moved up by `n` places, or down where `n` is negative. -/
def shifted (m n : Int) : Except Fault Item :=
  let size := bitLength m.natAbs
  if n < 0 then
    .ok (.int (if size < n.natAbs then (if m < 0 then -1 else 0) else m.fdiv (2 ^ n.natAbs)))
  else if m == 0 then .ok (.int 0)
  else do
    match ← Operator.power (.whole 2) (.whole n) with
    | .int p => return .int (m * p)
    | i => return i

/-- What two whole numbers come to under an operation on their bits. -/
def onBits? (m : Int) (name : String) (n : Int) : Option (Except Fault Item) :=
  let both (f : Nat → Nat → Nat) : Option (Except Fault Item) := some (.ok (.int (bitwise f m n)))
  let shift (m n : Int) (up : Bool) : Option (Except Fault Item) := some (
    if n < 0 then .error (.badValue "negative shift count")
    else shifted m (if up then n else -n))
  match name with
  | "__and__" | "__rand__" => both Nat.land
  | "__or__" | "__ror__" => both Nat.lor
  | "__xor__" | "__rxor__" => both Nat.xor
  | "__lshift__" => shift m n true
  | "__rshift__" => shift m n false
  | "__rlshift__" => shift n m true
  | "__rrshift__" => shift n m false
  | _ => none

/-- What a number comes to when it is asked for an operation. -/
def ofNumber (n : Value.Numeric) (name : String) (g : Given) : Render Item := do
  let bits? : Option (Except Fault Item) :=
    match n, g.positional.map Item.numeric? with
    | .whole m, [some (.whole k)] => onBits? m name k
    | _, _ => none
  match bits? with
  | some result => ofResult result
  | none =>
    let _ ← g.inOrder 0 0
    match n, name with
    | .whole n, "__invert__" => return .int (-n - 1)
    | .whole n, "bit_length" => return .int (bitLength n.natAbs)
    | .whole n, "bit_count" => return .int (bitCount n.natAbs)
    | .whole n, "conjugate" => return .int n
    | .whole n, "as_integer_ratio" => return .tuple [.int n, .int 1]
    | .real x, "is_integer" => return .bool x.isWhole
    | .real x, "conjugate" => return .float x
    | .real x, "as_integer_ratio" => fraction x
    | .real x, "hex" => return .text (hexText x)
    | _, _ => problem .unsupported

end SecurityScan.Template.Method
