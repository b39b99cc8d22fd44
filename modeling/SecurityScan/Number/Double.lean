import SecurityScan.Number.Whole

/-!
# Double precision numbers

Sixty-four bit binary floating point, held exactly. Every operation is exact arithmetic on
natural numbers followed by one rounding to the nearest value, a tie to the even one.
-/

namespace SecurityScan

/-- The significands and exponents a finite value is written with, one pair for each value. -/
def Double.Canonical (mant exp : Nat) : Prop :=
  mant < 2 ^ 53 ∧ exp ≤ 2045 ∧ (exp = 0 ∨ 2 ^ 52 ≤ mant)

instance (mant exp : Nat) : Decidable (Double.Canonical mant exp) :=
  inferInstanceAs (Decidable (_ ∧ _ ∧ _))

/-- A finite value is `± mant · 2 ^ (exp - 1074)`. -/
inductive Double
  | finite (neg : Bool) (mant exp : Nat) (canonical : Double.Canonical mant exp)
  | infinite (neg : Bool)
  | nan
deriving DecidableEq

namespace Double

def zero (neg : Bool) : Double := .finite neg 0 0 (by decide)

instance : Inhabited Double := ⟨zero false⟩

/-- `num / den` to the nearest natural number, a half to the even one. -/
def divRound (num den : Nat) : Nat :=
  let q := num / den
  let r := num % den
  if den < 2 * r ∨ (2 * r = den ∧ q % 2 = 1) then q + 1 else q

/-- The value of a significand and an exponent, infinite when it is too large. -/
def ofScaled (neg : Bool) (mant exp : Nat) : Double :=
  if h : Canonical mant exp then .finite neg mant exp h else .infinite neg

/-- `± num / den` rounded, for a positive `den`. -/
def ofRatio (neg : Bool) (num den : Nat) : Double :=
  let scaled := num * 2 ^ 1074
  let exp := (scaled / den).log2 - 52
  let mant := divRound scaled (den * 2 ^ exp)
  if mant = 2 ^ 53 then ofScaled neg (2 ^ 52) (exp + 1) else ofScaled neg mant exp

/-- The number that ASCII digits write. -/
def digitsNat (ds : List Char) : Nat := ds.foldl (fun n d => 10 * n + (d.toNat - '0'.toNat)) 0

/-- `± digits · 10 ^ exp10` rounded. Beyond the range of exponents the digits do not matter. -/
def ofDecimal (neg : Bool) (digits : Nat) (exp10 : Int) : Double :=
  if digits = 0 then zero neg
  else
    let top : Int := (Nat.toDigits 10 digits).length + exp10
    if 400 < top then .infinite neg
    else if top < -400 then zero neg
    else if 0 ≤ exp10 then ofRatio neg (digits * 10 ^ exp10.toNat) 1
    else ofRatio neg digits (10 ^ (-exp10).toNat)

def isNegative : Double → Bool
  | .finite neg .. => neg
  | .infinite neg => neg
  | .nan => false

/-- The exact value as a fraction with denominator `2 ^ 1074`; none when it is not finite. -/
def scaled? : Double → Option Int
  | .finite neg mant exp _ =>
    let n : Int := mant * 2 ^ exp
    some (if neg then -n else n)
  | _ => none

def isZero : Double → Bool
  | .finite _ mant _ _ => mant == 0
  | _ => false

/-- A value that is not infinite. -/
def bounded? : Double → Option Double
  | .infinite _ => none
  | x => some x

/-- The value of an integer; none when it rounds beyond the largest finite one. -/
def ofInt? (i : Int) : Option Double := bounded? (ofRatio (i < 0) i.natAbs 1)

/-- The integer part, without the fraction; none when the value is not finite. -/
def truncate? (x : Double) : Option Int := x.scaled?.map fun n => n.tdiv (2 ^ 1074)

/-- Less than; false when a side is not a number. -/
def lt : Double → Double → Bool
  | .nan, _ => false
  | _, .nan => false
  | .infinite true, y => y != .infinite true
  | .infinite false, _ => false
  | _, .infinite neg => !neg
  | x, y => (x.scaled?.getD 0) < (y.scaled?.getD 0)

/-- Numeric equality: both zeros are equal, and nothing equals what is not a number. -/
def eq : Double → Double → Bool
  | .finite n₁ m₁ e₁ _, .finite n₂ m₂ e₂ _ =>
    m₁ == m₂ && e₁ == e₂ && (n₁ == n₂ || m₁ == 0)
  | .infinite n₁, .infinite n₂ => n₁ == n₂
  | _, _ => false

/-- Whether the value is exactly the integer `i`. -/
def eqInt (x : Double) (i : Int) : Bool := x.scaled? == some (i * 2 ^ 1074)

/-- Whether the value is less than the integer `i`, compared exactly. -/
def ltInt (x : Double) (i : Int) : Bool :=
  match x with
  | .nan => false
  | .infinite neg => neg
  | x => (x.scaled?.getD 0) < i * 2 ^ 1074

def gtInt (x : Double) (i : Int) : Bool :=
  match x with
  | .nan => false
  | .infinite neg => !neg
  | x => i * 2 ^ 1074 < (x.scaled?.getD 0)

/-! ## Arithmetic -/

def neg : Double → Double
  | .finite n m e h => .finite (!n) m e h
  | .infinite n => .infinite (!n)
  | .nan => .nan

/-- `n / (2 ^ 1074 · den)` rounded; zero takes the sign `negZero`. -/
def ofExact (negZero : Bool) (n : Int) (den : Nat) : Double :=
  if n = 0 then zero negZero else ofRatio (n < 0) n.natAbs (2 ^ 1074 * den)

def add : Double → Double → Double
  | .nan, _ => .nan
  | _, .nan => .nan
  | .infinite a, .infinite b => if a == b then .infinite a else .nan
  | .infinite a, _ => .infinite a
  | _, .infinite b => .infinite b
  | x, y => ofExact (x.isNegative && y.isNegative) (x.scaled?.getD 0 + y.scaled?.getD 0) 1

def sub (x y : Double) : Double := add x y.neg

def mul : Double → Double → Double
  | .nan, _ => .nan
  | _, .nan => .nan
  | .infinite a, y => if y.isZero then .nan else .infinite (a != y.isNegative)
  | x, .infinite b => if x.isZero then .nan else .infinite (x.isNegative != b)
  | x, y =>
    ofExact (x.isNegative != y.isNegative) (x.scaled?.getD 0 * y.scaled?.getD 0) (2 ^ 1074)

/-- The quotient, for a `y` that is not zero. -/
def div : Double → Double → Double
  | .nan, _ => .nan
  | _, .nan => .nan
  | .infinite a, .infinite _ => if a then .nan else .nan
  | .infinite a, y => .infinite (a != y.isNegative)
  | x, .infinite b => zero (x.isNegative != b)
  | x, y =>
    let n := x.scaled?.getD 0
    let d := y.scaled?.getD 0
    if n = 0 then zero (x.isNegative != y.isNegative)
    else ofRatio (x.isNegative != y.isNegative) n.natAbs d.natAbs

/-- The remainder with the sign of the divisor, for a `y` that is not zero. -/
def floorMod : Double → Double → Double
  | .nan, _ => .nan
  | _, .nan => .nan
  | .infinite _, _ => .nan
  | x, .infinite b =>
    if x.isZero then zero b else if x.isNegative == b then x else .infinite b
  | x, y => ofExact y.isNegative (Int.fmod (x.scaled?.getD 0) (y.scaled?.getD 0)) 1

/-- The largest whole number not above the quotient, for a `y` that is not zero. -/
def floorDiv (x y : Double) : Double :=
  match x.scaled?, y.scaled? with
  | some a, some b =>
    let q := Int.fdiv a b
    if q = 0 then zero (x.isNegative != y.isNegative) else ofRatio (q < 0) q.natAbs 1
  | _, _ =>
    match x, y with
    | .finite .., .infinite b =>
      if x.isZero || x.isNegative == b then zero (x.isNegative != b)
      else .finite true (2 ^ 52) 1022 (by decide)
    | _, _ => .nan

end Double

end SecurityScan
