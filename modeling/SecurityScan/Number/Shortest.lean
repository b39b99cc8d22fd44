import SecurityScan.Number.Double

/-!
# Shortest decimal text

The fewest digits that read back as the same double, and of those the nearest to it. The search
goes through the exact decimal expansion, which itself reads back, so it always ends with a hit.
-/

namespace SecurityScan.Double

/-- The value `digits · 10 ^ exp10`. -/
structure Decimal where
  digits : Nat
  exp10 : Int

/-- The exact decimal expansion of `mant · 2 ^ (exp - 1074)`. -/
def exactDecimal (mant exp : Nat) : Decimal :=
  if 1074 ≤ exp then ⟨mant * 2 ^ (exp - 1074), 0⟩
  else ⟨mant * 5 ^ (1074 - exp), (exp : Int) - 1074⟩

/--
The neighbours of the expansion `ds · 10 ^ exp10` on the grid of `n` digits that read back as
`target`, the nearer one first; of two equally near ones the even one.
-/
def candidates (target : Double) (ds : List Char) (exp10 : Int) (n : Nat) : List Decimal :=
  let scale : Int := exp10 + (ds.length - n : Nat)
  let low := digitsNat (ds.take n)
  let rest := digitsNat (ds.drop n)
  let unit := 10 ^ (ds.length - n)
  let both :=
    if rest = 0 then [low]
    else if 2 * rest < unit ∨ (2 * rest = unit ∧ low % 2 = 0) then [low, low + 1]
    else [low + 1, low]
  (both.map fun d => ⟨d, scale⟩).filter fun d => ofDecimal false d.digits d.exp10 == target

/-- The shortest decimal of the positive value `mant · 2 ^ (exp - 1074)`. -/
def shortest (mant exp : Nat) : Decimal :=
  let exact := exactDecimal mant exp
  let ds := Nat.toDigits 10 exact.digits
  let target := ofScaled false mant exp
  ((List.range ds.length).findSome? fun n =>
    (candidates target ds exact.exp10 (n + 1)).head?).getD exact

/-- How a decimal is laid out. -/
structure Layout where
  /-- Positional from this power of ten of the first digit … -/
  lowest : Int
  /-- … up to this one, and with an exponent beyond. -/
  highest : Int
  /-- The least number of digits in an exponent. -/
  exponentDigits : Nat

/-- Positional from `0.0001` to below `1e16`, exponents of two digits at least. -/
def plainLayout : Layout := ⟨-4, 15, 2⟩

def padZeros (width : Nat) (ds : List Char) : List Char :=
  List.replicate (width - ds.length) '0' ++ ds

/-- A significand without trailing zeros, with a point after the first digit if more follow. -/
def layOut (f : Layout) (d : Decimal) : List Char :=
  let all := Nat.toDigits 10 d.digits
  let ds := (all.reverse.dropWhile (· == '0')).reverse
  let first : Int := d.exp10 + all.length - 1
  if first < f.lowest ∨ f.highest < first then
    let mark := if first < 0 then '-' else '+'
    ds.take 1 ++ (if ds.length = 1 then [] else '.' :: ds.drop 1) ++
      ['e', mark] ++ padZeros f.exponentDigits (Nat.toDigits 10 first.natAbs)
  else if first < 0 then
    '0' :: '.' :: List.replicate (-first - 1).toNat '0' ++ ds
  else
    let whole := first.toNat + 1
    if ds.length ≤ whole then ds ++ List.replicate (whole - ds.length) '0' ++ ['.', '0']
    else ds.take whole ++ '.' :: ds.drop whole

/-- The text of a double; a whole number keeps `.0`. -/
def text : Double → String
  | .nan => "nan"
  | .infinite neg => if neg then "-inf" else "inf"
  | .finite neg mant exp _ =>
    let body := if mant = 0 then ['0', '.', '0'] else layOut plainLayout (shortest mant exp)
    String.ofList (if neg then '-' :: body else body)

end SecurityScan.Double
