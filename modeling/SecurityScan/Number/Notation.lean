import SecurityScan.Number.Shortest

/-!
# Notations of a double

A double with a fixed number of decimal places, with one digit before the point and a power of
ten, or in whichever of the two is shorter. The digits are those of the nearest such decimal, of
two equally near ones the even one. The sign is left out.
-/

namespace SecurityScan.Double

/-- Digits, with the place of the point counted from the front. -/
structure Placed where
  digits : List Char
  point : Nat

/-- What the digits come to, the point left out where nothing follows it unless it is to stay. -/
def Placed.text (keepPoint : Bool) (p : Placed) : List Char :=
  let part := p.digits.drop p.point
  p.digits.take p.point ++ (if part.isEmpty && !keepPoint then [] else '.' :: part)

/-- The absolute value of a finite double times `2 ^ 1074`. -/
def magnitude (x : Double) : Nat := (x.scaled?.getD 0).natAbs

/-- The digits of a whole number, at least `width` of them. -/
def digitsOf (width n : Nat) : List Char := padZeros width (Nat.toDigits 10 n)

/-- A finite double with `places` decimal places. -/
def fixed (places : Nat) (x : Double) : Placed :=
  let ds := digitsOf (places + 1) (divRound (x.magnitude * 10 ^ places) (2 ^ 1074))
  ⟨ds, ds.length - places⟩

/-- The value of a positive `num / den` divided by a power of ten, rounded. -/
def scaledBy (num den : Nat) (power : Int) : Nat :=
  if 0 ≤ power then divRound num (den * 10 ^ power.toNat)
  else divRound (num * 10 ^ (-power).toNat) den

/-- The power of ten of the first digit of a positive `num / den`. -/
def firstPower (num den : Nat) : Int :=
  if den ≤ num then (Nat.toDigits 10 (num / den)).length - 1
  else
    let zeros := (Nat.toDigits 10 ((den - 1) / num)).length
    if den ≤ num * 10 ^ zeros then -(zeros : Int) else -(zeros : Int) - 1

/-- The first `count` digits of a finite double, rounded, and the power of ten of the first. -/
def leading (count : Nat) (x : Double) : List Char × Int :=
  if x.magnitude = 0 then (digitsOf count 0, 0)
  else
    let power := firstPower x.magnitude (2 ^ 1074)
    let n := scaledBy x.magnitude (2 ^ 1074) (power - count + 1)
    if n = 10 ^ count then (digitsOf count (n / 10), power + 1) else (digitsOf count n, power)

/-- A power of ten after its mark, at least two digits. -/
def powerText (mark : Char) (power : Int) : List Char :=
  mark :: (if power < 0 then '-' else '+') :: digitsOf 2 power.natAbs

/-- A finite double with one digit before the point, `places` after it, and a power of ten. -/
def scientific (mark : Char) (keepPoint : Bool) (places : Nat) (x : Double) : List Char :=
  let (ds, power) := x.leading (places + 1)
  (Placed.mk ds 1).text keepPoint ++ powerText mark power

/-- Digits without the zeros at the end of the part after the point. -/
def Placed.trimmed (p : Placed) : Placed :=
  let part := ((p.digits.drop p.point).reverse.dropWhile (· == '0')).reverse
  ⟨p.digits.take p.point ++ part, p.point⟩

/-- A finite double with `count` digits: fixed from `0.0001` up to as many digits, else with a
power of ten. Zeros at the end go unless `keepZeros`. -/
def general (mark : Char) (keepZeros : Bool) (count : Nat) (x : Double) : List Char :=
  let count := max count 1
  let (ds, power) := x.leading count
  let shown (p : Placed) := (if keepZeros then p else p.trimmed).text keepZeros
  if power < -4 || (count : Int) ≤ power then shown ⟨ds, 1⟩ ++ powerText mark power
  else if power < 0 then shown ⟨List.replicate (-power).toNat '0' ++ ds, 1⟩
  else shown ⟨ds, power.toNat + 1⟩

end SecurityScan.Double
