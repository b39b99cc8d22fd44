import SecurityScan.Template.Conversion

/-!
# Rounding

Whole numbers and doubles with fewer decimal places, and the whole numbers beside a number.
-/

namespace SecurityScan.Template

namespace Rounding

/-- The nearest whole number, of two the even one. -/
def nearest (num : Int) (den : Nat) : Int :=
  let q := Int.fdiv num den
  let twice := 2 * Int.fmod num den
  if twice < den || (twice == den && q % 2 == 0) then q else q + 1

/-- More decimal places than this a double does not have, before or behind the point. -/
def maxPlaces : Nat := 400

/-- A whole number rounded to a power of ten. -/
def roundWhole (n : Int) (places : Int) : Int :=
  if 0 ≤ places then n
  else if (Nat.toDigits 10 n.natAbs).length < places.natAbs then 0
  else nearest n (10 ^ places.natAbs) * 10 ^ places.natAbs

/-- A double rounded to a number of decimal places. -/
def roundReal (x : Double) (places : Int) : Except Fault Double :=
  match x.scaled? with
  | none => .ok x
  | some m =>
    if maxPlaces < places then .ok x
    else if places < -(maxPlaces : Int) then .ok (.zero x.isNegative)
    else
      let scale : Nat := 10 ^ places.natAbs
      let q := if 0 ≤ places then nearest (m * scale) (2 ^ 1074)
        else nearest m (2 ^ 1074 * scale) * scale
      let den := if 0 ≤ places then scale else 1
      if q == 0 then .ok (.zero x.isNegative)
      else
        match Double.ofRatio (q < 0) q.natAbs den with
        | .infinite _ => .error (.overflow "rounded value too large to represent")
        | y => .ok y

end Rounding

namespace Item

open Render Rounding

/-- The least whole number that is not below a number, or the greatest that is not above it. -/
def wholeBeside (i : Item) (up : Bool) : Render Int := do
  match i with
  | .undefined => wrongKind "must be real number"
  | i =>
    match i.numeric? with
    | some (.whole n) => return n
    | some (.real x) =>
      match x.scaled? with
      | some m =>
        let one : Int := 2 ^ 1074
        return if up then -(Int.fdiv (-m) one) else Int.fdiv m one
      | none =>
        match x with
        | .nan => throw (.badValue "cannot convert float NaN to integer")
        | _ => throw (.overflow "cannot convert float infinity to integer")
    | none => wrongKind "must be real number"

/-- The number of decimal places that an item asks for; none for a whole number. -/
def places? (i : Item) : Render (Option Int) := do
  match i with
  | .null => return none
  | i => some <$> i.whole

/-- A number to the nearest one that has so many decimal places. -/
def rounded (i places : Item) : Render Item := do
  match i.numeric? with
  | none => wrongKind "the item cannot be rounded"
  | some n =>
    match n, ← places? places with
    | .whole n, places => return .int (roundWhole n (places.getD 0))
    | .real x, some places => return .float (← ofResult (roundReal x places))
    | .real x, none =>
      let y ← ofResult (roundReal x 0)
      return .int (← (Item.float y).toWhole)

end Item

end SecurityScan.Template
