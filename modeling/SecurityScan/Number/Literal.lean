import SecurityScan.Number.Double
import SecurityScan.Text.CharClass

/-!
# Numbers written as text

Whole numbers and doubles as a user writes them in a setting: white space around, a sign,
decimal digits of any script, single underscores between digits.
-/

namespace SecurityScan.Number

open SecurityScan.Text (digitValue? isBlank trimBy)

/-- A whole number of more digits than this is neither read nor written. -/
def maxDigits : Nat := 4300

/-- The first whole number that has too many digits. -/
def digitLimit : Nat := 10 ^ maxDigits

inductive LiteralError
  | malformed
  | tooLong (digits : Nat)
deriving DecidableEq

/-- The values of the digits of `cs`, with single underscores between digits; none otherwise. -/
def digitRun : List Char → Option (List Nat)
  | [] => none
  | [c] => (digitValue? c).map ([·])
  | c :: '_' :: cs => do return (← digitValue? c) :: (← digitRun cs)
  | c :: cs => do return (← digitValue? c) :: (← digitRun cs)

def ofDigits (ds : List Nat) : Nat := ds.foldl (fun n d => 10 * n + d) 0

/-- The sign of a number and what follows it. -/
def splitSign : List Char → Bool × List Char
  | '-' :: cs => (true, cs)
  | '+' :: cs => (false, cs)
  | cs => (false, cs)

/-- A whole number in base ten. -/
def readInt (s : String) : Except LiteralError Int :=
  let (neg, cs) := splitSign (trimBy isBlank s.toList)
  match digitRun cs with
  | none => .error .malformed
  | some ds =>
    if maxDigits < ds.length then .error (.tooLong ds.length)
    else .ok (if neg then -(ofDigits ds : Int) else ofDigits ds)

/-! ## Other bases -/

/-- The value of a digit, letters following nine. -/
def anyDigitValue? (c : Char) : Option Nat :=
  match digitValue? c with
  | some d => some d
  | none =>
    if 'a' ≤ c && c ≤ 'z' then some (c.toNat - 'a'.toNat + 10)
    else if 'A' ≤ c && c ≤ 'Z' then some (c.toNat - 'A'.toNat + 10)
    else none

/-- The base that a letter after a leading zero names. -/
def namedBase? (c : Char) : Option Nat :=
  match c.toLower with
  | 'b' => some 2
  | 'o' => some 8
  | 'x' => some 16
  | _ => none

/-- The base that a number is written in, and its digits without what names the base; a base of
zero is the one that is named, or ten. -/
def writtenBase (base : Nat) (cs : List Char) : Nat × List Char :=
  let unmarked : List Char → List Char
    | '_' :: cs => cs
    | cs => cs
  match cs with
  | '0' :: c :: rest =>
    match namedBase? c with
    | some n => if base == 0 || base == n then (n, unmarked rest) else (base, cs)
    | none => (if base == 0 then 10 else base, cs)
  | cs => (if base == 0 then 10 else base, cs)

/-- The values of digits in a base, with single underscores between digits; none otherwise. -/
def digitRunIn (base : Nat) : List Char → Option (List Nat)
  | [] => none
  | c :: cs => do
    let d ← anyDigitValue? c
    if base ≤ d then none
    else
      match cs with
      | [] => some [d]
      | '_' :: cs => return d :: (← digitRunIn base cs)
      | cs => return d :: (← digitRunIn base cs)

/-- A whole number in a base. Only where the base is a power of two it may have many digits. -/
def readIntIn (base : Nat) (s : String) : Except LiteralError Int :=
  let (neg, cs) := splitSign (trimBy isBlank s.toList)
  let (actual, digits) := writtenBase base cs
  match digitRunIn actual digits with
  | none => .error .malformed
  | some ds =>
    let n := ds.foldl (fun n d => actual * n + d) 0
    if maxDigits < ds.length && !([2, 4, 8, 16, 32].contains actual) then
      .error (.tooLong ds.length)
    else if base == 0 && actual == 10 && ds.head? == some 0 && n != 0 then .error .malformed
    else .ok (if neg then -(n : Int) else n)

/-! ## Doubles -/

def lowerAscii (cs : List Char) : List Char := cs.map Char.toLower

/-- An optional digit run, which may be missing where the other side of the point has digits. -/
def optionalRun (cs : List Char) : Option (List Nat) :=
  if cs.isEmpty then some [] else digitRun cs

/-- `whole.fraction`, where either side may be missing but not both. -/
def readMantissa (cs : List Char) : Option (List Nat × List Nat) :=
  match cs.span (· != '.') with
  | (w, []) => (digitRun w).map (·, [])
  | (w, _ :: f) =>
    if w.isEmpty && f.isEmpty then none else do return (← optionalRun w, ← optionalRun f)

/-- The exponent after `e`, with a sign of its own. -/
def readExponent (cs : List Char) : Option Int :=
  let (neg, ds) := splitSign cs
  (digitRun ds).map fun ds => if neg then -(ofDigits ds : Int) else ofDigits ds

/-- A double: digits with a point and an exponent, or a name of infinity or of no number. -/
def readDouble (s : String) : Option Double :=
  let (neg, cs) := splitSign (trimBy isBlank s.toList)
  let word := String.ofList (lowerAscii cs)
  if word == "inf" || word == "infinity" then some (.infinite neg)
  else if word == "nan" then some .nan
  else
    match cs.span (fun c => c != 'e' && c != 'E') with
    | (m, rest) => do
      let (w, f) ← readMantissa m
      let e ← match rest with
        | [] => some 0
        | _ :: e => readExponent e
      return .ofDecimal neg (ofDigits (w ++ f)) (e - f.length)

end SecurityScan.Number
