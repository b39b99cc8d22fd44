import SecurityScan.Text.Base64
import SecurityScan.Text.Case
import SecurityScan.Text.Split
import SecurityScan.Value.Display
import SecurityScan.Yaml.Cursor
import SecurityScan.Yaml.Tag

/-!
# The values of scalars

What the text of a scalar stands for under its tag. A text that its tag does not fit is a fault.
-/

namespace SecurityScan.Yaml

open Text (lower splitOn quoted)

/-- A text without its underscores. -/
def withoutGaps (s : String) : String := String.ofList (s.toList.filter (· != '_'))

def noCharacter : Fault := .badIndex "string index out of range"

def truthOf (s : String) : Except Fault Bool :=
  let word := lower s
  if ["yes", "true", "on"].contains word then .ok true
  else if ["no", "false", "off"].contains word then .ok false
  else .error (.outside "KeyError" (quoted word))

/-- Numbers between colons in base sixty. -/
def base60 (digits : List Int) : Int := digits.foldl (fun n d => n * 60 + d) 0

def wholeIn (base : Nat) (s : String) : Except Fault Int :=
  match Number.readIntIn base s with
  | .ok i => .ok i
  | .error _ => .error (Fault.notWhole base s)

/-- A whole number without its sign. -/
def magnitude (s : String) : Except Fault Int :=
  match s.toList with
  | ['0'] => .ok 0
  | '0' :: 'b' :: cs => wholeIn 2 (String.ofList cs)
  | '0' :: 'x' :: cs => wholeIn 16 (String.ofList cs)
  | '0' :: _ => wholeIn 8 s
  | [] => .error noCharacter
  | cs =>
    if cs.contains ':' then do return base60 (← (splitOn ':' s).mapM Fault.wholeOf)
    else Fault.wholeOf s

def wholeValue (s : String) : Except Fault Int :=
  match (withoutGaps s).toList with
  | [] => .error noCharacter
  | '-' :: cs => do return -(← magnitude (String.ofList cs))
  | '+' :: cs => magnitude (String.ofList cs)
  | cs => magnitude (String.ofList cs)

/-- A whole number as a double. -/
def toDouble (n : Nat) : Except Fault Double :=
  (Double.ofInt? n).elim (.error (.overflow "int too large to convert to float")) .ok

/-- Numbers between colons in base sixty, the last of them added first. -/
def doubleBase60 (base : Nat) (sum : Double) : List Double → Except Fault Double
  | [] => .ok sum
  | d :: ds => do doubleBase60 (base * 60) (sum.add (d.mul (← toDouble base))) ds

/-- A number with a point, without its sign. -/
def doubleMagnitude (s : String) : Except Fault Double :=
  if s == ".inf" then .ok (.infinite false)
  else if s == ".nan" then .ok .nan
  else if s.toList.contains ':' then do
    doubleBase60 1 (Double.zero false) (← (splitOn ':' s).mapM Fault.doubleOf).reverse
  else Fault.doubleOf s

def doubleValue (s : String) : Except Fault Double :=
  match (lower (withoutGaps s)).toList with
  | [] => .error noCharacter
  | '-' :: cs => do return (← doubleMagnitude (String.ofList cs)).neg
  | '+' :: cs => doubleMagnitude (String.ofList cs)
  | cs => doubleMagnitude (String.ofList cs)

/-! ## Moments -/

/-- A span of time as the fault of an offset names it. -/
def spanText (minutes : Int) : String :=
  let days := minutes / 1440
  let seconds := (minutes % 1440) * 60
  let parts := (if days = 0 then [] else ["days=" ++ toString days]) ++
    (if seconds = 0 then [] else ["seconds=" ++ toString seconds])
  "datetime.timedelta(" ++ (if parts.isEmpty then "0" else ", ".intercalate parts) ++ ")"

/-- An offset from UTC is shorter than a day. -/
def offsetOf (minutes : Int) : Except Fault Int :=
  if minutes.natAbs < 1440 then .ok minutes
  else
    .error (.badValue ("offset must be a timedelta strictly between " ++
      "-timedelta(hours=24) and timedelta(hours=24), not " ++ spanText minutes ++ "."))

/-- Six digits of a fraction, more of them cut off. -/
def microsOf (fraction : List Char) : Nat :=
  let six := fraction.take 6
  Double.digitsNat (six ++ List.replicate (6 - six.length) '0')

def momentOf (s : Tag.Stamp) : Except Fault Value := do
  let day : Date := ⟨Double.digitsNat s.year, Double.digitsNat s.month, Double.digitsNat s.day⟩
  match s.time with
  | none =>
    match day.fault? with
    | some e => throw (.badValue e)
    | none => return .date day
  | some (hour, minute, second, fraction) =>
    let offset ←
      match s.zone with
      | none => pure none
      | some none => pure (some 0)
      | some (some (sign, hours, minutes)) =>
        let east : Int := Double.digitsNat hours * 60 + Double.digitsNat minutes
        pure (some (← offsetOf (if sign == '-' then -east else east)))
    let t : DateTime := ⟨day, Double.digitsNat hour, Double.digitsNat minute,
      Double.digitsNat second, microsOf fraction, offset⟩
    match t.fault? with
    | some e => throw (.badValue e)
    | none => return .datetime t

/-! ## Scalars -/

/-- The value of a scalar; none for a tag that no scalar has. -/
def scalarValue (tag : Tag) (text : String) : Except Stop Value :=
  let made (x : Except Fault Value) : Except Stop Value := x.mapError Stop.fault
  match tag with
  | .null => .ok .null
  | .bool => made ((truthOf text).map .bool)
  | .int => made ((wholeValue text).map .int)
  | .float => made ((doubleValue text).map .float)
  | .str => .ok (.str text)
  | .timestamp =>
    match Tag.stampOf? (Tag.withoutNewline text.toList) with
    | some stamp => made (momentOf stamp)
    | none => .error (.fault (.noField "'NoneType' object has no attribute 'groupdict'"))
  | .binary =>
    if text.toList.all fun c => c.toNat < 128 then
      match Text.Base64.decode text with
      | some bs => .ok (.bytes bs)
      | none => .error .malformed
    else .error .malformed
  | _ => .error .malformed

end SecurityScan.Yaml
