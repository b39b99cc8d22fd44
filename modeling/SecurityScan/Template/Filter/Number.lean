import SecurityScan.Template.Filter.Basic

/-!
# Filters of numbers
-/

namespace SecurityScan.Template.Filter

open Render

/-! ## Rounding -/

/-- A number rounded, to the nearest one or always up or always down. -/
def rounded (i : Item) (b : Bound) : Render Item := do
  let precision := b.getD "precision" (.int 0)
  let method := b.getD "method" (.text "common")
  method.needKey
  match method.text? with
  | some "common" =>
    if i.isUndefined then wrongKind "the name stands for no number"
    i.rounded precision
  | some "ceil" | some "floor" =>
    let scaled ← Operator.mul.apply i (← Operator.pow.apply (.int 10) precision)
    let n ← scaled.wholeBeside (method.text? == some "ceil")
    Operator.div.apply (.int n) (← Operator.pow.apply (.int 10) precision)
  | _ => problem .filterArgument

/-! ## Sizes -/

/-- A size with its unit, in thousands of bytes or in those of 1024. -/
def sizeText (binary : Bool) (x : Double) : Except Fault String := do
  let base : Nat := if binary then 1024 else 1000
  let units := if binary then ["KiB", "MiB", "GiB", "TiB", "PiB", "EiB", "ZiB", "YiB"]
    else ["kB", "MB", "GB", "TB", "PB", "EB", "ZB", "YB"]
  if x.eqInt 1 then return "1 Byte"
  else if x.ltInt base then return toString (← (Value.float x).toWhole) ++ " Bytes"
  else
    let last := units.length
    let power := ((List.range last).find? fun i => x.ltInt (base ^ (i + 2) : Nat)).getD (last - 1)
    let scaled := (x.mul (.ofRatio false base 1)).div (.ofRatio false (base ^ (power + 2)) 1)
    let number := match scaled with
      | .finite .. => String.ofList ((scaled.fixed 1).text false)
      | _ => scaled.text
    return number ++ " " ++ (units[power]?).getD ""

/-! ## Reading -/

/-- Whether a fault says that an item is no number. -/
def isNoNumber : Fault → Bool
  | .wrongKind _ | .badValue _ => true
  | _ => false

/-- The whole number that an item is, or can be read as, in the end as the start of a double. -/
def wholeOf (i default base : Item) : Render Item := do
  let direct : Render Int := do
    if i.text?.isSome then Method.wholeIn i base else i.toWhole
  try .int <$> direct
  catch f =>
    if !isNoNumber f then throw f
    try
      let x ← i.toDouble
      match x.truncate? with
      | some n => return .int n
      | none => return default
    catch f =>
      match f with
      | .overflow _ => return default
      | f => if isNoNumber f then return default else throw f

def realOf (i default : Item) : Render Item := do
  try .float <$> i.toDouble
  catch f => if isNoNumber f then return default else throw f

/-- The absolute value of a number. -/
def magnitude (i : Item) : Render Item := do
  match i with
  | .complex re im =>
    let square := (re.mul re).add (im.mul im)
    return .float (Double.ofFloat square.toFloat.sqrt)
  | i =>
    match i.numeric? with
    | some (.whole n) => return .int n.natAbs
    | some (.real x) => return .float (if x.isNegative then x.neg else x)
    | none => wrongKind "bad operand type for abs()"

/-- The filters of numbers, by name. -/
def ofNumber? (name : String) (i : Item) (g : Given) : Option (Render Item) :=
  match name with
  | "abs" => some do
    let _ ← g.inOrder 0 0
    magnitude i
  | "int" => some do
    let b ← g.bind [] ["default", "base"]
    wholeOf i (b.getD "default" (.int 0)) (b.getD "base" (.int 10))
  | "float" => some do
    realOf i ((← g.bind [] ["default"]).getD "default" (.float (.zero false)))
  | "round" => some do rounded i (← g.bind [] ["precision", "method"])
  | "filesizeformat" => some do
    let b ← g.bind [] ["binary"]
    let x ← i.toDouble
    return .text (← ofResult (sizeText (← flag b "binary" false) x))
  | _ => none

end SecurityScan.Template.Filter
