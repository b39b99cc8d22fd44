import SecurityScan.Template.Method

/-!
# Tests

What a template can ask of an item by name.
-/

namespace SecurityScan.Template.Test

open Render

def comparison? : String → Option Comparison
  | "eq" | "equalto" | "==" => some .eq
  | "ne" | "!=" => some .ne
  | "lt" | "lessthan" | "<" => some .lt
  | "le" | "<=" => some .le
  | "gt" | "greaterthan" | ">" => some .gt
  | "ge" | ">=" => some .ge
  | "in" => some .isIn
  | _ => none

/-- The tests that ask for nothing but the item. -/
def plainNames : List String :=
  ["boolean", "callable", "defined", "escaped", "even", "false", "float", "integer", "iterable",
    "lower", "mapping", "none", "number", "odd", "sequence", "string", "true", "undefined",
    "upper"]

def isKnown (name : String) : Bool :=
  (comparison? name).isSome || plainNames.contains name ||
    ["divisibleby", "sameas", "filter", "test"].contains name

/-- Whether a number leaves a remainder. -/
def leaves (i divisor : Item) (remainder : Int) : Render Bool := do
  (← Operator.mod.apply i divisor).same (.int remainder)

/-- Whether the members of an item can be asked for by number or by key. -/
def isSequence (i : Item) : Render Bool := do
  match i with
  | .cell place =>
    return match ← cellAt place with
      | .list _ | .map _ => true
      | _ => false
  | i => return (← i.count?).isSome

def isIterable (i : Item) : Render Bool := do
  match i with
  | .cell place =>
    return match ← cellAt place with
      | .list _ | .map _ | .set _ | .view .. | .iterator _ | .loop _ => true
      | _ => false
  | i => return (← i.count?).isSome

/-- A test that asks for nothing but the item. -/
def plain (name : String) (i : Item) : Render Bool := do
  match name, i with
  | "boolean", .bool _ | "true", .bool true | "false", .bool false => return true
  | "none", .null | "undefined", .undefined | "integer", .int _ | "float", .float _ => return true
  | "defined", i => return !i.isUndefined
  | "string", i => return i.text?.isSome
  | "escaped", i => return i.isMarkup
  | "number", .complex .. => return true
  | "number", i => return i.numeric?.isSome
  | "mapping", i => return (← i.entries?).isSome
  | "even", i => leaves i (.int 2) 0
  | "odd", i => leaves i (.int 2) 1
  | "lower", i => return Text.isLowerCase (← i.display).toList
  | "upper", i => return Text.isUpperCase (← i.display).toList
  | "callable", i => Method.isCallable i
  | "sequence", i => isSequence i
  | "iterable", i => isIterable i
  | _, _ => return false

/-- Whether an item passes a test; `isFilter` says which names filters have. -/
def holds (isFilter : String → Bool) (name : String) (i : Item) (g : Given) : Render Bool := do
  match comparison? name with
  | some .isIn => Comparison.isIn.holds i ((← g.bind ["seq"] []).getD "seq" .undefined)
  | some c =>
    let other := (← g.inOrder 1 1).headD .undefined
    c.holds i other
  | none =>
    match name with
    | "divisibleby" => leaves i ((← g.bind ["num"] []).getD "num" .undefined) 0
    | "sameas" => i.isSame ((← g.bind ["other"] []).getD "other" .undefined)
    | "filter" | "test" =>
      let _ ← g.bind [] []
      i.needKey
      let known := if name == "filter" then isFilter else isKnown
      return i.text?.any known
    | name =>
      let _ ← g.bind [] []
      plain name i

end SecurityScan.Template.Test
