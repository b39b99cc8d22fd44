import SecurityScan.Number.Power
import SecurityScan.Template.Conversion

/-!
# Operations

Arithmetic of items. Text that meets markup is escaped before the two are joined.
-/

namespace SecurityScan.Template

open Value (Numeric)

/-! ## Numbers -/

namespace Operator

def divisionByZero : Fault := .divisionByZero "division by zero"

def needDouble (n : Numeric) : Except Fault Double := n.toDouble

/-- The fraction of two whole numbers as a double. -/
def quotient (a b : Int) : Except Fault Double :=
  match Double.ofRatio ((a < 0) != (b < 0)) a.natAbs b.natAbs with
  | .infinite _ => .error (.overflow "integer division result too large for a float")
  | x => .ok x

def ofDoubles (x y : Double) : Except Fault Item :=
  match x.power y with
  | .ok (.inl z) => .ok (.float z)
  | .ok (.inr p) => .ok (.complex p.parts.1 p.parts.2)
  | .error .divisionByZero =>
    .error (.divisionByZero "0.0 cannot be raised to a negative power")
  | .error .overflow => .error (.overflow "Numerical result out of range")

/-- A power of two numbers. One of whole numbers is whole unless the second one is negative. -/
def power (a b : Numeric) : Except Fault Item := do
  match a, b with
  | .whole i, .whole j =>
    if 0 ≤ j then
      if 1000000000 < Nat.log2 i.natAbs * j.natAbs then throw .outOfMemory
      else return .int (i ^ j.toNat)
    else ofDoubles (← needDouble a) (← needDouble b)
  | a, b => ofDoubles (← needDouble a) (← needDouble b)

def onWholes (op : Operator) (i j : Int) : Except Fault Item :=
  match op with
  | .add => .ok (.int (i + j))
  | .sub => .ok (.int (i - j))
  | .mul => .ok (.int (i * j))
  | .floorDiv => .ok (.int (i.fdiv j))
  | .mod => .ok (.int (i.fmod j))
  | .div => (quotient i j).map .float
  | .pow => power (.whole i) (.whole j)

def onDoubles (op : Operator) (x y : Double) : Except Fault Item :=
  match op with
  | .add => .ok (.float (x.add y))
  | .sub => .ok (.float (x.sub y))
  | .mul => .ok (.float (x.mul y))
  | .div => .ok (.float (x.div y))
  | .floorDiv => .ok (.float (x.floorDiv y))
  | .mod => .ok (.float (x.floorMod y))
  | .pow => ofDoubles x y

def onNumbers (op : Operator) (a b : Numeric) : Except Fault Item := do
  let divides := [Operator.div, .floorDiv, .mod].contains op
  match a, b with
  | .whole i, .whole j =>
    if divides && j == 0 then throw divisionByZero else onWholes op i j
  | a, b =>
    let x ← needDouble a
    let y ← needDouble b
    if divides && y.isZero then throw divisionByZero else onDoubles op x y

/-- The two parts of a number. -/
def parts? : Item → Except Fault (Option (Double × Double))
  | .complex re im => .ok (some (re, im))
  | i =>
    match i.numeric? with
    | some n => do return some (← needDouble n, .zero false)
    | none => .ok none

/-- Operations on numbers with two parts. -/
def onComplex (op : Operator) (a b : Double × Double) : Except Fault Item :=
  let (r, i) := a
  let (s, j) := b
  match op with
  | .add => .ok (.complex (r.add s) (i.add j))
  | .sub => .ok (.complex (r.sub s) (i.sub j))
  | .mul => .ok (.complex ((r.mul s).sub (i.mul j)) ((r.mul j).add (i.mul s)))
  | .div =>
    let size := (s.mul s).add (j.mul j)
    if size.isZero then .error (.divisionByZero "complex division by zero")
    else
      .ok (.complex (((r.mul s).add (i.mul j)).div size) (((i.mul s).sub (r.mul j)).div size))
  | .pow => .error (.template .unsupported)
  | _ => .error (.wrongKind "complex numbers have no such operation")

end Operator

namespace Item

open Render

/-! ## Text -/

/-- Two texts joined; markup makes markup of both. -/
def joined (a b : Item) : Render Item := do
  if a.isMarkup || b.isMarkup then return .markup ((← a.escaped) ++ (← b.escaped))
  else return .text ((← a.display) ++ (← b.display))

def repeated {α : Type} (n : Int) (xs : List α) : List α := (List.replicate n.toNat xs).flatten

/-! ## Operators -/

def refused {α : Type} : Render α := wrongKind "unsupported operand types"

/-- Whether a whole number may say how often a sequence is repeated. -/
def checkTimes (n : Int) (size : Nat) : Render Unit := do
  if 2 ^ 63 ≤ n || n < -2 ^ 63 then throw (.overflow "cannot fit an index-sized integer")
  if 1000000000 < n * size then throw .outOfMemory

/-- A sequence as often as a whole number says, none for what is no sequence. -/
def times? (i : Item) (n : Int) : Render (Option Item) := do
  let isSequence ← match i with
    | .value (.bytes _) => pure true
    | i => do pure (i.text?.isSome || (← i.sequence?).isSome)
  if isSequence then checkTimes n ((← i.count?).getD 0)
  match i with
  | .value (.bytes bs) => return some (ofBytes (repeated n bs))
  | .cell _ =>
    match ← i.sequence? with
    | some items => some <$> newList (repeated n items)
    | none => return none
  | i =>
    match i.text?, i.tuple? with
    | some s, _ => return some (i.withText (String.ofList (repeated n s.toList)))
    | _, some items => return some (.tuple (repeated n items))
    | _, _ => return none

/-- The sum of what are no numbers. -/
def sum (a b : Item) : Render Item := do
  match a.text?, b.text?, a.tuple?, b.tuple? with
  | some _, some _, _, _ => joined a b
  | _, _, some xs, some ys => return .tuple (xs ++ ys)
  | _, _, none, none =>
    match a, b with
    | .value (.bytes s), .value (.bytes t) => return ofBytes (s ++ t)
    | .cell _, .cell _ =>
      match ← a.sequence?, ← b.sequence? with
      | some xs, some ys => newList (xs ++ ys)
      | _, _ => refused
    | _, _ => refused
  | _, _, _, _ => refused

/-- Whether an item is what is seen of a map as a set. -/
def isSetView (i : Item) : Render Bool := do
  match i with
  | .cell place =>
    match ← cellAt place with
    | .view .. => return (← i.setMembers?).isSome
    | _ => return false
  | _ => return false

/-- The members of an item that another one has not. Both are sets, or one of them is what is seen
of a map. -/
def difference (a b : Item) : Render Item := do
  let without (xs ys : List Item) : Render Item := do
    xs.forM needKey
    newItem (.set (← xs.filterM fun x => do return !(← anyMember (same x) ys)))
  match ← a.setMembers?, ← b.setMembers? with
  | some xs, some ys => without xs ys
  | some xs, none => if ← a.isSetView then without xs (← b.members) else refused
  | none, some ys =>
    if ← b.isSetView then
      without (← distinctItems (← a.members)) ys
    else refused
  | none, none => refused

end Item

/-- What an operator makes of two items. -/
def Operator.apply (op : Operator) (a b : Item) : Render Item := do
  match a, b with
  | .undefined, _ => Render.noValue
  | a, .undefined =>
    if op == .mod && a.text?.isSome then a.filledWith .undefined else Render.noValue
  | a, b =>
    match a.numeric?, b.numeric? with
    | some m, some n => Render.ofResult (op.onNumbers m n)
    | m, n =>
      let isNumber (i : Item) (n : Option Numeric) : Bool := n.isSome || match i with
        | .complex .. => true
        | _ => false
      if isNumber a m && isNumber b n then
        match ← Render.ofResult (parts? a), ← Render.ofResult (parts? b) with
        | some x, some y => Render.ofResult (op.onComplex x y)
        | _, _ => Item.refused
      else
        match op with
        | .add => Item.sum a b
        | .sub => Item.difference a b
        | .mul =>
          let times (i n : Item) : Render (Option Item) := do
            match n.whole? with
            | some n => i.times? n
            | none => return none
          match ← times a b with
          | some i => return i
          | none =>
            match ← times b a with
            | some i => return i
            | none => Item.refused
        | .mod =>
          match a with
          | .value (.bytes _) => Render.problem .unsupported
          | a => if a.text?.isSome then a.filledWith b else Item.refused
        | _ => Item.refused

namespace Item

open Render

/-- A number with the other sign. -/
def negated (i : Item) : Render Item := do
  match i with
  | .undefined => noValue
  | .complex re im => return .complex re.neg im.neg
  | i =>
    match i.numeric? with
    | some (.whole n) => return .int (-n)
    | some (.real x) => return .float x.neg
    | none => wrongKind "bad operand type for unary -"

/-- A number as it is. -/
def positive (i : Item) : Render Item := do
  match i with
  | .undefined => noValue
  | .complex re im => return .complex re im
  | i =>
    match i.numeric? with
    | some (.whole n) => return .int n
    | some (.real x) => return .float x
    | none => wrongKind "bad operand type for unary +"

end Item

/-- Whether a comparison of two items holds. -/
def Comparison.holds (c : Comparison) (a b : Item) : Render Bool :=
  match c with
  | .eq => a.same b
  | .ne => do return !(← a.same b)
  | .lt => Item.ordered .lt a b
  | .le => Item.ordered .le a b
  | .gt => Item.ordered .gt a b
  | .ge => Item.ordered .ge a b
  | .isIn => Item.isIn a b
  | .notIn => do return !(← Item.isIn a b)

end SecurityScan.Template
