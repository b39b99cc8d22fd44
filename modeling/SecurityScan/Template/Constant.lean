import SecurityScan.Template.Iteration

/-!
# Constants

Data that a template has as it stands: the item that a constant is, the constant that an item is,
and what an expression without names comes to. Of an expression the largest parts that come to a
constant are replaced by it.
-/

namespace SecurityScan.Template

open Render

/-! ## Constants and items -/

namespace Constant

mutual

/-- The item that a constant is; each time it is a new one where it can be changed. -/
def toItem : Constant → Render Item
  | .null => return .null
  | .bool b => return .bool b
  | .int n => return .int n
  | .float x => return .float x
  | .complex re im => return .complex re im
  | .text s => return .text s
  | .markup s => return .markup s
  | .range start stop step => return .range start stop step
  | .tuple cs => do return .tuple (← toItems cs)
  | .list cs => do newList (← toItems cs)
  | .map es => do newMap (← toEntries es)

def toItems : List Constant → Render (List Item)
  | [] => return []
  | c :: cs => do return (← c.toItem) :: (← toItems cs)

def toEntries : List (Constant × Constant) → Render (List (Item × Item))
  | [] => return []
  | (k, c) :: es => do return (← k.toItem, ← c.toItem) :: (← toEntries es)

end

mutual

/-- The numbers in a constant. -/
def numbers : Constant → List Value.Numeric
  | .int n => [.whole n]
  | .float x => [.real x]
  | .complex re im => [.real re, .real im]
  | .tuple cs | .list cs => numbersIn cs
  | .map es => numbersInEntries es
  | _ => []

def numbersIn : List Constant → List Value.Numeric
  | [] => []
  | c :: cs => c.numbers ++ numbersIn cs

def numbersInEntries : List (Constant × Constant) → List Value.Numeric
  | [] => []
  | (k, c) :: es => k.numbers ++ c.numbers ++ numbersInEntries es

end

/-- Whether all doubles in a constant are finite; others have no written form. -/
def isWritable (c : Constant) : Bool :=
  c.numbers.all fun
    | .real (.finite ..) | .whole _ => true
    | .real _ => false

/-- Whether a whole number in a constant has more digits than are written. -/
def isTooLong (c : Constant) : Bool :=
  c.numbers.any fun
    | .whole n => Number.digitLimit ≤ n.natAbs
    | .real _ => false

/-- The constant without a minus sign at its start; none if it has none. -/
def unsigned? : Constant → Option Constant
  | .int n => if n < 0 then some (.int (-n)) else none
  | .float x => if x.isNegative then some (.float x.neg) else none
  | _ => none

end Constant

namespace Item

/-- The constant that an item is, if it is one as a whole. -/
def constantWithin (fuel : Nat) (i : Item) : Render (Option Constant) := do
  match fuel with
  | 0 => return none
  | fuel + 1 =>
    let all (items : List Item) : Render (Option (List Constant)) := do
      return (← items.mapM (constantWithin fuel)).mapM id
    match i with
    | .null => return some .null
    | .bool b => return some (.bool b)
    | .int n => return some (.int n)
    | .float x => return some (.float x)
    | .complex re im => return some (.complex re im)
    | .text s => return some (.text s)
    | .markup s => return some (.markup s)
    | .range start stop step => return some (.range start stop step)
    | .tuple items => return (← all items).map .tuple
    | .cell place =>
      match ← cellAt place with
      | .list items => return (← all items.toList).map .list
      | .map entries =>
        match ← all (entries.map (·.1)), ← all (entries.map (·.2)) with
        | some ks, some cs => return some (.map (ks.zip cs))
        | _, _ => return none
      | _ => return none
    | _ => return none

def constant? (i : Item) : Render (Option Constant) := constantWithin maxHeight i

end Item

/-! ## Expressions -/

namespace Expr

/-- A computation that may find nothing without being at fault. -/
abbrev Known := OptionT Render

def Known.ofRender {α : Type} (r : Render α) : Known α := OptionT.lift r

/-- What a computation comes to, nothing if it is at fault. -/
def Known.attempt {α : Type} (r : Render α) : Known α :=
  OptionT.mk (tryCatch (some <$> r) fun _ => return none)

/-- A part of an item; what cannot have parts has none. -/
def partOf (r : Render Item) : Render Item := do
  try r
  catch f =>
    match f with
    | .wrongKind _ | .badIndex _ | .noField _ | .template .missingKey => return .undefined
    | f => throw f

/-- The given items of a call of which all is known. -/
def knownArguments (one : Expr String → Known Item) (a : Arguments (Expr String)) :
    Known Given := do
  let positional ← a.positional.mapM one
  let named ← a.named.mapM fun (s, e) => do return (s, ← one e)
  let more ← match a.spread with
    | some e => do
      let i ← one e
      Known.attempt i.members
    | none => pure []
  let moreNamed ← match a.spreadNamed with
    | some e => do
      let i ← one e
      match ← Known.attempt i.entries? with
      | some entries =>
        entries.mapM fun (k, i) =>
          match k.text? with
          | some s => pure (s, i)
          | none => failure
      | none => failure
    | none => pure []
  let all := (named ++ moreNamed).foldl (fun es (s, i) => es.filter (·.1 != s) ++ [(s, i)]) []
  return ⟨positional ++ more, all⟩

/-- Whether each comparison of neighbours holds, up to the first one that does not. -/
def knownComparison (one : Expr String → Known Item) (first : Item) :
    List (Comparison × Expr String) → Known Bool
  | [] => return true
  | (c, e) :: more => do
    let i ← one e
    if ← Known.attempt (c.holds first i) then knownComparison one i more else return false

/-- What an expression comes to of which all is known; `fuel` limits how deep it is. What filters
and tests come to is only known where `filters`. -/
def knownWithin (filters : Bool) (fuel : Nat) (e : Expr String) : Known Item := do
  match fuel with
  | 0 => failure
  | fuel + 1 =>
    let one := knownWithin filters fuel
    match e with
    | .const c => Known.ofRender c.toItem
    | .name _ | .captured | .call .. => failure
    | .tuple es => return .tuple (← es.mapM one)
    | .list es => do Known.ofRender (newList (← es.mapM one))
    | .map es =>
      let entries ← es.mapM fun (k, e) => do return (← one k, ← one e)
      Known.ofRender (do newMap (← Item.insertedAll [] entries))
    | .field owner word =>
      let i ← one owner
      Known.attempt (i.field word)
    | .item owner key =>
      let i ← one owner
      let k ← one key
      Known.attempt (i.item k)
    | .slice owner start stop step =>
      let i ← one owner
      let a ← start.mapM one
      let b ← stop.mapM one
      let c ← step.mapM one
      Known.attempt (partOf (i.slice a b c))
    | .mixedSlice owner bounds =>
      let i ← one owner
      let _ ← bounds.mapM one
      if i.isUndefined then failure else return .undefined
    | .filter base word arguments =>
      if !filters || !Filter.isKnown word || Filter.waiting.contains word then failure
      else
        let given ← knownArguments one arguments
        let i ← one base
        Known.attempt (Filter.apply word i given)
    | .test base word arguments =>
      if !filters || !Test.isKnown word then failure
      else
        let given ← knownArguments one arguments
        let i ← one base
        Known.attempt (Item.bool <$> Filter.passes word i given)
    | .negate e =>
      let i ← one e
      Known.attempt i.negated
    | .positive e =>
      let i ← one e
      Known.attempt i.positive
    | .not e =>
      let i ← one e
      Known.attempt (do return .bool (!(← i.holds)))
    | .and a b =>
      let i ← one a
      if ← Known.ofRender i.holds then one b else return i
    | .or a b =>
      let i ← one a
      if ← Known.ofRender i.holds then return i else one b
    | .arith op a b =>
      let i ← one a
      let j ← one b
      Known.attempt (op.apply i j)
    | .concat _ es =>
      let items ← es.mapM one
      Known.ofRender (do return .text (String.join (← items.mapM Item.display)))
    | .compare first rest =>
      let i ← one first
      Item.bool <$> knownComparison one i rest
    | .choose condition yes no =>
      let i ← one condition
      if ← Known.ofRender i.holds then one yes
      else
        match no with
        | some e => one e
        | none => failure

/-- What an expression comes to of which all is known. -/
def known? (filters : Bool) (e : Expr String) : Render (Option Item) :=
  (knownWithin filters e.height e).run

/-- Whether an expression is more than data, a name or a collection. -/
def isComputed : Expr String → Bool
  | .const _ | .name _ | .captured | .tuple _ | .list _ | .map _ => false
  | _ => true

/-- An expression with every part replaced that comes to a constant. -/
def foldedWithin (fuel : Nat) (e : Expr String) : Render (Expr String) := do
  match fuel with
  | 0 => return e
  | fuel + 1 =>
    let e ← e.mapParts (fun s => return .name s) (foldedWithin fuel)
    match ← e.known? true with
    | none => return e
    | some i =>
      match ← i.constant? with
      | some c => return .const c
      | none => return e

/-- An expression with every computed part replaced that comes to a constant. -/
def foldedBelow (fuel : Nat) (e : Expr String) : Render (Expr String) := do
  match fuel with
  | 0 => return e
  | fuel + 1 =>
    if e.isComputed then foldedWithin (fuel + 1) e
    else e.mapParts (fun s => return .name s) (foldedBelow fuel)

end Expr

/-! ## Before rendering -/

/-- The machine that goes through items before rendering. -/
def plainMachine : Nat → Machine
  | 0 => ⟨fun _ _ _ => throw .tooDeep, fun _ => throw .tooDeep⟩
  | fuel + 1 =>
    ⟨fun _ _ _ => throw (.template .unsupported),
      fun place => advance (fun _ _ _ _ => throw .tooDeep) place (plainMachine fuel)⟩

/-- What a computation comes to before rendering. -/
def beforehand {α : Type} (escapes : Bool) (r : Render α) : Except Fault α :=
  (r (plainMachine Item.maxHeight)).run' { World.empty with escapes := escapes }

namespace Expr

/-- The constant text that a value has where it is put out; none where rendering has to find it. -/
def outputText? (filters escapes : Bool) (e : Expr String) : Option String :=
  match beforehand escapes (do
    match ← e.known? filters with
    | none => return none
    | some i => some <$> if escapes then i.escaped else i.display) with
  | .ok found => found
  | .error _ => none

/-- An expression with its constant parts replaced. -/
def folded (escapes : Bool) (e : Expr String) : Except Fault (Expr String) :=
  beforehand escapes (foldedBelow e.height e)

end Expr

end SecurityScan.Template
