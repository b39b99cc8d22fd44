import SecurityScan.Template.Constant
import SecurityScan.Template.Meaning

/-!
# Evaluating expressions

What the expressions of code come to in a frame of variables, and how items are bound to targets.
-/

namespace SecurityScan.Template

open Render

/-! ## Variables -/

namespace Frame

/-- Routines do not stand deeper in one another than this. -/
def maxNesting : Nat := 2000

def at? (place : Nat) : Render (Option Frame) := do
  match ← cellAt place with
  | .frame f => return some f
  | _ => return none

/-- What a variable stands for, in a frame or in those around it. -/
def get (place : Nat) (v : Var) (fuel : Nat) : Render Item := do
  match fuel, ← at? place with
  | fuel + 1, some f =>
    match f.vars.lookup v, f.outer with
    | some i, _ => return i
    | none, some outer => get outer v fuel
    | none, none => return .missing
  | _, _ => return .missing

def withVar (v : Var) (i : Item) : List (Var × Item) → List (Var × Item)
  | [] => [(v, i)]
  | (w, j) :: rest => if w == v then (v, i) :: rest else (w, j) :: withVar v i rest

def set (place : Nat) (v : Var) (i : Item) : Render Unit := do
  match ← at? place with
  | some f => setCell place (.frame { f with vars := withVar v i f.vars })
  | none => return ()

def lookup (place : Nat) (v : Var) : Render Item := get place v maxNesting

/-- The place of what names stand for around a frame. -/
def contextOf (place : Nat) : Render Nat := do
  match ← at? place with
  | some f => return f.context
  | none => return 0

/-- What a name stands for around the template. -/
def around (context : Nat) (name : String) : Render Item := do
  match ← cellAt context with
  | .context published given =>
    return ((published.lookup name).or (given.lookup name)).getD .missing
  | _ => return .missing

/-- Gives variables what they start from. -/
def enter (place : Nat) (starts : Starts) : Render Unit :=
  starts.forM fun (v, source) => do
    let i ← match source with
      | .context => around (← contextOf place) v.name
      | .copy of => lookup place of
      | .nothing => pure .missing
      | .self => do newItem (.self (← contextOf place))
      | .super => pure .undefined
    set place v i

end Frame

/-! ## Targets -/

/-- The members of an item that is to have so many. -/
def unpacked (i : Item) (count : Nat) : Render (List Item) := do
  let items ← i.members
  if items.length < count then
    throw (.badValue ("not enough values to unpack (expected " ++ toString count ++ ", got " ++
      toString items.length ++ ")"))
  if count < items.length then
    throw (.badValue ("too many values to unpack (expected " ++ toString count ++ ")"))
  return items

/-- Binds a member of what a variable stands for. -/
def bindMember (place : Nat) (space : Var) (name : String) (i : Item) : Render Unit := do
  match ← Frame.lookup place space with
  | .cell at' =>
    match ← cellAt at' with
    | .space members => setCell at' (.space (withMember members))
    | .map entries => do setCell at' (.map (← Item.inserted entries (.text name) i))
    | _ => wrongKind "the item does not support item assignment"
  | _ => wrongKind "the item does not support item assignment"
where
  withMember : List (String × Item) → List (String × Item)
    | [] => [(name, i)]
    | (s, j) :: rest => if s == name then (s, i) :: rest else (s, j) :: withMember rest

mutual

/-- Binds an item to a target. -/
def bindTarget (place : Nat) (i : Item) : Target Var → Render Unit
  | .name v => Frame.set place v i
  | .tuple ts => do bindTargets place (← unpacked i ts.length) ts
  | .member space name => bindMember place space name i

def bindTargets (place : Nat) (items : List Item) : List (Target Var) → Render Unit
  | [] => return ()
  | t :: ts => do
    match items with
    | [] => return ()
    | i :: more =>
      bindTarget place i t
      bindTargets place more ts

end

mutual

/-- What is bound to a target. -/
def targetItem (place : Nat) : Target Var → Render Item
  | .name v => Frame.lookup place v
  | .tuple ts => do return .tuple (← targetItems place ts)
  | .member space _ => Frame.lookup place space

def targetItems (place : Nat) : List (Target Var) → Render (List Item)
  | [] => return []
  | t :: ts => do return (← targetItem place t) :: (← targetItems place ts)

end

/-! ## Expressions -/

/-- What a call is given. A name that is given both by itself and in the further map is a fault. -/
def givenOf (one : Term → Render Item) (a : Arguments Term) : Render Given := do
  let positional ← a.positional.mapM one
  let more ← match a.spread with
    | some e => do (← one e).members
    | none => pure []
  let named ← a.named.mapM fun (s, e) => do return (s, ← one e)
  let moreNamed ← match a.spreadNamed with
    | some e => do
      match ← one e with
      | .undefined => noValue
      | i =>
        match ← i.entries? with
        | some entries => entries.mapM fun (k, i) =>
          match k.text? with
          | some s => pure (s, i)
          | none => wrongKind "keywords must be strings"
        | none => wrongKind "argument after ** must be a mapping"
    | none => pure []
  if moreNamed.any fun (s, _) => (named.lookup s).isSome then
    wrongKind "got multiple values for a keyword argument"
  return ⟨positional ++ more, named ++ moreNamed⟩

/-- What a call comes to. One that finds nothing left stands for nothing. -/
def called (f : Item) (given : Given) : Render Item := do
  try callHere f given
  catch fault =>
    match fault with
    | .template .exhausted => return .undefined
    | fault => throw fault

/-- Whether comparisons of neighbours hold, up to the first one that does not. -/
def compared (one : Term → Render Item) (i : Item) : List (Comparison × Term) → Render Bool
  | [] => return true
  | (c, e) :: more => do
    let j ← one e
    if ← c.holds i j then compared one j more else return false

/-- What an expression comes to in a frame; `fuel` limits how deep it is. -/
def evaluateWithin (place : Nat) (fuel : Nat) (e : Term) : Render Item := do
  match fuel with
  | 0 => throw .tooDeep
  | fuel + 1 =>
    let one := evaluateWithin place fuel
    match e with
    | .const c => if c.isWritable then c.toItem else problem .unwritable
    | .name u =>
      match u.sure, ← Frame.lookup place u.var with
      | false, .missing => return .undefined
      | _, i => return i
    | .captured => return .undefined
    | .tuple es => return .tuple (← es.mapM one)
    | .list es => do newList (← es.mapM one)
    | .map es =>
      let entries ← es.mapM fun (k, e) => do return (← one k, ← one e)
      newMap (← Item.insertedAll [] entries)
    | .field owner name => do (← one owner).field name
    | .item owner key =>
      let i ← one owner
      i.item (← one key)
    | .slice owner start stop step =>
      let i ← one owner
      let a ← start.mapM one
      let b ← stop.mapM one
      i.slice a b (← step.mapM one)
    | .mixedSlice .. => problem .meaningless
    | .call function arguments =>
      let f ← one function
      called f (← givenOf one arguments)
    | .filter base name arguments =>
      let i ← one base
      let given ← givenOf one arguments
      if !Filter.isKnown name && !given.named.isEmpty then
        wrongKind "got an unexpected keyword argument"
      Filter.apply name i given
    | .test base name arguments =>
      let i ← one base
      let given ← givenOf one arguments
      if !Test.isKnown name && !given.named.isEmpty then
        wrongKind "got an unexpected keyword argument"
      return .bool (← Filter.passes name i given)
    | .negate e => do (← one e).negated
    | .positive e => do (← one e).positive
    | .not e => do return .bool (!(← (← one e).holds))
    | .and a b =>
      let i ← one a
      if ← i.holds then one b else return i
    | .or a b =>
      let i ← one a
      if ← i.holds then return i else one b
    | .arith op a b =>
      let i ← one a
      op.apply i (← one b)
    | .concat escapes es =>
      let items ← es.mapM one
      if escapes && items.any Item.isMarkup then
        return .markup (String.join (← items.mapM Item.escaped))
      else return .text (String.join (← items.mapM Item.display))
    | .compare first rest => do return .bool (← compared one (← one first) rest)
    | .choose test yes no =>
      if ← (← one test).holds then one yes
      else
        match no with
        | some e => one e
        | none => return .undefined

/-- What an expression comes to in a frame. -/
def evaluate (place : Nat) (e : Term) : Render Item := evaluateWithin place (e.height + 1) e

end SecurityScan.Template
