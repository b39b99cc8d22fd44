import SecurityScan.Template.Method.Bytes
import SecurityScan.Template.Method.Number

/-!
# Calling what is no routine

An operation of an item, or a kind of items that makes one of what it is given.
-/

namespace SecurityScan.Template.Method

open Render

/-! ## Operations of every item -/

/-- What a member under a key that has to be there is. -/
def member (i key : Item) : Render Item := do
  match ← i.subscript? key with
  | some found => return found
  | none =>
    match ← i.entries?, key.whole?, ← i.count? with
    | some _, _, _ =>
      key.needKey
      problem .missingKey
    | none, some _, some _ => throw (.badIndex "index out of range")
    | none, _, _ => wrongKind "the item has no members under such a key"

/-- The operators that have names of their own. -/
def operator? : String → Option Operator
  | "__add__" => some .add
  | "__sub__" => some .sub
  | "__mul__" | "__rmul__" => some .mul
  | "__truediv__" => some .div
  | "__floordiv__" => some .floorDiv
  | "__mod__" => some .mod
  | "__pow__" => some .pow
  | _ => none

/-- The operators that have names of their own where the item stands on the right. -/
def operatorFromRight? : String → Option Operator
  | "__radd__" => some .add
  | "__rsub__" => some .sub
  | "__rtruediv__" => some .div
  | "__rfloordiv__" => some .floorDiv
  | "__rmod__" => some .mod
  | "__rpow__" => some .pow
  | _ => none

def comparison? : String → Option Comparison
  | "__eq__" => some .eq
  | "__ne__" => some .ne
  | "__lt__" => some .lt
  | "__le__" => some .le
  | "__gt__" => some .gt
  | "__ge__" => some .ge
  | _ => none

/-- What any item comes to when it is asked for an operation; none for one that not all have. -/
def common? (i : Item) (name : String) (g : Given) : Render (Option Item) := do
  let alone {α : Type} (x : Render α) : Render α := do
    let _ ← g.inOrder 0 0
    x
  let other : Render Item := do return first (← g.inOrder 1 1)
  match operator? name, operatorFromRight? name, comparison? name with
  | some op, _, _ => return some (← op.apply i (← other))
  | _, some op, _ => return some (← op.apply (← other) i)
  | _, _, some c => return some (.bool (← c.holds i (← other)))
  | none, none, none =>
    match name with
    | "__len__" => return some (.int (← alone i.length))
    | "__str__" => return some (.text (← alone i.display))
    | "__repr__" => return some (.text (← alone i.literal))
    | "__bool__" => return some (.bool (← alone i.holds))
    | "__contains__" => return some (.bool (← Item.isIn (← other) i))
    | "__getitem__" => some <$> member i (← other)
    | "__format__" =>
      return some (ofChars (← i.laidOut (← needText (← other))))
    | "__iter__" => return some (.cell (← alone i.iterate))
    | "__next__" => return some ((← next (← alone i.iterate)).getD .undefined)
    | "__neg__" => some <$> alone i.negated
    | "__pos__" => some <$> alone i.positive
    | "__abs__" =>
      match i.numeric? with
      | some (.whole n) => return some (.int (← alone (pure n)).natAbs)
      | some (.real x) => return some (.float (← alone (pure (if x.isNegative then x.neg else x))))
      | none => return none
    | "__int__" | "__trunc__" | "__index__" => return some (.int (← alone i.toWhole))
    | "__float__" => return some (.float (← alone i.toDouble))
    | "__round__" =>
      let given ← g.inOrder 0 1
      return some (← i.rounded (given.headD .null))
    | "__floor__" => return some (.int (← alone (i.wholeBeside false)))
    | "__ceil__" => return some (.int (← alone (i.wholeBeside true)))
    | "__divmod__" =>
      let j ← other
      return some (Item.pair (← Operator.floorDiv.apply i j) (← Operator.mod.apply i j))
    | "__reversed__" => alone i.fromBack?
    | _ => return none

/-- What the state of a loop comes to when it is asked for an operation. -/
def ofLoop (place : Nat) (l : LoopState) (name : String) (g : Given) : Render Item := do
  match name with
  | "cycle" =>
    if !g.named.isEmpty then wrongKind "takes no keyword arguments"
    if g.positional.isEmpty then wrongKind "no items for cycling given"
    return g.positional[(l.place % g.positional.length).toNat]?.getD .undefined
  | "changed" =>
    if !g.named.isEmpty then wrongKind "takes no keyword arguments"
    let seen : Item := .tuple g.positional
    if ← l.lastSeen.same seen then return .bool false
    else
      setCell place (.loop { l with lastSeen := seen })
      return .bool true
  | _ => problem .unsupported

/-- What a cell comes to when it is asked for an operation. -/
def ofCell (place : Nat) (name : String) (g : Given) : Render Item := do
  match ← cellAt place with
  | .list items => ofList place items name g
  | .map entries => ofMap place entries name g
  | .loop l => ofLoop place l name g
  | .cycler items at' =>
    let _ ← g.inOrder 0 0
    match name with
    | "next" | "__next__" =>
      setCell place (.cycler items ((at' + 1) % items.length))
      return items[at']?.getD .undefined
    | _ =>
      setCell place (.cycler items 0)
      return done
  | _ => problem .unsupported

/-- What a group comes to when it is asked for an operation. -/
def ofGroup (key members : Item) (name : String) (g : Given) : Render Item := do
  match name with
  | "_asdict" =>
    let _ ← g.inOrder 0 0
    newMap [(.text "grouper", key), (.text "list", members)]
  | "_replace" =>
    if !g.positional.isEmpty then wrongKind "takes no arguments in order"
    if g.named.any fun (s, _) => s != "grouper" && s != "list" then
      throw (.badValue "Got unexpected field names")
    return .group ((g.named.lookup "grouper").getD key) ((g.named.lookup "list").getD members)
  | _ => ofTuple [key, members] name g

/-- What an item that is no kind comes to when it is asked for an operation. -/
def ofItem (owner : Item) (name : String) (g : Given) : Render Item := do
  match ← common? owner name g with
  | some i => return i
  | none =>
    if name == "__call__" then call owner g
    else
      match owner with
      | .text s => ofText s name g
      | .markup s => ofMarkup s name g
      | .tuple items => ofTuple items name g
      | .group key members => ofGroup key members name g
      | .range .. => ofRange (← owner.members) name g
      | .value (.bytes bs) => ofBytes bs name g
      | .cell place => ofCell place name g
      | owner =>
        match owner.numeric? with
        | some n => ofNumber n name g
        | none => problem .unsupported

/-- What a kind comes to when it is asked for an operation: for one of its items, which is given
first, unless the operation is one of the kind itself. -/
def ofKindItself (kind name : String) (g : Given) : Render Item := do
  if name == "fromkeys" && kind == "dict" then fromKeys g
  else if name == "maketrans" then tableOf (← g.inOrder 1 3)
  else if name == "mro" then
    let _ ← g.inOrder 0 0
    newList ((Item.kindLine kind).map .kind)
  else
    match g.positional with
    | owner :: more =>
      if !(Item.kindLine (← owner.kindName)).contains kind then
        wrongKind "the operation is not one of such an item"
      let owner := match owner, kind with
        | .markup s, "str" => .text s
        | owner, _ => owner
      ofItem owner name ⟨more, g.named⟩
    | [] => wrongKind "the operation needs an item"

/-- What an item comes to when it is asked for an operation. -/
def apply (owner : Item) (name : String) (g : Given) : Render Item := do
  match owner with
  | .kind k => ofKindItself k name g
  | owner => ofItem owner name g

/-! ## Kinds -/

/-- A whole number that is read in a base or made of another number. -/
def wholeIn (i : Item) (base : Item) : Render Int := do
  let n ← base.whole
  if n != 0 && (n < 2 || 36 < n) then
    throw (.badValue "int() base must be >= 2 and <= 36, or 0")
  match i.text? with
  | none => wrongKind "int() can't convert non-string with explicit base"
  | some s =>
    match Number.readIntIn n.toNat s with
    | .ok m => return m
    | .error .malformed => throw (Fault.notWhole n.toNat s)
    | .error (.tooLong count) => throw (.tooManyDigits count)

def rangeOf (g : Given) : Render Item := do
  match ← (← g.inOrder 1 3).mapM Item.whole with
  | [stop] => return .range 0 stop 1
  | [start, stop] => return .range start stop 1
  | start :: stop :: step :: _ =>
    if step == 0 then throw (.badValue "range() arg 3 must not be zero")
    return .range start stop step
  | [] => wrongKind "range expected at least 1 argument"

/-- The item of a kind that a call makes. -/
def ofKind (kind : String) (g : Given) : Render Item := do
  let one : Render (Option Item) := do return (← g.inOrder 0 1).head?
  let all : Render (List Item) := do
    match ← one with
    | some i => i.members
    | none => return []
  match kind with
  | "range" => rangeOf g
  | "dict" => newMap (← updated [] g)
  | "jinja2.utils.Namespace" =>
    let entries ← updated [] g
    newItem (.space (entries.filterMap fun (k, i) => k.text?.map fun s => (s, i)))
  | "jinja2.utils.Cycler" =>
    if !g.named.isEmpty then wrongKind "takes no keyword arguments"
    if g.positional.isEmpty then throw (.template .changedMeanwhile)
    newItem (.cycler g.positional 0)
  | "jinja2.utils.Joiner" =>
    newItem (.joiner ((← g.bind [] ["sep"]).getD "sep" (.text ", ")) false)
  | "list" => newList (← all)
  | "tuple" => return .tuple (← all)
  | "set" =>
    let items ← all
    items.forM Item.needKey
    newItem (.set (← Item.distinctItems items))
  | "str" =>
    match ← one with
    | some i => return .text (← i.display)
    | none => return .text ""
  | "markupsafe.Markup" =>
    match ← one with
    | some i => return .markup (← i.display)
    | none => return .markup ""
  | "bool" =>
    match ← one with
    | some i => return .bool (← i.holds)
    | none => return .bool false
  | "int" =>
    let b ← g.bind [] ["x", "base"]
    match b.get? "x", b.get? "base" with
    | none, _ => return .int 0
    | some i, none => return .int (← i.toWhole)
    | some i, some base => return .int (← wholeIn i base)
  | "float" =>
    match ← one with
    | some i => return .float (← i.toDouble)
    | none => return .float (.zero false)
  | "type" =>
    match ← one with
    | some i => return .kind (← i.kindName)
    | none => wrongKind "type() takes 1 or 3 arguments"
  | _ => problem .unsupported

/-- What a function comes to. The one that makes up paragraphs makes none up where none are asked
for; what it makes up otherwise no rule says. -/
def ofFunction (name : String) (g : Given) : Render Item := do
  match name with
  | "generate_lorem_ipsum" =>
    let b ← g.bind [] ["n", "html", "min", "max"]
    if 0 < (← (b.getD "n" (.int 5)).whole) then problem .unsupported
    if ← (b.getD "html" (.bool true)).holds then return .markup "" else return .text ""
  | _ => problem .unsupported

/-- What a call of something that has no body comes to. -/
def callPlain (f : Item) (g : Given) : Render Item := do
  match f with
  | .undefined => noValue
  | .kind k => ofKind k g
  | .method owner name => apply owner name g
  | .function name => ofFunction name g
  | .cell place =>
    match ← cellAt place with
    | .joiner between used =>
      let _ ← g.inOrder 0 0
      if used then return between
      else
        setCell place (.joiner between true)
        return .text ""
    | .loop l =>
      let members := first (← g.inOrder 1 1)
      match l.again with
      | some again => call (.cell again) ⟨[members, .int (l.depth + 1)], []⟩
      | none =>
        wrongKind "The loop must have the 'recursive' marker to be called recursively."
    | _ => wrongKind "the item is not callable"
  | _ => wrongKind "the item is not callable"

/-- Whether an item can be called. -/
def isCallable (i : Item) : Render Bool := do
  match i with
  | .undefined | .kind _ | .function _ | .method .. => return true
  | .cell place =>
    return match ← cellAt place with
      | .joiner .. | .loop _ | .routine .. | .again .. | .block .. => true
      | _ => false
  | _ => return false

end SecurityScan.Template.Method
