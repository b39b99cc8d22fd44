import SecurityScan.Template.Operation
import SecurityScan.Text.Letter
import SecurityScan.Text.Split

/-!
# Fields and items

What an item has under a name or a key. A field is looked for among the operations and properties
of an item, and then among its members; an item the other way round. What is not there stands for
nothing.
-/

namespace SecurityScan.Template.Item

open Render

/-! ## Kinds -/

/-- The name of a kind without its module. -/
def shortName (kind : String) : String := Text.afterLast '.' kind

/-- The module of a kind. -/
def moduleName (kind : String) : String :=
  match (Text.splitOn '.' kind).dropLast with
  | [] => "builtins"
  | parts => ".".intercalate parts

/-- A kind and those that it extends. -/
def kindLine (kind : String) : List String :=
  match kind with
  | "markupsafe.Markup" => ["markupsafe.Markup", "str", "object"]
  | "jinja2.filters._GroupTuple" => ["jinja2.filters._GroupTuple", "tuple", "object"]
  | kind => Kind.line kind

def ofDescription (kind : String) : Item :=
  match Kind.description? kind with
  | some s => .text s
  | none => .null

/-- Operations that markup has and other texts have not. -/
def markupOperations : List String :=
  ["escape", "striptags", "unescape", "__html__", "__html_format__", "__radd__"]

/-- Whether items of a kind have an operation. -/
def hasOperation (kind name : String) : Bool :=
  Kind.has kind name ||
    match kind with
    | "markupsafe.Markup" => Kind.has "str" name || markupOperations.contains name
    | "jinja2.filters._GroupTuple" =>
      Kind.has "tuple" name || ["_asdict", "_replace", "_make"].contains name
    | "jinja2.runtime.LoopContext" =>
      ["cycle", "changed", "__call__", "__iter__", "__len__", "__next__"].contains name
    | "jinja2.utils.Cycler" => ["next", "reset", "__next__"].contains name
    | "jinja2.utils.Joiner" | "jinja2.runtime.Macro" | "jinja2.runtime.BlockReference" =>
      name == "__call__"
    | "jinja2.runtime.TemplateReference" => name == "__getitem__"
    | "list_iterator" | "tuple_iterator" | "range_iterator" | "list_reverseiterator" =>
      ["__iter__", "__next__", "__length_hint__"].contains name
    | _ => false

/-- The names of the members of a group. -/
def groupFields : Item := .tuple [.text "grouper", .text "list"]

/-- What a kind says of itself. -/
def kindField? (kind name : String) : Option Item :=
  match name with
  | "__name__" => some (.text (shortName kind))
  | "__qualname__" => some (.text (shortName kind))
  | "__module__" => some (.text (moduleName kind))
  | "__doc__" => some (ofDescription kind)
  | "__mro__" => some (.tuple ((kindLine kind).map .kind))
  | "__bases__" => some (.tuple (((kindLine kind).tail.take 1).map .kind))
  | "__base__" =>
    match (kindLine kind).tail with
    | next :: _ => some (.kind next)
    | [] => some .null
  | "__class__" => some (.kind "type")
  | "_fields" => if kind == "jinja2.filters._GroupTuple" then some groupFields else none
  | name =>
    if hasOperation kind name || Kind.has "type" name then some (.method (.kind kind) name)
    else none

/-! ## Properties -/

/-- A property of a number. -/
def numberField? (i : Item) (name : String) : Option Item :=
  match i, name with
  | .complex re _, "real" => some (.float re)
  | .complex _ im, "imag" => some (.float im)
  | i, name =>
    match i.numeric?, name with
    | some (.whole n), "real" | some (.whole n), "numerator" => some (.int n)
    | some (.whole _), "imag" => some (.int 0)
    | some (.whole _), "denominator" => some (.int 1)
    | some (.real x), "real" => some (.float x)
    | some (.real _), "imag" => some (.float (.zero false))
    | _, _ => none

def number (n : Int) : Item := .int n

/-- A property of the state of a loop. -/
def loopField? (place : Nat) (l : LoopState) (name : String) : Render (Option Item) := do
  match name with
  | "index" => return some (number (l.place + 1))
  | "index0" => return some (number l.place)
  | "length" => return some (number (← loopLength place l))
  | "revindex" => return some (number ((← loopLength place l) - l.place))
  | "revindex0" => return some (number ((← loopLength place l) - l.place - 1))
  | "first" => return some (.bool (l.place == 0))
  | "last" =>
    match ← peek place l with
    | .missing => return some (.bool true)
    | _ => return some (.bool false)
  | "depth" => return some (number (l.depth + 1))
  | "depth0" => return some (number l.depth)
  | "previtem" => return some (if l.place == 0 then .undefined else l.before)
  | "nextitem" =>
    match ← peek place l with
    | .missing => return some .undefined
    | i => return some i
  | _ => return none

/-- A property of a routine. -/
def routineField? (r : Routine) (name : String) : Option Item :=
  match name with
  | "name" => some (match r.name with
    | some s => .text s
    | none => .null)
  | "arguments" => some (.tuple (r.slots.map fun s => .text s.var.name))
  | "catch_kwargs" => some (.bool r.moreNamed.isSome)
  | "catch_varargs" => some (.bool r.morePositional.isSome)
  | "caller" => some (.bool r.usesCaller)
  | "explicit_caller" => some (.bool (r.slots.any (·.var.name == "caller")))
  | _ => none

/-- A property of what an operation is. -/
def methodField? (owner : Item) (operation name : String) : Render (Option Item) := do
  match name with
  | "__name__" => return some (.text operation)
  | "__qualname__" =>
    let full ← match owner with
      | .kind k => pure (shortName (Kind.home k operation) ++ "." ++ operation)
      | owner => do pure (Kind.boundName (shortName (← owner.kindName)) operation)
    return some (.text full)
  | "__self__" => return some owner
  | "__module__" => return some .null
  | _ => return none

/-- A property of a function. -/
def functionField? (function name : String) : Option Item :=
  match name with
  | "__name__" | "__qualname__" => some (.text function)
  | "__module__" => some (.text "jinja2.utils")
  | _ => none

/-- A property of an item: what it has under a name beside its operations. -/
def property? (i : Item) (name : String) : Render (Option Item) := do
  match i with
  | .kind k => return kindField? k name
  | .method owner operation => methodField? owner operation name
  | .function s => return functionField? s name
  | .range start stop step =>
    return match name with
      | "start" => some (number start)
      | "stop" => some (number stop)
      | "step" => some (number step)
      | _ => none
  | .group key members =>
    return match name with
      | "grouper" => some key
      | "list" => some members
      | "_fields" | "__match_args__" => some groupFields
      | _ => none
  | .cell place =>
    match ← cellAt place with
    | .loop l => loopField? place l name
    | .space members => return members.lookup name
    | .cycler items place =>
      match name with
      | "current" => return some ((items[place]?).getD .undefined)
      | "items" => return some (.tuple items)
      | "pos" => return some (number place)
      | _ => return none
    | .joiner between used =>
      return match name with
        | "sep" => some between
        | "used" => some (.bool used)
        | _ => none
    | .routine r .. => return routineField? r name
    | .block s _ =>
      return match name with
        | "name" => some (.text s)
        | "super" => some .undefined
        | _ => none
    | .again .. => return if name == "__name__" then some (.text "loop") else none
    | _ => return none
  | i => return numberField? i name

/-- Whether a name is one that the language keeps for itself. -/
def isReserved (name : String) : Bool := Text.startsWith name "__" && Text.endsWith name "__"

/-- What an item has under a name, its members left out. -/
def attribute? (i : Item) (name : String) : Render (Option Item) := do
  match ← i.property? name with
  | some found => return some found
  | none =>
    let kind ← i.kindName
    if name == "__class__" then return some (.kind kind)
    else
      let isSpace ← match i with
        | .cell place =>
          match ← cellAt place with
          | .space _ => pure true
          | _ => pure false
        | _ => pure false
      if isSpace then return none
      else if name == "__doc__" then return some (ofDescription kind)
      else if hasOperation kind name then return some (.method i name)
      else
        match i with
        | .undefined => if isReserved name then return none else noValue
        | _ => return none

/-! ## Members -/

/-- The member at a place, counted from the end where it is negative. -/
def nth? (items : List Item) (i : Int) : Option Item :=
  let place := if i < 0 then i + items.length else i
  if place < 0 then none else items[place.toNat]?

/-- A kind that is asked for more. -/
def aliasOf (kind : String) (key : Item) : Render Item := do
  let texts ← match key.tuple? with
    | some items => items.mapM shownKey
    | none => return .shown (kind ++ "[" ++ (← shownKey key) ++ "]")
  return .shown (kind ++ "[" ++ commaSeparated texts ++ "]")
where
  shownKey (key : Item) : Render String :=
    match key with
    | .kind s => pure s
    | key => key.literal

/-- The member under a key; none where there is none or the key is of the wrong kind. -/
def subscript? (i key : Item) : Render (Option Item) := do
  let at? (items : List Item) : Option Item := key.whole?.bind (nth? items)
  match i with
  | .undefined => noValue
  | .text s => return at? (characters s)
  | .markup s =>
    return (at? (characters s)).map fun c => .markup ((c.text?).getD "")
  | .tuple items => return at? items
  | .group first members => return at? [first, members]
  | .range start stop step =>
    return do
      let n ← key.whole?
      let length := rangeLength start stop step
      let place := if n < 0 then n + length else n
      if 0 ≤ place && place < length then some (.int (start + place * step)) else none
  | .value (.bytes bs) => return at? (bs.map fun b => .int b.toNat)
  | .kind k =>
    if hasOperation k "__class_getitem__" then some <$> aliasOf k key else return none
  | .cell place =>
    match ← cellAt place with
    | .list items =>
      return do
        let n ← key.whole?
        let place := if n < 0 then n + items.size else n
        if place < 0 then none else items[place.toNat]?
    | .map entries =>
      if ← key.isKey then return (← entry? entries key).map (·.2) else return none
    | .self context =>
      match key.text? with
      | some name =>
        if ((← getThe World).blocks.lookup name).isSome then
          some <$> newItem (.block name context)
        else return none
      | none => return none
    | _ => return none
  | _ => return none

/-- A field: a property or an operation of that name, or else a member. -/
def field (i : Item) (name : String) : Render Item := do
  match ← i.attribute? name with
  | some found => return found
  | none => return (← i.subscript? (.text name)).getD .undefined

/-- An item: a member under the key, or else a property or an operation of that name. -/
def item (i key : Item) : Render Item := do
  match ← i.subscript? key with
  | some found => return found
  | none =>
    match key.text? with
    | some name => return (← i.attribute? name).getD .undefined
    | none => return .undefined

/-- What an item comes to, looked into step by step. -/
def lookInto (steps : List Item) (default : Option Item) (i : Item) : Render Item :=
  steps.foldlM (fun i step => do
    let found ← i.item step
    return if found.isUndefined then default.getD found else found) i

/-- The steps that a written path stands for: its parts between dots, numbers as such. -/
def stepsOf (path : Item) : Render (List Item) := do
  match path with
  | .null => return []
  | .text s | .markup s =>
    (Text.splitOn '.' s).mapM fun part => do
      if Text.isAll Text.isAnyDigit part.toList then return .int (← ofResult (Fault.wholeOf part))
      else return .text part
  | path => return [path]

/-! ## Slices -/

/-- A bound of a slice, kept within the places that a step of this sign can reach. -/
def clamp (length : Nat) (back : Bool) (i : Int) : Int :=
  let low : Int := if back then -1 else 0
  let high : Int := if back then (length : Int) - 1 else length
  let place := if i < 0 then i + length else i
  max low (min high place)

/-- The first place of a slice, and the place before which it stops. -/
def sliceBounds (length : Nat) (start stop : Option Int) (step : Int) : Int × Int :=
  let back := step < 0
  let first := match start with
    | some i => clamp length back i
    | none => if back then (length : Int) - 1 else 0
  let last := match stop with
    | some i => clamp length back i
    | none => if back then -1 else length
  (first, last)

/-- The members of a list from a start to a stop by a step. -/
def sliced {α : Type} (xs : List α) (start stop : Option Int) (step : Int) : List α :=
  let (first, last) := sliceBounds xs.length start stop step
  let all := xs.toArray
  (List.range (rangeLength first last step)).filterMap fun n : Nat =>
    all[(first + n * step).toNat]?

/-- A bound that is a whole number or left out. -/
def bound? (i : Option Item) : Render (Option Int) := do
  match i with
  | none | some .null => return none
  | some i =>
    match i.whole? with
    | some n => return some n
    | none => wrongKind "slice indices must be integers or None or have an __index__ method"

/-- A part of a sequence. -/
def slice (i : Item) (start stop step : Option Item) : Render Item := do
  let bounds : Render (Option Int × Option Int × Int) := do
    let step := (← bound? step).getD 1
    if step == 0 then throw (.badValue "slice step cannot be zero")
    let start ← bound? start
    return (start, ← bound? stop, step)
  match i with
  | .undefined => noValue
  | .text _ | .markup _ =>
    let (start, stop, step) ← bounds
    return i.withText (String.ofList (sliced (← i.display).toList start stop step))
  | .range first last by' =>
    let (start, stop, step) ← bounds
    let (a, b) := sliceBounds (rangeLength first last by') start stop step
    return .range (first + a * by') (first + b * by') (by' * step)
  | .value (.bytes bs) =>
    let (start, stop, step) ← bounds
    return ofBytes (sliced bs start stop step)
  | .cell _ =>
    match ← i.sequence? with
    | some items =>
      let (start, stop, step) ← bounds
      newList (sliced items start stop step)
    | none => wrongKind "the item has no slices"
  | i =>
    match i.tuple? with
    | some items =>
      let (start, stop, step) ← bounds
      return .tuple (sliced items start stop step)
    | none => wrongKind "the item has no slices"

end SecurityScan.Template.Item
