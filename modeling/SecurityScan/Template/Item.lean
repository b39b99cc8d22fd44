import SecurityScan.Template.Code
import SecurityScan.Value.Basic
import SecurityScan.Value.Kind

/-!
# Items

What the expressions of a template stand for. An item that can change, or that can only be told
from others by where it is, stands in a cell, and is known by the place of its cell. Rendering is a
computation on a world of cells; it may call routines and ask for the next item of an iterator,
both of which a machine does.
-/

namespace SecurityScan.Template

inductive Item
  /-- What stands for no item in a variable that is gone. -/
  | missing
  /-- What a name that was never given stands for. -/
  | undefined
  | null
  | bool (b : Bool)
  | int (i : Int)
  | float (x : Double)
  | complex (re im : Double)
  | text (s : String)
  /-- Text that goes out as it is. -/
  | markup (s : String)
  /-- A date, a time or bytes. -/
  | value (v : Value)
  | tuple (items : List Item)
  /-- Items that share a key. -/
  | group (key members : Item)
  | range (start stop step : Int)
  /-- A kind of items, by its full name. -/
  | kind (name : String)
  | function (name : String)
  /-- An operation of an item. -/
  | method (owner : Item) (name : String)
  /-- Something that is only known by how it is shown. -/
  | shown (s : String)
  | cell (place : Nat)
deriving Inhabited

/-- What a call is given. -/
structure Given where
  positional : List Item
  named : List (String × Item)
deriving Inhabited

def Given.none : Given := ⟨[], []⟩

/-- What is seen of a map. -/
inductive View
  | keys
  | values
  | items
deriving DecidableEq

/-- What is done to each item of a mapping iterator. -/
inductive Change
  /-- The item is looked into, one step after the other; `default` replaces what is not there. -/
  | look (steps : List Item) (default : Option Item)
  | filter (name : Item) (given : Given)

/-- Which items a choosing iterator lets pass. -/
structure Choice where
  steps : List Item
  /-- A test with what it is given; without one an item passes if it holds. -/
  test : Option (Item × Given)
  keeps : Bool

/-- Where an iterator stands. -/
inductive Iterator
  | through (rest : List Item)
  | ofList (list index : Nat)
  /-- The members of a list from the back; `index` counts those that are left. -/
  | ofListBack (list index : Nat)
  | ofMap (map : Nat) (view : View) (size index : Nat) (back : Bool)
  | ofRange (left : Nat) (next step : Int)
  /-- A filter that has not begun to go through its items. -/
  | waiting (filter : String) (base : Item) (given : Given)
  | changing (source : Nat) (how : Change)
  | choosing (source : Nat) (how : Choice)
  | distinct (source : Nat) (ignoresCase : Bool) (steps : Option (List Item)) (seen : List Item)
  /-- Rows of a length; `row` is the reversed start of the next one. -/
  | rows (source : Nat) (length fill : Item) (row : List Item) (goesOn : Bool)
  /-- The items of a loop that pass its test. -/
  | passing (source : Nat) (target : Target Var) (condition : Term) (frame : Nat)

/-- The state of a loop. -/
structure LoopState where
  members : Item
  source : Nat
  length : Option Int
  /-- The place of the current item, one less than zero at first. -/
  place : Int
  before : Item
  current : Item
  /-- The next item where it is known already; `missing` where it is not. -/
  after : Item
  depth : Int
  /-- What goes through further items in the same way. -/
  again : Option Nat
  /-- What was last looked at for a change. -/
  lastSeen : Item

/-- Variables, and the place of those around them. -/
structure Frame where
  vars : List (Var × Item)
  outer : Option Nat
  context : Nat

/-- What stands at a place. -/
inductive Cell
  | list (items : Array Item)
  | map (entries : List (Item × Item))
  | set (members : List Item)
  | view (map : Nat) (view : View)
  /-- Members that can be bound anew. -/
  | space (members : List (String × Item))
  | iterator (it : Iterator)
  | loop (state : LoopState)
  | cycler (items : List Item) (place : Nat)
  | joiner (between : Item) (used : Bool)
  | routine (r : Routine) (body : List Step) (frame : Nat) (escapes : Bool)
  /-- A loop that can be gone through again with further items. -/
  | again (l : Loop) (body : List Step) (otherwise : Option (List Step)) (frame : Nat)
  | self (context : Nat)
  | block (name : String) (context : Nat)
  | frame (f : Frame)
  /-- What names stand for around the template: those that it published, and those given. -/
  | context (published given : List (String × Item))
deriving Inhabited

structure World where
  cells : Array Cell
  /-- How deep calls stand in one another. -/
  depth : Nat
  /-- Whether what is put out is escaped. -/
  escapes : Bool
  /-- What is put out. -/
  output : String
  /-- Whether all that was put out was text. -/
  isText : Bool
  blocks : List (String × List Step)

namespace World

def empty : World := ⟨#[], 0, true, "", true, []⟩

end World

abbrev Run := StateT World (Except Fault)

/-- What a rendering relies on to call routines and to go through iterators. -/
structure Machine where
  /-- Calls an item; it matters to some whether the template itself calls them. -/
  call : (byTemplate : Bool) → Item → Given → Run Item
  next : Nat → Run (Option Item)

abbrev Render := ReaderT Machine Run

namespace Render

def fail {α : Type} (f : Fault) : Render α := throw f

def ofResult {α : Type} : Except Fault α → Render α
  | .ok a => pure a
  | .error f => throw f

/-- A fault of an item of the wrong kind. -/
def wrongKind {α : Type} (message : String) : Render α := throw (.wrongKind message)

def problem {α : Type} (p : TemplateProblem) : Render α := throw (.template p)

/-- A fault of a name that stands for nothing. -/
def noValue {α : Type} : Render α := throw (.undefined "the name stands for nothing")

/-! ## Cells -/

def new (c : Cell) : Render Nat := modifyGetThe World fun w =>
  (w.cells.size, { w with cells := w.cells.push c })

def newItem (c : Cell) : Render Item := Item.cell <$> new c

def newList (items : List Item) : Render Item := newItem (.list items.toArray)

def newMap (entries : List (Item × Item)) : Render Item := newItem (.map entries)

def newIterator (it : Iterator) : Render Item := newItem (.iterator it)

def cellAt (place : Nat) : Render Cell := do
  return ((← getThe World).cells[place]?).getD (.list #[])

def setCell (place : Nat) (c : Cell) : Render Unit :=
  modifyThe World fun w => { w with cells := w.cells.setIfInBounds place c }

/-- The cell of an item that has one. -/
def cellOf? (i : Item) : Render (Option Cell) := do
  match i with
  | .cell place => some <$> cellAt place
  | _ => return none

/-! ## Calls -/

def call (f : Item) (given : Given) : Render Item := fun m => m.call false f given

/-- A call that the template itself makes. -/
def callHere (f : Item) (given : Given) : Render Item := fun m => m.call true f given

def next (iterator : Nat) : Render (Option Item) := fun m => m.next iterator

/-- More items than this are not gone through. -/
def maxItems : Nat := 100000000

/-- All that an iterator still has, at most `fuel` items. -/
def drain (iterator : Nat) (found : Array Item) : Nat → Render (List Item)
  | 0 => throw .outOfMemory
  | fuel + 1 => do
    match ← next iterator with
    | some i => drain iterator (found.push i) fuel
    | none => return found.toList

def rest (iterator : Nat) : Render (List Item) := drain iterator #[] maxItems

end Render

/-! ## Kinds -/

def View.kind : View → String
  | .keys => "dict_keys"
  | .values => "dict_values"
  | .items => "dict_items"

def Iterator.kind : Iterator → String
  | .through _ => "tuple_iterator"
  | .ofList .. => "list_iterator"
  | .ofListBack .. => "list_reverseiterator"
  | .ofMap _ .keys _ _ back => if back then "dict_reversekeyiterator" else "dict_keyiterator"
  | .ofMap _ .values _ _ back => if back then "dict_reversevalueiterator" else "dict_valueiterator"
  | .ofMap _ .items _ _ back => if back then "dict_reverseitemiterator" else "dict_itemiterator"
  | .ofRange .. => "range_iterator"
  | _ => "generator"

def Cell.kind : Cell → String
  | .list _ => "list"
  | .map _ => "dict"
  | .set _ => "set"
  | .view _ v => v.kind
  | .space _ => "jinja2.utils.Namespace"
  | .iterator it => it.kind
  | .loop _ => "jinja2.runtime.LoopContext"
  | .cycler .. => "jinja2.utils.Cycler"
  | .joiner .. => "jinja2.utils.Joiner"
  | .routine .. => "jinja2.runtime.Macro"
  | .again .. => "function"
  | .self _ => "jinja2.runtime.TemplateReference"
  | .block .. => "jinja2.runtime.BlockReference"
  | .frame _ => "frame"
  | .context .. => "jinja2.runtime.Context"

namespace Item

/-- The full name of the kind of an item. -/
def kindName (i : Item) : Render String := do
  match i with
  | .missing => return "jinja2.utils.MissingType"
  | .undefined => return "jinja2.runtime.Undefined"
  | .null => return "NoneType"
  | .bool _ => return "bool"
  | .int _ => return "int"
  | .float _ => return "float"
  | .complex .. => return "complex"
  | .text _ => return "str"
  | .markup _ => return "markupsafe.Markup"
  | .value v =>
    return match v with
      | .date _ => "datetime.date"
      | .datetime _ => "datetime.datetime"
      | v => v.kind
  | .tuple _ => return "tuple"
  | .group .. => return "jinja2.filters._GroupTuple"
  | .range .. => return "range"
  | .kind _ => return "type"
  | .function _ => return "function"
  | .method (.cell place) _ =>
    return match ← Render.cellAt place with
      | .list _ | .map _ | .set _ | .view .. | .iterator _ => "builtin_function_or_method"
      | _ => "method"
  | .method (.markup _) _ => return "method"
  | .method (.kind k) name => return (Kind.form (Kind.home k name) name).kind
  | .method (.text _) name => return Kind.boundKind "str" name
  | .method .. => return "builtin_function_or_method"
  | .shown _ => return "object"
  | .cell place => return (← Render.cellAt place).kind

/-- The text of an item that is one. -/
def text? : Item → Option String
  | .text s | .markup s => some s
  | _ => none

def isMarkup : Item → Bool
  | .markup _ => true
  | _ => false

def isUndefined : Item → Bool
  | .undefined => true
  | _ => false

/-- A text of the same sort as an item: markup stays markup. -/
def withText (i : Item) (s : String) : Item := if i.isMarkup then .markup s else .text s

/-- The members of a tuple. -/
def tuple? : Item → Option (List Item)
  | .tuple items => some items
  | .group key members => some [key, members]
  | _ => none

/-- A number; truth values count as one and zero. -/
def numeric? : Item → Option Value.Numeric
  | .bool b => some (.whole (if b then 1 else 0))
  | .int i => some (.whole i)
  | .float x => some (.real x)
  | _ => none

/-- A whole number that can be a place. -/
def whole? : Item → Option Int
  | .int i => some i
  | .bool b => some (if b then 1 else 0)
  | _ => none

/-- A whole number that an operation needs. -/
def whole (i : Item) : Render Int :=
  match i with
  | .undefined => Render.wrongKind "'Undefined' object cannot be interpreted as an integer"
  | i =>
    match i.whole? with
    | some n => pure n
    | none => Render.wrongKind "the item cannot be interpreted as an integer"

/-- A whole number that has room in 64 bits. -/
def indexWhole (i : Item) : Render Int := do
  let n ← i.whole
  if n < -2 ^ 63 || 2 ^ 63 ≤ n then
    throw (.overflow "Python int too large to convert to C ssize_t")
  return n

def ofBytes (bs : Text.Utf8.Bytes) : Item := .value (.bytes bs)

end Item

/-! ## Arguments -/

/-- What a call is given, by the names that it is known by. -/
abbrev Bound := List (String × Item)

namespace Given

/-- Binds what is given to the names `needed`, and then to those that may be missing. -/
def bind (g : Given) (needed optional : List String) : Render Bound := do
  let names := needed ++ optional
  if names.length < g.positional.length then
    Render.wrongKind "too many arguments were given"
  let bound := names.zip g.positional
  for (name, _) in g.named do
    if (bound.lookup name).isSome || !names.contains name then
      Render.wrongKind ("got an unexpected keyword argument '" ++ name ++ "'")
  let all := bound ++ g.named
  for name in needed do
    if (all.lookup name).isNone then
      Render.wrongKind ("missing a required argument: '" ++ name ++ "'")
  return all

/-- Refuses what is given by name. -/
def inOrder (g : Given) (least most : Nat) : Render (List Item) := do
  if !g.named.isEmpty then Render.wrongKind "takes no keyword arguments"
  if g.positional.length < least || most < g.positional.length then
    Render.wrongKind "takes another number of arguments"
  return g.positional

end Given

namespace Bound

def get? (b : Bound) (name : String) : Option Item := b.lookup name

def getD (b : Bound) (name : String) (default : Item) : Item := (b.get? name).getD default

end Bound

end SecurityScan.Template
