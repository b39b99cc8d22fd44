import SecurityScan.Template.Item
import SecurityScan.Value.Access

/-!
# Members of items

Going through the members of an item, counting them, and whether an item holds.
-/

namespace SecurityScan.Template.Item

open Render

def notIterable {α : Type} : Render α := wrongKind "the item is not iterable"

/-! ## Parts of cells -/

def single (c : Char) : Item := .text (String.singleton c)

/-- The characters of a text. -/
def characters (s : String) : List Item := s.toList.map single

def pair (a b : Item) : Item := .tuple [a, b]

def mapAt (place : Nat) : Render (List (Item × Item)) := do
  match ← cellAt place with
  | .map entries => return entries
  | _ => return []

/-- What is seen of the entries of a map. -/
def viewed (view : View) (entries : List (Item × Item)) : List Item :=
  match view with
  | .keys => entries.map (·.1)
  | .values => entries.map (·.2)
  | .items => entries.map fun e => pair e.1 e.2

/-- How many numbers a range has. -/
def rangeLength (start stop step : Int) : Nat :=
  if 0 < step then ((stop - start + step - 1) / step).toNat
  else ((start - stop - step - 1) / (-step)).toNat

def rangeItems (start stop step : Int) : List Item :=
  (List.range (rangeLength start stop step)).map fun n : Nat => .int (start + n * step)

/-! ## Iterators -/

/-- The place of an iterator over the members of an item. -/
def iterate (i : Item) : Render Nat := do
  match i with
  | .undefined => new (.iterator (.through []))
  | .text s | .markup s => new (.iterator (.through (characters s)))
  | .tuple items => new (.iterator (.through items))
  | .group key members => new (.iterator (.through [key, members]))
  | .range start stop step =>
    new (.iterator (.ofRange (rangeLength start stop step) start step))
  | .value v =>
    match v with
    | .bytes bs => new (.iterator (.through (bs.map fun b => .int b.toNat)))
    | _ => notIterable
  | .cell place =>
    match ← cellAt place with
    | .list _ => new (.iterator (.ofList place 0))
    | .map entries => new (.iterator (.ofMap place .keys entries.length 0 false))
    | .set members => new (.iterator (.through members))
    | .view map view =>
      new (.iterator (.ofMap map view (← mapAt map).length 0 false))
    | .iterator _ | .loop _ => return place
    | _ => notIterable
  | _ => notIterable

/-- All members of an item. -/
def members (i : Item) : Render (List Item) := do
  match i with
  | .tuple items => return items
  | .cell place =>
    match ← cellAt place with
    | .list items => return items.toList
    | .map entries => return entries.map (·.1)
    | .set members => return members
    | .view map view => return viewed view (← mapAt map)
    | _ => rest (← iterate i)
  | i => rest (← iterate i)

/-! ## Loops -/

def loopAt (place : Nat) : Render (Option LoopState) := do
  match ← cellAt place with
  | .loop l => return some l
  | _ => return none

/-- The next item of a loop, which stays the next one; `missing` at the end. -/
def peek (place : Nat) (l : LoopState) : Render Item := do
  match l.after with
  | .missing =>
    let i := (← next l.source).getD .missing
    setCell place (.loop { l with after := i })
    return i
  | i => return i

/-- How many members an item has whose count is known; none for others. -/
def count? (i : Item) : Render (Option Nat) := do
  match i with
  | .undefined => return some 0
  | .text s | .markup s => return some s.length
  | .tuple items => return some items.length
  | .group .. => return some 2
  | .range start stop step => return some (rangeLength start stop step)
  | .value v =>
    return match v with
      | .bytes bs => some bs.length
      | _ => none
  | .cell place =>
    match ← cellAt place with
    | .list items => return some items.size
    | .map entries => return some entries.length
    | .set members => return some members.length
    | .view map _ => return some (← mapAt map).length
    | _ => return none
  | _ => return none

/-- The count of a loop's items. What is only gone through once is gone through for it. -/
def loopLength (place : Nat) (l : LoopState) : Render Int := do
  match l.length with
  | some n => return n
  | none =>
    match ← count? l.members with
    | some n =>
      setCell place (.loop { l with length := some n })
      return n
    | none =>
      let items ← rest l.source
      let source ← new (.iterator (.through items))
      let isPeeked := match l.after with
        | .missing => 0
        | _ => 1
      let n : Int := items.length + (l.place + 1) + isPeeked
      setCell place (.loop { l with source := source, length := some n })
      return n

/-- How many members an item has. -/
def length (i : Item) : Render Nat := do
  match ← count? i with
  | some n => return n
  | none =>
    match i with
    | .cell place =>
      match ← loopAt place with
      | some l => return (← loopLength place l).toNat
      | none => wrongKind "the item has no len()"
    | _ => wrongKind "the item has no len()"

/-- What goes through the members of an item from the back, if it has a back. -/
def fromBack? (i : Item) : Render (Option Item) := do
  let through (items : List Item) : Render (Option Item) :=
    some <$> newIterator (.through items.reverse)
  match i with
  | .undefined => through []
  | .text s => through (characters s)
  | .markup s => through (s.toList.map fun c => .markup (String.singleton c))
  | .tuple items => through items
  | .group key members => through [key, members]
  | .value (.bytes _) => through (← i.members)
  | .range start _ step =>
    let n ← i.length
    some <$> newIterator (.ofRange n (start + (n - 1) * step) (-step))
  | .cell place =>
    match ← cellAt place with
    | .list items => some <$> newIterator (.ofListBack place items.size)
    | .map entries => some <$> newIterator (.ofMap place .keys entries.length 0 true)
    | .view map view =>
      some <$> newIterator (.ofMap map view (← mapAt map).length 0 true)
    | _ => return none
  | _ => return none

/-! ## Truth -/

/-- Nothing, false, zero and what has no members do not hold; all else does. -/
def holds (i : Item) : Render Bool := do
  match i with
  | .undefined | .null => return false
  | .bool b => return b
  | .int n => return n != 0
  | .float x => return !x.isZero
  | .complex re im => return !(re.isZero && im.isZero)
  | i =>
    match ← count? i with
    | some n => return n != 0
    | none =>
      match i with
      | .cell place =>
        match ← loopAt place with
        | some l => return (← loopLength place l) != 0
        | none => return true
      | _ => return true

/-- The members of a tuple or of a list. -/
def sequence? (i : Item) : Render (Option (List Item)) := do
  match i with
  | .cell place =>
    match ← cellAt place with
    | .list items => return some items.toList
    | _ => return none
  | i => return i.tuple?

/-- The entries of a map. -/
def entries? (i : Item) : Render (Option (List (Item × Item))) := do
  match i with
  | .cell place =>
    match ← cellAt place with
    | .map entries => return some entries
    | _ => return none
  | _ => return none

end SecurityScan.Template.Item
