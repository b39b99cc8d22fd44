import SecurityScan.Template.Field

/-!
# Operations of collections

What lists, tuples, ranges and maps can be asked to do. A list or a map that is changed is changed
for all who know it.
-/

namespace SecurityScan.Template.Method

open Render

def first (given : List Item) : Item := given.headD .undefined

/-- What an operation comes to that only changes something. -/
def done : Item := .null

/-! ## Sequences -/

/-- The place of the first member that is equal to an item, among those from `start` to `stop`. -/
def indexOf (items : List Item) (i : Item) (start stop : Option Item) : Render (Option Nat) := do
  let place (n : Int) : Nat := (if n < 0 then max 0 (n + items.length) else n).toNat
  let start ← match start with
    | some i => place <$> i.whole
    | none => pure 0
  let stop ← match stop with
    | some i => place <$> i.whole
    | none => pure items.length
  let rec look (place : Nat) : List Item → Render (Option Nat)
    | [] => return none
    | x :: xs => do
      if start ≤ place && place < stop then
        if ← x.same i then return some place
      look (place + 1) xs
  look 0 items

def countOf (items : List Item) (i : Item) : Render Nat :=
  items.foldlM (fun n x => do return if ← x.same i then n + 1 else n) 0

/-- The place of a member that there has to be, counted from the end where it is negative. -/
def memberPlace (items : Array Item) (i : Item) : Render Nat := do
  let n ← i.indexWhole
  let at' := if n < 0 then n + items.size else n
  if 0 ≤ at' && at' < items.size then return at'.toNat
  else throw (.badIndex "list index out of range")

/-- What a tuple comes to when it is asked for an operation. -/
def ofTuple (items : List Item) (name : String) (g : Given) : Render Item := do
  match name with
  | "count" => return .int (← countOf items (first (← g.inOrder 1 1)))
  | "index" =>
    let given ← g.inOrder 1 3
    match ← indexOf items (first given) given[1]? given[2]? with
    | some n => return .int n
    | none => throw (.badValue "tuple.index(x): x not in tuple")
  | _ => problem .unsupported

def ofRange (items : List Item) (name : String) (g : Given) : Render Item := do
  let i := first (← g.inOrder 1 1)
  match name with
  | "count" => return .int (← countOf items i)
  | "index" =>
    match ← indexOf items i none none with
    | some n => return .int n
    | none => throw (.badValue ((← i.literal) ++ " is not in range"))
  | _ => problem .unsupported

/-- The list with the items in the order of their keys. -/
def sortList (items : List Item) (g : Given) : Render (List Item) := do
  if !g.positional.isEmpty then wrongKind "sort() takes no positional arguments"
  let b ← g.bind [] ["key", "reverse"]
  let back ← match b.getD "reverse" (.bool false) with
    | .null => wrongKind "the item cannot be interpreted as an integer"
    | i => do pure ((← i.whole) != 0)
  let keyed ← match b.getD "key" .null with
    | .null => pure (items.map fun i => (i, i))
    | f => items.mapM fun i => do return (← call f ⟨[i], []⟩, i)
  return (← Item.sorted (·.1) back keyed).map (·.2)

/-- What a list comes to when it is asked for an operation. -/
def ofList (place : Nat) (items : Array Item) (name : String) (g : Given) : Render Item := do
  let become (items : Array Item) : Render Unit := setCell place (.list items)
  match name with
  | "append" =>
    become (items.push (first (← g.inOrder 1 1)))
    return done
  | "extend" =>
    let more ← (first (← g.inOrder 1 1)).members
    become (items ++ more.toArray)
    return done
  | "insert" =>
    let given ← g.inOrder 2 2
    let n ← (first given).indexWhole
    let at' := (min (items.size : Int) (if n < 0 then max 0 (n + items.size) else n)).toNat
    let (before, after) := items.toList.splitAt at'
    become (before ++ (given[1]?.getD .undefined) :: after).toArray
    return done
  | "remove" =>
    match ← indexOf items.toList (first (← g.inOrder 1 1)) none none with
    | some n =>
      become (items.toList.eraseIdx n).toArray
      return done
    | none => throw (.badValue "list.remove(x): x not in list")
  | "pop" =>
    let given ← g.inOrder 0 1
    let n ← match given with
      | [i] => i.indexWhole
      | _ => pure (-1)
    if items.isEmpty then throw (.badIndex "pop from empty list")
    let at' := if n < 0 then n + items.size else n
    match if at' < 0 then none else items[at'.toNat]? with
    | some i =>
      become (items.toList.eraseIdx at'.toNat).toArray
      return i
    | none => throw (.badIndex "pop index out of range")
  | "clear" =>
    let _ ← g.inOrder 0 0
    become #[]
    return done
  | "reverse" =>
    let _ ← g.inOrder 0 0
    become items.reverse
    return done
  | "copy" =>
    let _ ← g.inOrder 0 0
    newItem (.list items)
  | "sort" =>
    become (← sortList items.toList g).toArray
    return done
  | "__setitem__" =>
    let given ← g.inOrder 2 2
    let at' ← memberPlace items (first given)
    become (items.setIfInBounds at' (given[1]?.getD .undefined))
    return done
  | "__delitem__" =>
    let at' ← memberPlace items (first (← g.inOrder 1 1))
    become (items.toList.eraseIdx at').toArray
    return done
  | "__iadd__" =>
    let more ← (first (← g.inOrder 1 1)).members
    become (items ++ more.toArray)
    return .cell place
  | "__imul__" =>
    match ← (← (Item.cell place).times? (← (first (← g.inOrder 1 1)).indexWhole)).mapM
        Item.members with
    | some items =>
      become items.toArray
      return .cell place
    | none => wrongKind "the item cannot be repeated"
  | "count" => return .int (← countOf items.toList (first (← g.inOrder 1 1)))
  | "index" =>
    let given ← g.inOrder 1 3
    match ← indexOf items.toList (first given) given[1]? given[2]? with
    | some n => return .int n
    | none => throw (.badValue ((← (first given).literal) ++ " is not in list"))
  | _ => problem .unsupported

/-! ## Maps -/

/-- Pairs put into a map, the first of them being the one numbered `place`. -/
def insertPairs (place : Nat) (entries : List (Item × Item)) :
    List Item → Render (List (Item × Item))
  | [] => return entries
  | i :: is => do
    let parts ← match i with
      | .null | .bool _ | .int _ | .float _ =>
        wrongKind ("cannot convert dictionary update sequence element #" ++ toString place ++
          " to a sequence")
      | i => i.members
    match parts with
    | [k, v] =>
      k.needKey
      insertPairs (place + 1) (← Item.inserted entries k v) is
    | parts => throw (.badValue ("dictionary update sequence element #" ++ toString place ++
        " has length " ++ toString parts.length ++ "; 2 is required"))

/-- A map with what a call gives put into it: entries of another map, or pairs, and names. -/
def updated (entries : List (Item × Item)) (g : Given) : Render (List (Item × Item)) := do
  if 1 < g.positional.length then wrongKind "expected at most 1 argument"
  let entries ← match g.positional with
    | [] => pure entries
    | .undefined :: _ => noValue
    | i :: _ => do
      match ← i.entries? with
      | some more => Item.insertedAll entries more
      | none => insertPairs 0 entries (← i.members)
  Item.insertedAll entries (g.named.map fun (k, i) => (.text k, i))

/-- A map in which all keys have one value. -/
def fromKeys (g : Given) : Render Item := do
  let given ← g.inOrder 1 2
  let value := given[1]?.getD .null
  newMap (← Item.insertedAll [] ((← (first given).members).map fun k => (k, value)))

/-- What a map comes to when it is asked for an operation. -/
def ofMap (place : Nat) (entries : List (Item × Item)) (name : String) (g : Given) :
    Render Item := do
  let become (entries : List (Item × Item)) : Render Unit := setCell place (.map entries)
  match name with
  | "items" | "keys" | "values" =>
    let _ ← g.inOrder 0 0
    let view : View := if name == "items" then .items else if name == "keys" then .keys else .values
    newItem (.view place view)
  | "get" =>
    let given ← g.inOrder 1 2
    return (← Item.underKey? entries (first given)).getD (given[1]?.getD .null)
  | "pop" =>
    let given ← g.inOrder 1 2
    match ← Item.underKey? entries (first given) with
    | some i =>
      become (← Item.erased entries (first given))
      return i
    | none =>
      match given[1]? with
      | some i => return i
      | none => problem .missingKey
  | "popitem" =>
    let _ ← g.inOrder 0 0
    match entries.getLast? with
    | some (k, i) =>
      become entries.dropLast
      return Item.pair k i
    | none => problem .missingKey
  | "setdefault" =>
    let given ← g.inOrder 1 2
    match ← Item.underKey? entries (first given) with
    | some i => return i
    | none =>
      let i := given[1]?.getD .null
      become (entries ++ [(first given, i)])
      return i
  | "update" =>
    become (← updated entries g)
    return done
  | "clear" =>
    let _ ← g.inOrder 0 0
    become []
    return done
  | "copy" =>
    let _ ← g.inOrder 0 0
    newMap entries
  | "fromkeys" => fromKeys g
  | "__setitem__" =>
    let given ← g.inOrder 2 2
    (first given).needKey
    become (← Item.inserted entries (first given) (given[1]?.getD .undefined))
    return done
  | "__delitem__" =>
    let key := first (← g.inOrder 1 1)
    match ← Item.underKey? entries key with
    | some _ =>
      become (← Item.erased entries key)
      return done
    | none => problem .missingKey
  | "__or__" | "__ior__" =>
    match ← (first (← g.inOrder 1 1)).entries? with
    | some more =>
      let all ← Item.insertedAll entries more
      if name == "__or__" then newMap all
      else
        become all
        return .cell place
    | none => wrongKind "the item is no map"
  | _ => problem .unsupported

end SecurityScan.Template.Method
