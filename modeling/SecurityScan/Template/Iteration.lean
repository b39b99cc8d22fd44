import SecurityScan.Template.Filter

/-!
# Going through items

The next item of what goes through items. Filters that wait begin when their first item is asked
for, and they ask for no more items than they need.
-/

namespace SecurityScan.Template

open Render

/-- How the items of a loop that pass its test are found; rendering knows. -/
abbrev Passing := Nat → Target Var → Term → Nat → Render (Option Item)

namespace Iteration

def become (place : Nat) (it : Iterator) : Render Unit := setCell place (.iterator it)

/-- Nothing comes any more. -/
def ended (place : Nat) : Render (Option Item) := do
  become place (.through [])
  return none

/-- The next item that a choice lets pass, at most `fuel` items being looked at. -/
def chosen (source : Nat) (how : Choice) : Nat → Render (Option Item)
  | 0 => throw .outOfMemory
  | fuel + 1 => do
    match ← next source with
    | none => return none
    | some i =>
      let key ← i.lookInto how.steps none
      let found ← match how.test with
        | some (name, given) => Filter.passesNamed name key given
        | none => key.holds
      if found == how.keeps then return some i else chosen source how fuel

/-- The next item with a key that has not come before, and all keys that have. -/
def fresh (source : Nat) (isCased : Bool) (steps seen : List Item) :
    Nat → Render (Option (Item × List Item))
  | 0 => throw .outOfMemory
  | fuel + 1 => do
    match ← next source with
    | none => return none
    | some i =>
      let key ← Filter.keyOf steps isCased i
      key.needKey
      if ← Item.anyMember (Item.same key) seen then fresh source isCased steps seen fuel
      else return some (i, key :: seen)

/-- The next row, and the start of the one after it, reversed; `goesOn` until the end. -/
def row (source : Nat) (length fill : Item) (started : List Item) :
    Nat → Render (Option (List Item × List Item × Bool))
  | 0 => throw .outOfMemory
  | fuel + 1 => do
    match ← next source with
    | some i =>
      if ← Item.same (.int started.length) length then
        return some (started.reverse, [i], true)
      else row source length fill (i :: started) fuel
    | none =>
      if started.isEmpty then return none
      else
        let size : Item := .int started.length
        let missing ← match fill with
          | .null => pure 0
          | _ => do
            if ← Item.ordered .lt size length then (← Operator.sub.apply length size).whole
            else pure 0
        return some (started.reverse ++ List.replicate missing.toNat fill, [], false)

/-- What is done to an item. -/
def changed (how : Change) (i : Item) : Render Item :=
  match how with
  | .look steps default => i.lookInto steps default
  | .filter name given => Filter.applyNamed name i given

end Iteration

open Iteration

/-- The next item of a loop, which becomes its current one. -/
def LoopState.advance (place : Nat) (l : LoopState) : Render (Option Item) := do
  let found ← match l.after with
    | .missing => next l.source
    | i => pure (some i)
  match found with
  | none => return none
  | some i =>
    /- Asking for the item may have changed the state. -/
    let l ← match ← cellAt place with
      | .loop l => pure l
      | _ => pure l
    setCell place (.loop { l with
      after := .missing, place := l.place + 1, before := l.current, current := i })
    return some i

/-- The next item of an iterator. -/
def advance (passing : Passing) (place : Nat) : Render (Option Item) := do
  match ← cellAt place with
  | .loop l =>
    match ← l.advance place with
    | some i => return some (.tuple [i, .cell place])
    | none => return none
  | .iterator it =>
    match it with
    | .through [] => return none
    | .through (i :: rest) =>
      become place (.through rest)
      return some i
    | .ofList list index =>
      match ← cellAt list with
      | .list items =>
        match items[index]? with
        | some i =>
          become place (.ofList list (index + 1))
          return some i
        | none => ended place
      | _ => ended place
    | .ofListBack list index =>
      match index, ← cellAt list with
      | n + 1, .list items =>
        match items[n]? with
        | some i =>
          become place (.ofListBack list n)
          return some i
        | none => ended place
      | _, _ => ended place
    | .ofMap map view size index back =>
      let entries ← Item.mapAt map
      if entries.length != size then problem .changedMeanwhile
      else if size ≤ index then ended place
      else
        let n := if back then size - 1 - index else index
        become place (.ofMap map view size (index + 1) back)
        return (entries[n]?.toList.flatMap fun e => Item.viewed view [e]).head?
    | .ofRange 0 _ _ => return none
    | .ofRange (n + 1) i step =>
      become place (.ofRange n (i + step) step)
      return some (.int i)
    | .waiting filter base given =>
      let it ← Filter.begun filter base given
      become place it
      next place
    | .changing source how =>
      match ← next source with
      | some i => some <$> changed how i
      | none => return none
    | .choosing source how => chosen source how maxItems
    | .distinct source ignoresCase steps seen =>
      match ← fresh source (!ignoresCase) (steps.getD []) seen maxItems with
      | some (i, seen) =>
        become place (.distinct source ignoresCase steps seen)
        return some i
      | none => ended place
    | .rows source length fill started goesOn =>
      if !goesOn then ended place
      else
        match ← row source length fill started maxItems with
        | some (items, started, goesOn) =>
          become place (.rows source length fill started goesOn)
          some <$> newList items
        | none => ended place
    | .passing source target condition frame => passing source target condition frame
  | _ => return none

end SecurityScan.Template
