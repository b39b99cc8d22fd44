import SecurityScan.Template.Display
import SecurityScan.Template.Sorting
import SecurityScan.Text.Search

/-!
# Comparing items

Equality, order, and whether an item is a member of another one.
-/

namespace SecurityScan

/-! ## Numbers -/

namespace Value.Numeric

def lt : Numeric → Numeric → Bool
  | .whole i, .whole j => i < j
  | .whole i, .real x => x.gtInt i
  | .real x, .whole i => x.ltInt i
  | .real x, .real y => x.lt y

def isZero : Numeric → Bool
  | .whole i => i == 0
  | .real x => x.isZero

/-- A number as a double. -/
def toDouble : Numeric → Except Fault Double
  | .real x => .ok x
  | .whole i =>
    match Double.ofInt? i with
    | some x => .ok x
    | none => .error (.overflow "int too large to convert to float")

end Value.Numeric

namespace Template.Item

open Render

/-! ## Equality -/

/-- Whether two numbers are equal, complex ones included; none where one is no number. -/
def sameNumbers? (a b : Item) : Option Bool :=
  match a, b with
  | .complex re im, .complex re' im' => some (re.eq re' && im.eq im')
  | .complex re im, b =>
    b.numeric?.map fun n => im.isZero && Value.Numeric.same (.real re) n
  | a, .complex re im =>
    a.numeric?.map fun n => im.isZero && Value.Numeric.same n (.real re)
  | a, b => do return (← a.numeric?).same (← b.numeric?)

/-- The members of a set, or of what is seen of a map if that is like a set. -/
def setMembers? (i : Item) : Render (Option (List Item)) := do
  match i with
  | .cell place =>
    match ← cellAt place with
    | .set members => return some members
    | .view _ .values => return none
    | .view map view => return some (viewed view (← mapAt map))
    | _ => return none
  | _ => return none

/-- Whether a key holds for all pairs of two lists of one length. -/
def allPairs (p : Item → Item → Render Bool) : List Item → List Item → Render Bool
  | [], [] => return true
  | a :: as, b :: bs => do if ← p a b then allPairs p as bs else return false
  | _, _ => return false

/-- Whether a member of a list is as asked for. -/
def anyMember (p : Item → Render Bool) : List Item → Render Bool
  | [] => return false
  | i :: is => do if ← p i then return true else anyMember p is

def allMembers (p : Item → Render Bool) : List Item → Render Bool
  | [] => return true
  | i :: is => do if ← p i then allMembers p is else return false

/-- Whether two items are equal, `fuel` limiting how deep they are looked into. -/
def sameWithin (fuel : Nat) (a b : Item) : Render Bool := do
  match fuel with
  | 0 => throw .tooDeep
  | fuel + 1 =>
    let same := sameWithin fuel
    match a, b with
    | .missing, .missing | .undefined, .undefined | .null, .null => return true
    | .kind s, .kind t | .function s, .function t | .shown s, .shown t => return s == t
    | .value v, .value w => return v.same w
    | .range s t u, .range s' t' u' =>
      return rangeItems s t u |>.filterMap whole? |> (· == (rangeItems s' t' u').filterMap whole?)
    | .method (.cell p) s, .method (.cell q) t => return p == q && s == t
    | .method o s, .method o' t => if s == t then same o o' else return false
    | .cell p, .cell q =>
      if p == q then return true
      else
        match ← cellAt p, ← cellAt q with
        | .list xs, .list ys => allPairs same xs.toList ys.toList
        | .map es, .map fs =>
          if es.length != fs.length then return false
          else
            let found (e : Item × Item) (f : Item × Item) : Render Bool := do
              if ← same e.1 f.1 then same e.2 f.2 else return false
            es.allM fun e => fs.anyM (found e)
        | _, _ =>
          match ← a.setMembers?, ← b.setMembers? with
          | some xs, some ys =>
            if xs.length != ys.length then return false
            else allMembers (fun x => anyMember (same x) ys) xs
          | _, _ => return false
    | a, b =>
      match a.text?, b.text?, a.tuple?, b.tuple? with
      | some s, some t, _, _ => return s == t
      | _, _, some xs, some ys => allPairs same xs ys
      | _, _, _, _ => return (sameNumbers? a b).getD false

def same (a b : Item) : Render Bool := sameWithin maxHeight a b

/-- Whether two items are one and the same, as far as that can be told. -/
def isSame (a b : Item) : Render Bool := do
  match a, b with
  | .cell p, .cell q => return p == q
  | .cell _, _ | _, .cell _ => return false
  | a, b => if (← a.kindName) == (← b.kindName) then same a b else return false

/-! ## Keys -/

/-- Whether an item can be a key: nothing that may change is one. -/
def isKey (i : Item) : Render Bool := isKeyWithin maxHeight i
where
  isKeyWithin (fuel : Nat) (i : Item) : Render Bool := do
    match fuel, i with
    | 0, _ => throw .tooDeep
    | fuel + 1, .tuple items => allMembers (isKeyWithin fuel) items
    | fuel + 1, .group key members => allMembers (isKeyWithin fuel) [key, members]
    | _, .cell place =>
      match ← cellAt place with
      | .list _ | .map _ | .set _ | .view _ .keys | .view _ .items => return false
      | _ => return true
    | _, .method (.cell place) _ =>
      match ← cellAt place with
      | .set _ => return true
      | _ => return true
    | _, .value v => return v.isKey
    | _, _ => return true

/-- Refuses an item that can be no key. -/
def needKey (i : Item) : Render Unit := do
  if !(← i.isKey) then wrongKind "the item cannot be a key"

/-- The entry under a key. -/
def entry? (entries : List (Item × Item)) (key : Item) : Render (Option (Item × Item)) := do
  match entries with
  | [] => return none
  | e :: es => if ← same e.1 key then return some e else entry? es key

/-- The value under a key, which has to be one. -/
def underKey? (entries : List (Item × Item)) (key : Item) : Render (Option Item) := do
  needKey key
  return (← entry? entries key).map (·.2)

/-- A new key goes to the end; a known one keeps its place and its first spelling. -/
def inserted (entries : List (Item × Item)) (key i : Item) : Render (List (Item × Item)) := do
  match entries with
  | [] => return [(key, i)]
  | e :: es =>
    if ← same e.1 key then return (e.1, i) :: es else return e :: (← inserted es key i)

def insertedAll (entries more : List (Item × Item)) : Render (List (Item × Item)) :=
  more.foldlM (fun es e => do
    needKey e.1
    inserted es e.1 e.2) entries

def erased (entries : List (Item × Item)) (key : Item) : Render (List (Item × Item)) := do
  match entries with
  | [] => return []
  | e :: es => if ← same e.1 key then return es else return e :: (← erased es key)

/-- Items without those that are equal to one before them. -/
def distinctItems (items : List Item) : Render (List Item) := do
  let found ← items.foldlM (fun found i => do
    if ← anyMember (same i) found then return found else return i :: found) []
  return found.reverse

/-! ## Order -/

/-- The four orders. -/
inductive Order
  | lt
  | le
  | gt
  | ge
deriving DecidableEq

def Order.holds (o : Order) (c : Ordering) : Bool :=
  match o with
  | .lt => c == .lt
  | .le => c != .gt
  | .gt => c == .gt
  | .ge => c != .lt

def notOrdered {α : Type} : Render α := wrongKind "the items have no order"

def Order.ofNumbers (o : Order) (a b : Value.Numeric) : Bool :=
  match o with
  | .lt => a.lt b
  | .le => a.lt b || a.same b
  | .gt => b.lt a
  | .ge => b.lt a || a.same b

/-- Whether two dates or times are in order. -/
def Order.ofValues (o : Order) (a b : Value) : Render Bool :=
  match a, b with
  | .date d, .date e => return o.holds (compare d.isoText e.isoText)
  | .datetime s, .datetime t =>
    if s.offset.isSome == t.offset.isSome then return o.holds (compare s.instant t.instant)
    else notOrdered
  | .bytes s, .bytes t => return o.holds (compareOfLessAndEq (s.map (·.toNat)) (t.map (·.toNat)))
  | _, _ => notOrdered

/-- Whether two items are in order. The first members that differ decide on lists. -/
def orderedWithin (fuel : Nat) (o : Order) (a b : Item) : Render Bool := do
  match fuel with
  | 0 => throw .tooDeep
  | fuel + 1 =>
    let rec sequences : List Item → List Item → Render Bool
      | x :: xs, y :: ys => do
        if ← same x y then sequences xs ys else orderedWithin fuel o x y
      | xs, ys => return o.holds (compare xs.length ys.length)
    match a, b with
    | .undefined, _ | _, .undefined => noValue
    | .value v, .value w => o.ofValues v w
    | a, b =>
      match a.text?, b.text?, a.numeric?, b.numeric? with
      | some s, some t, _, _ => return o.holds (compare s t)
      | _, _, some m, some n => return o.ofNumbers m n
      | _, _, _, _ =>
        match a.tuple?, b.tuple? with
        | some xs, some ys => sequences xs ys
        | none, none =>
          match a, b with
          | .cell _, .cell _ =>
            match ← a.sequence?, ← b.sequence? with
            | some xs, some ys => sequences xs ys
            | _, _ =>
              match ← a.setMembers?, ← b.setMembers? with
              | some xs, some ys =>
                let inside (xs ys : List Item) := allMembers (fun x => anyMember (same x) ys) xs
                match o with
                | .lt => if xs.length < ys.length then inside xs ys else return false
                | .le => inside xs ys
                | .gt => if ys.length < xs.length then inside ys xs else return false
                | .ge => inside ys xs
              | _, _ => notOrdered
          | _, _ => notOrdered
        | _, _ => notOrdered

def ordered (o : Order) (a b : Item) : Render Bool := orderedWithin maxHeight o a b

/-- Whether an item comes before another one. -/
def before (a b : Item) : Render Bool := ordered .lt a b

/-- Items in the order of their keys; from the last one on with `back`. -/
def sorted {α : Type} (key : α → Item) (back : Bool) (items : List α) : Render (List α) := do
  let turned (items : List α) : List α := if back then items.reverse else items
  return turned (← Sorting.sorted (fun x y => before (key x) (key y)) (turned items))

/-! ## Membership -/

/-- Whether an item is a member of another one. -/
def isIn (i owner : Item) : Render Bool := do
  match owner with
  | .text s | .markup s =>
    match i.text? with
    | some piece => return Text.occursIn piece.toList s.toList
    | none => wrongKind "'in <string>' requires string as left operand"
  | .value (.bytes bs) =>
    match i with
    | .value (.bytes piece) =>
      return Text.occursIn (piece.map fun b => Char.ofNat b.toNat)
        (bs.map fun b => Char.ofNat b.toNat)
    | i =>
      match i.whole? with
      | some n =>
        if 0 ≤ n && n < 256 then return bs.contains (UInt8.ofNat n.toNat)
        else throw (.badValue "byte must be in range(0, 256)")
      | none => wrongKind "a bytes-like object is required"
  | .range start stop step =>
    match i.whole? with
    | some n =>
      let inside := if 0 < step then start ≤ n && n < stop else stop < n && n ≤ start
      return inside && (n - start) % step == 0
    | none => anyMember (same i) (← owner.members)
  | .cell place =>
    match ← cellAt place with
    | .map entries => return (← underKey? entries i).isSome
    | .set members =>
      needKey i
      anyMember (same i) members
    | .view map .keys => return (← underKey? (← mapAt map) i).isSome
    | .view .. | .list _ => anyMember (same i) (← owner.members)
    | _ =>
      let source ← owner.iterate
      let rec look : Nat → Render Bool
        | 0 => throw .outOfMemory
        | fuel + 1 => do
          match ← next source with
          | some x => if ← same i x then return true else look fuel
          | none => return false
      look maxItems
  | owner => anyMember (same i) (← owner.members)

end Template.Item

end SecurityScan
