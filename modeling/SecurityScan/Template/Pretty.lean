import SecurityScan.Template.Compare

/-!
# Items over several lines

The literal form of an item, the entries of its maps in order. What does not fit on a line has a
line for each of its members.
-/

namespace SecurityScan.Template.Item

open Render

namespace Pretty

/-- How many characters a line has. -/
def lineWidth : Nat := 80

/-! ## One line -/

/-- Whether an item comes before another one. Items that have no order are in that of their
kinds. -/
def comesBefore (a b : Item) : Render Bool := do
  try before a b
  catch f =>
    match f with
    | .wrongKind _ => return decide ((← a.kindName) < (← b.kindName))
    | f => throw f

/-- The entries of a map in the order of their keys. -/
def entriesInOrder (entries : List (Item × Item)) : Render (List (Item × Item)) :=
  Sorting.sorted (fun a b => comesBefore a.1 b.1) entries

def again (kind : String) : String := "<Recursion on " ++ kind ++ ">"

/-- The literal form on one line; `around` are the places of the cells that it stands in. -/
def flat (around : List Nat) (fuel : Nat) (i : Item) : Render String := do
  match fuel with
  | 0 => throw .tooDeep
  | fuel + 1 =>
    match i with
    | .tuple items => return tupleText (← items.mapM (flat around fuel))
    | .cell place =>
      let inside := place :: around
      match ← cellAt place with
      | .list items =>
        if around.contains place then return again "list"
        else return "[" ++ commaSeparated (← items.toList.mapM (flat inside fuel)) ++ "]"
      | .map entries =>
        if around.contains place then return again "dict"
        else
          let texts ← (← entriesInOrder entries).mapM fun (k, v) => do
            return entryText (← flat inside fuel k, ← flat inside fuel v)
          return "\x7b" ++ commaSeparated texts ++ "\x7d"
      | _ => i.literal
    | i => i.literal

/-! ## Long texts -/

/-- Parts put together while they are no wider than `width`, of which the last one has to leave
`room` free. -/
def gathered {α : Type} (text : List α → String) (width room : Int) (current : List α) :
    List (List α) → List String
  | [] => if current.isEmpty then [] else [text current]
  | part :: more =>
    let width := if more.isEmpty then width - room else width
    let both := current ++ part
    if width < (text both).length then
      (if current.isEmpty then [] else [text current]) ++ gathered text width room part more
    else gathered text width room both more

/-- The words of a line, each with the blanks after it; the first one may be blanks only. -/
def wordParts (cs : List Char) : List (List Char) :=
  cs.splitBy fun a b => !(Text.isBlank a && !Text.isBlank b)

/-- The literals that a text is divided into. -/
def textPieces (width room : Int) : List (List Char) → List String
  | [] => []
  | line :: more =>
    let room' := if more.isEmpty then room else 0
    let literal (cs : List Char) := Text.quoted (String.ofList cs)
    let all := literal line
    (if all.length ≤ width - room' then [all] else gathered literal width room' [] (wordParts line))
      ++ textPieces width room more

def inFours {α : Type} : Nat → List α → List (List α)
  | 0, _ | _, [] => []
  | fuel + 1, xs => xs.take 4 :: inFours fuel (xs.drop 4)

/-- The literals that bytes are divided into. -/
def bytePieces (width room : Int) (bs : Text.Utf8.Bytes) : List String :=
  gathered (fun bs => Value.literal (.bytes bs)) width (if bs.length % 4 == 0 then 0 else room) []
    (inFours bs.length bs)

def newline (indent : Nat) : String := "\n" ++ String.ofList (List.replicate indent ' ')

/-- Pieces below one another, in brackets where they do not stand inside of anything. -/
def stacked (isTop : Bool) (indent : Nat) (pieces : List String) : String :=
  let all := (newline indent).intercalate pieces
  if isTop then "(" ++ all ++ ")" else all

/-! ## Members -/

/-- What stands where: after `indent` characters, with `allowance` characters behind it. -/
structure Spot where
  around : List Nat
  indent : Nat
  allowance : Nat
  isTop : Bool

/-- Members, each one on a line of its own, with what closes them. -/
def below (one : Spot → Item → Render String) (s : Spot) (closer : String) :
    List Item → Render String
  | [] => return closer
  | [i] => do
    return (← one { s with indent := s.indent + 1, allowance := s.allowance + closer.length } i) ++
      closer
  | i :: more => do
    return (← one { s with indent := s.indent + 1, allowance := 1 } i) ++ "," ++
      newline (s.indent + 1) ++ (← below one s closer more)

/-- Entries, each one on a line of its own, with the brace that closes them. -/
def entriesBelow (one : Spot → Item → Render String) (s : Spot) (fuel : Nat) :
    List (Item × Item) → Render String
  | [] => return "\x7d"
  | (k, v) :: more => do
    let key ← flat s.around fuel k
    let allowance := if more.isEmpty then s.allowance + 1 else 1
    let indent := s.indent + 1 + key.length + 2
    let text := entryText (key, ← one { s with indent := indent, allowance := allowance } v)
    if more.isEmpty then return text ++ "\x7d"
    else return text ++ "," ++ newline (s.indent + 1) ++ (← entriesBelow one s fuel more)

/-- The form of an item at a spot. -/
def formAt (fuel : Nat) (s : Spot) (i : Item) : Render String := do
  match fuel with
  | 0 => throw .tooDeep
  | fuel + 1 =>
    let line ← flat s.around maxHeight i
    if s.indent + s.allowance + line.length ≤ lineWidth then return line
    else
      let inside (place : Nat) : Spot := { s with around := place :: s.around, isTop := false }
      let one := formAt fuel
      let shift : Nat := if s.isTop then 1 else 0
      let width : Int := lineWidth - (s.indent + shift)
      let room : Int := s.allowance + shift
      match i with
      | .tuple items =>
        return "(" ++
          (← below one { s with isTop := false } (if items.length == 1 then ",)" else ")") items)
      | .text written =>
        match textPieces width room (Text.fullLines written.toList) with
        | [] | [_] => return line
        | pieces => return stacked s.isTop (s.indent + shift) pieces
      | .value (.bytes bs) =>
        if bs.length ≤ 4 then return line
        else return stacked s.isTop (s.indent + shift) (bytePieces width room bs)
      | .cell place =>
        if s.around.contains place then return line
        else
          match ← cellAt place with
          | .list items => return "[" ++ (← below one (inside place) "]" items.toList)
          | .map entries =>
            return "\x7b" ++
              (← entriesBelow one (inside place) maxHeight (← entriesInOrder entries))
          | .set members =>
            if members.isEmpty then return line
            else
              let ordered ← Sorting.sorted comesBefore members
              return "\x7b" ++ (← below one (inside place) "\x7d" ordered)
          | _ => return line
      | _ => return line

end Pretty

/-- The literal form over as many lines as it takes. -/
def pretty (i : Item) : Render String := Pretty.formAt maxHeight ⟨[], 0, 0, true⟩ i

end SecurityScan.Template.Item
