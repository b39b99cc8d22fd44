import SecurityScan.Json.Writer
import SecurityScan.Template.Compare

/-!
# Items as JSON

The JSON form of an item, the entries of its maps in the order of their keys. Characters that mean
something in a page are written by their codes.
-/

namespace SecurityScan.Template.Item

open Render

namespace Json

def wholeText (n : Int) : Render String := ofResult ((Value.int n).textBy Value.literal)

/-- The name under which a key is written. -/
def keyText (key : Item) : Render String := do
  match key with
  | .text s | .markup s => return s
  | .null => return "null"
  | .bool b => return if b then "true" else "false"
  | .int n => wholeText n
  | .float x => return String.ofList (SecurityScan.Json.doubleText x)
  | _ => wrongKind "keys must be str, int, float, bool or None"

def textOf (s : String) : String := String.ofList (SecurityScan.Json.stringText true s)

/-- What opens a line at a depth; `indent` is the start of a line, none where all is on one. -/
def lineStart (indent : Option String) (depth : Nat) : String :=
  match indent with
  | none => ""
  | some s => "\n" ++ String.join (List.replicate depth s)

/-- The texts of members, between two brackets. -/
def bracketed (indent : Option String) (depth : Nat) (opener closer : String)
    (texts : List String) : String :=
  if texts.isEmpty then opener ++ closer
  else
    let comma := if indent.isSome then "," else ", "
    opener ++ lineStart indent (depth + 1) ++
      (comma ++ lineStart indent (depth + 1)).intercalate texts ++ lineStart indent depth ++ closer

/-- The form of an item at a depth; `around` are the places of the cells that it stands in. -/
def form (indent : Option String) (around : List Nat) (depth : Nat) (fuel : Nat) (i : Item) :
    Render String := do
  match fuel with
  | 0 => throw .tooDeep
  | fuel + 1 =>
    let array (around : List Nat) (items : List Item) : Render String := do
      return bracketed indent depth "[" "]" (← items.mapM (form indent around (depth + 1) fuel))
    match i with
    | .null => return "null"
    | .bool b => return if b then "true" else "false"
    | .int n => wholeText n
    | .float x => return String.ofList (SecurityScan.Json.doubleText x)
    | .text s | .markup s => return textOf s
    | .tuple items => array around items
    | .group key members => array around [key, members]
    | .cell place =>
      match ← cellAt place with
      | .list items =>
        if around.contains place then throw (.badValue "Circular reference detected")
        array (place :: around) items.toList
      | .map entries =>
        if around.contains place then throw (.badValue "Circular reference detected")
        let texts ← (← sorted (·.1) false entries).mapM fun (k, v) => do
          return textOf (← keyText k) ++ ": " ++
            (← form indent (place :: around) (depth + 1) fuel v)
        return bracketed indent depth "\x7b" "\x7d" texts
      | c => wrongKind ("Object of type " ++ c.kind ++ " is not JSON serializable")
    | i => wrongKind ("Object of type " ++ (← i.kindName) ++ " is not JSON serializable")

/-- A character that means nothing in a page. -/
def inPage : Char → List Char
  | '<' => "\\u003c".toList
  | '>' => "\\u003e".toList
  | '&' => "\\u0026".toList
  | '\'' => "\\u0027".toList
  | c => [c]

end Json

/-- The JSON form of an item that can stand in a page. -/
def json (i : Item) (indent : Option String) : Render String := do
  let s ← Json.form indent [] 0 maxHeight i
  return String.ofList (s.toList.flatMap Json.inPage)

end SecurityScan.Template.Item
