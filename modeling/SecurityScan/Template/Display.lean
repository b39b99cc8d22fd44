import SecurityScan.Html.Escape
import SecurityScan.Template.Members
import SecurityScan.Value.Display

/-!
# Items as text

The literal form of an item, in which texts stand between quotes, and its plain form, in which a
text stands for itself. A collection inside itself is shown as an ellipsis.
-/

namespace SecurityScan.Template.Item

open Render

/-- How deep items may stand in one another where they are shown. -/
def maxHeight : Nat := 300

/-- A part of a complex number. -/
def partText (x : Double) : String :=
  let s := x.text
  if Text.endsWith s ".0" then String.ofList (s.toList.dropLast.dropLast) else s

def complexText (re im : Double) : String :=
  let sign := if im.isNegative then "" else "+"
  if re.isZero && !re.isNegative then partText im ++ "j"
  else "(" ++ partText re ++ sign ++ partText im ++ "j)"

def rangeText (start stop step : Int) : String :=
  let last := if step == 1 then [] else [toString step]
  "range(" ++ commaSeparated ([toString start, toString stop] ++ last) ++ ")"

def tupleText : List String → String
  | [s] => "(" ++ s ++ ",)"
  | texts => "(" ++ commaSeparated texts ++ ")"

def entryText (e : String × String) : String := e.1 ++ ": " ++ e.2

/-- The literal form; `around` are the places of the cells that it stands in. -/
def literalIn (around : List Nat) (fuel : Nat) (i : Item) : Render String := do
  match fuel with
  | 0 => throw .tooDeep
  | fuel + 1 =>
    let all (around : List Nat) (items : List Item) : Render (List String) :=
      items.mapM (literalIn around fuel)
    match i with
    | .missing => return "missing"
    | .undefined => return "Undefined"
    | .null => return "None"
    | .bool b => return if b then "True" else "False"
    | .int n => ofResult ((Value.int n).textBy Value.literal)
    | .float x => return x.text
    | .complex re im => return complexText re im
    | .text s => return Text.quoted s
    | .markup s => return "Markup(" ++ Text.quoted s ++ ")"
    | .value v => return v.literal
    | .tuple items => return tupleText (← all around items)
    | .group key members => return tupleText (← all around [key, members])
    | .range start stop step => return rangeText start stop step
    | .kind name => return "<class '" ++ name ++ "'>"
    | .function name => return "<function " ++ name ++ ">"
    | .method (.kind k) name => return Kind.operationText k name
    | .method _ name => return "<method " ++ name ++ ">"
    | .shown s => return s
    | .cell place =>
      let inside := place :: around
      match ← cellAt place with
      | .list items =>
        if around.contains place then return Value.ellipsis false
        else return "[" ++ commaSeparated (← all inside items.toList) ++ "]"
      | .map entries =>
        if around.contains place then return Value.ellipsis true
        else
          let texts ← entries.mapM fun e => do
            return entryText (← literalIn inside fuel e.1, ← literalIn inside fuel e.2)
          return "\x7b" ++ commaSeparated texts ++ "\x7d"
      | .set [] => return "set()"
      | .set members => return "\x7b" ++ commaSeparated (← all inside members) ++ "\x7d"
      | .view map view =>
        if around.contains place then return "..."
        else
          let texts ← all inside (viewed view (← mapAt map))
          return view.kind ++ "([" ++ commaSeparated texts ++ "])"
      | .space members =>
        let texts ← members.mapM fun (name, m) => do
          return entryText (Text.quoted name, ← literalIn inside fuel m)
        return "<Namespace \x7b" ++ commaSeparated texts ++ "\x7d>"
      | .loop l =>
        let n ← loopLength place l
        return "<LoopContext " ++ toString (l.place + 1) ++ "/" ++ toString n ++ ">"
      | .routine r .. =>
        return "<Macro " ++ ((r.name.map Text.quoted).getD "anonymous") ++ ">"
      | .self _ => return "<TemplateReference None>"
      | c => return "<" ++ c.kind ++ " object>"

def literal (i : Item) : Render String := literalIn [] maxHeight i

/-- The plain form. -/
def display (i : Item) : Render String :=
  match i with
  | .text s | .markup s => pure s
  | .undefined => pure ""
  | .value v => pure v.display
  | i => i.literal

/-- An item as markup. -/
def escaped (i : Item) : Render String :=
  match i with
  | .markup s => pure s
  | i => do return Html.escape (← i.display)

end SecurityScan.Template.Item
