import SecurityScan.Number.Whole
import SecurityScan.Text.CharClass
import SecurityScan.Text.Quoted
import SecurityScan.Value.Kind

/-!
# Placeholders

A template is text with placeholders in braces, a doubled brace standing for one of them. A
placeholder names a value and may go on to one of its characters, ask for its quoted form and lay
it out in a width. One that names no value stands for itself.
-/

namespace SecurityScan.Prompt

open Text (digitValue?)
open Text.Quoted (escapeCode)

/-! ## Reading a template -/

/-- A step from a value to a part of it. -/
inductive Step
  | attribute (name : List Char)
  | item (key : List Char)
deriving DecidableEq

structure Placeholder where
  name : List Char
  steps : List Step
  conversion : Option Char
  layout : List Char
  /-- Whether the layout holds placeholders of its own. -/
  nested : Bool
deriving DecidableEq

inductive Piece
  | char (c : Char)
  | placeholder (p : Placeholder)
deriving DecidableEq

/-- What stands before the character that ends a placeholder's name, that character, and the
rest. Inside brackets nothing ends it. -/
def fieldName (inBrackets : Bool) : List Char → Option (List Char × Char × List Char)
  | [] => none
  | c :: cs =>
    if inBrackets then
      (fieldName (c != ']') cs).map fun (name, rest) => (c :: name, rest)
    else if c == '\x7b' then none
    else if c == '\x7d' || c == ':' || c == '!' then some ([], c, cs)
    else (fieldName (c == '[') cs).map fun (name, rest) => (c :: name, rest)

/-- A layout up to the brace that closes its placeholder, and the rest. -/
def layoutText (depth : Nat) : List Char → Option (List Char × List Char)
  | [] => none
  | c :: cs =>
    if c == '\x7b' then (layoutText (depth + 1) cs).map fun (l, rest) => (c :: l, rest)
    else if c == '\x7d' then
      match depth with
      | 0 => some ([], cs)
      | depth + 1 => (layoutText depth cs).map fun (l, rest) => (c :: l, rest)
    else (layoutText depth cs).map fun (l, rest) => (c :: l, rest)

def isStepMark (c : Char) : Bool := c == '.' || c == '['

/-- The steps after a name; each has a name or a key of its own. -/
def steps : Nat → List Char → Option (List Step)
  | _, [] => some []
  | 0, _ => none
  | fuel + 1, c :: cs =>
    if c == '.' then
      let name := cs.takeWhile fun c => !isStepMark c
      if name.isEmpty then none
      else (steps fuel (cs.drop name.length)).map (.attribute name :: ·)
    else if c == '[' then
      let key := cs.takeWhile (· != ']')
      if key.isEmpty || key.length = cs.length then none
      else (steps fuel (cs.drop (key.length + 1))).map (.item key :: ·)
    else none

/-- A number in decimal digits of any script. -/
def number? (cs : List Char) : Option Nat :=
  if cs.isEmpty then none
  else cs.foldl (fun n c => do return (← n) * 10 + (← digitValue? c)) (some 0)

/-- A placeholder of a written name; a number, or nothing, names no value. -/
def ofName? (written : List Char) (conversion : Option Char) (layout : List Char) :
    Option Placeholder := do
  let name := written.takeWhile fun c => !isStepMark c
  if name.isEmpty || (number? name).isSome then none
  let steps ← steps written.length (written.drop name.length)
  return ⟨name, steps, conversion, layout, layout.contains '\x7b'⟩

/-- A placeholder after its opening brace, and the rest. -/
def placeholder? (cs : List Char) : Option (Placeholder × List Char) := do
  let (written, mark, rest) ← fieldName false cs
  if mark == '\x7d' then return (← ofName? written none [], rest)
  else if mark == ':' then
    let (layout, rest) ← layoutText 0 rest
    return (← ofName? written none layout, rest)
  else
    match rest with
    | conversion :: '\x7d' :: rest => return (← ofName? written (some conversion) [], rest)
    | conversion :: ':' :: rest =>
      let (layout, rest) ← layoutText 0 rest
      return (← ofName? written (some conversion) layout, rest)
    | _ => none

/-- The pieces of a template; none when its braces do not pair. -/
def pieces? (cs : List Char) : Option (List Piece) :=
  match cs with
  | [] => some []
  | '\x7b' :: '\x7b' :: rest => (pieces? rest).map (.char '\x7b' :: ·)
  | '\x7d' :: '\x7d' :: rest => (pieces? rest).map (.char '\x7d' :: ·)
  | '\x7d' :: _ => none
  | '\x7b' :: rest =>
    match placeholder? rest with
    | none => none
    | some (p, after) =>
      if after.length < rest.length then (pieces? after).map (.placeholder p :: ·) else none
  | c :: rest => (pieces? rest).map (.char c :: ·)
termination_by cs.length

/-! ## Laying out -/

inductive Alignment
  | left
  | center
  | right
deriving DecidableEq

/-- How a text is laid out: filled up to a width, and cut to a length. -/
structure Layout where
  fill : Char
  alignment : Alignment
  width : Option Nat
  limit : Option Nat

def alignment? : Char → Option Alignment
  | '<' => some .left
  | '^' => some .center
  | '>' => some .right
  | _ => none

/-- No width and no limit is greater. -/
def maxWidth : Nat := 2 ^ 63 - 1

/-- Digits at the start, which may be none, and what follows them; none when the number that they
write is too great. -/
def leadingNumber? (cs : List Char) : Option (Option Nat × List Char) :=
  let ds := cs.takeWhile fun c => (digitValue? c).isSome
  let n := number? ds
  if n.all (· ≤ maxWidth) then some (n, cs.drop ds.length) else none

/-- The fill and the alignment that a layout begins with. -/
def leadingAlignment : List Char → Option Char × Option Alignment × List Char
  | c :: d :: cs =>
    match alignment? d with
    | some a => (some c, some a, cs)
    | none =>
      match alignment? c with
      | some a => (none, some a, d :: cs)
      | none => (none, none, c :: d :: cs)
  | [c] =>
    match alignment? c with
    | some a => (none, some a, [])
    | none => (none, none, [c])
  | [] => (none, none, [])

/-- A layout for texts: fill and alignment, width, `.` and limit, and `s`. -/
def layout? (cs : List Char) : Option Layout := do
  let (fill?, alignment?, cs) := leadingAlignment cs
  let (fill, cs) :=
    match fill?, cs with
    | none, '0' :: cs => ('0', cs)
    | fill?, cs => (fill?.getD ' ', cs)
  let (width, cs) ← leadingNumber? cs
  let (limit, cs) ←
    match cs with
    | '.' :: cs =>
      match ← leadingNumber? cs with
      | (none, _) => none
      | (some n, cs) => some (some n, cs)
    | cs => some (none, cs)
  if cs.isEmpty || cs == ['s'] then return ⟨fill, alignment?.getD .left, width, limit⟩ else none

def Layout.apply (l : Layout) (cs : List Char) : List Char :=
  let cs := match l.limit with
    | some n => cs.take n
    | none => cs
  let room := l.width.getD 0 - cs.length
  let before := match l.alignment with
    | .left => 0
    | .center => room / 2
    | .right => room
  List.replicate before l.fill ++ cs ++ List.replicate (room - before) l.fill

/-! ## Filling -/

/-- Why a template is not filled in. -/
inductive Unfilled
  | malformed
  | tooWide
deriving DecidableEq

abbrev Filling := Except Unfilled

def Filling.ofOption {α : Type} : Option α → Filling α
  | some a => .ok a
  | none => .error .malformed

/-- No text of more characters fits into memory. -/
def widthInMemory : Nat := 2 ^ 36

/-- What a placeholder has come to. -/
inductive Found
  | text (cs : List Char)
  /-- A kind of thing. -/
  | kind (name : String)
  /-- A kind and those that it extends, or some of them. -/
  | kinds (names : List String)
  /-- An operation of a text. -/
  | operation (on : List Char) (name : String)
  /-- An operation that values of a kind have, as such. -/
  | operationOf (kind name : String)
  /-- An operation of a kind itself. -/
  | operationOn (kind name : String)
  | nothing
deriving DecidableEq

namespace Found

def kindDisplay (name : String) : String := "<class '" ++ name ++ "'>"

def display : Found → List Char
  | .text cs => cs
  | .kind name => (kindDisplay name).toList
  | .kinds [name] => ("(" ++ kindDisplay name ++ ",)").toList
  | .kinds names => ("(" ++ ", ".intercalate (names.map kindDisplay) ++ ")").toList
  | .operation _ name => ("<built-in method " ++ name ++ " of str object>").toList
  | .operationOf k name => (Kind.operationText k name).toList
  | .operationOn _ name => ("<built-in method " ++ name ++ " of type object>").toList
  | .nothing => "None".toList

/-- The kind of what was found. -/
def kindName : Found → String
  | .text _ => "str"
  | .kind _ => "type"
  | .kinds _ => "tuple"
  | .operation _ name => Kind.boundKind "str" name
  | .operationOf k name => (Kind.form (Kind.home k name) name).kind
  | .operationOn _ name => Kind.boundKind "type" name
  | .nothing => "NoneType"

def ofDescription (kind : String) : Found :=
  match Kind.description? kind with
  | some s => .text s.toList
  | none => .nothing

def kindAttribute? (kind : String) : String → Option Found
  | "__name__" | "__qualname__" => some (.text kind.toList)
  | "__module__" => some (.text "builtins".toList)
  | "__doc__" => some (ofDescription kind)
  | "__mro__" => some (.kinds (Kind.line kind))
  | "__bases__" => some (.kinds ((Kind.line kind).tail.take 1))
  | "__base__" =>
    match (Kind.line kind).tail with
    | next :: _ => some (.kind next)
    | [] => some .nothing
  | name =>
    if Kind.has kind name then
      if Kind.form (Kind.home kind name) name == .ofKind then some (.operationOn kind name)
      else some (.operationOf kind name)
    else if Kind.has "type" name then some (.operationOn kind name)
    else none

def operationAttribute? (on : List Char) (name : String) : String → Option Found
  | "__name__" => some (.text name.toList)
  | "__qualname__" => some (.text (Kind.boundName "str" name).toList)
  | "__self__" => some (.text on)
  | "__module__" => if Kind.boundKind "str" name == "method-wrapper" then none else some .nothing
  | _ => none

def operationOfAttribute? (kind name : String) : String → Option Found
  | "__name__" => some (.text name.toList)
  | "__qualname__" => some (.text (Kind.home kind name ++ "." ++ name).toList)
  | "__objclass__" => some (.kind (Kind.home kind name))
  | _ => none

def operationOnAttribute? (kind name : String) : String → Option Found
  | "__name__" => some (.text name.toList)
  | "__qualname__" =>
    let owner := if Kind.boundKind "type" name == "method-wrapper" then "type" else kind
    some (.text (owner ++ "." ++ name).toList)
  | "__self__" => some (.kind kind)
  | "__module__" => if Kind.boundKind "type" name == "method-wrapper" then none else some .nothing
  | _ => none

def attribute? (f : Found) (name : List Char) : Option Found :=
  let name := String.ofList name
  if name == "__class__" then some (.kind f.kindName)
  else
    match f with
    | .kind k => kindAttribute? k name
    | .operation on o => operationAttribute? on o name
    | .operationOf k o => operationOfAttribute? k o name
    | .operationOn k o => operationOnAttribute? k o name
    | .text cs =>
      if name == "__doc__" then some (ofDescription "str")
      else if Kind.has "str" name then some (.operation cs name)
      else none
    | f => if name == "__doc__" then some (ofDescription f.kindName) else none

/-- A character of a text, or one of several kinds, by its place. -/
def item? (f : Found) (key : List Char) : Option Found :=
  match f with
  | .text cs => do return .text [← cs[← number? key]?]
  | .kinds names => do return .kind (← names[← number? key]?)
  | _ => none

def step? (f : Found) : Step → Option Found
  | .attribute name => f.attribute? name
  | .item key => f.item? key

/-- The quoted form of a text, `ascii` with every other character by its code. -/
def quoted (ascii : Bool) : Found → List Char
  | .text cs =>
    let q := Text.Quoted.encode cs
    if ascii then q.flatMap fun c => if c.toNat < 128 then [c] else escapeCode c else q
  | f => f.display

def convert? (f : Found) : Option Char → Option Found
  | none => some f
  | some 's' => some (.text f.display)
  | some 'r' => some (.text (f.quoted false))
  | some 'a' => some (.text (f.quoted true))
  | some _ => none

/-- The text laid out; a width beyond all memory is a case of its own. -/
def layOut (f : Found) (layout : List Char) : Filling (List Char) :=
  if layout.isEmpty then .ok f.display
  else
    match f with
    | .text cs => do
      let l ← Filling.ofOption (layout? layout)
      if l.width.any (widthInMemory < ·) then throw .tooWide
      return l.apply cs
    | _ => .error .malformed

end Found

/-- The value of a name; a name without one stands for itself in braces. -/
def valueOf (values : List (String × String)) (name : List Char) : List Char :=
  match values.lookup (String.ofList name) with
  | some v => v.toList
  | none => '\x7b' :: name ++ ['\x7d']

/-- One piece of a template filled in, given what fills the layout of a placeholder. -/
def fillPiece (values : List (String × String)) (fillLayout : Placeholder → Filling (List Char)) :
    Piece → Filling (List Char)
  | .char c => pure [c]
  | .placeholder p => do
    let whole : Found := .text (valueOf values p.name)
    let found ← Filling.ofOption do (← p.steps.foldlM Found.step? whole).convert? p.conversion
    found.layOut (← fillLayout p)

/-- A template filled in; a layout may hold placeholders, those in it none of their own. -/
def fillAt (values : List (String × String)) : Nat → List Char → Filling (List Char)
  | 0, _ => .error .malformed
  | depth + 1, template => do
    let pieces ← Filling.ofOption (pieces? template)
    let texts ← pieces.mapM (fillPiece values fun p =>
      if p.nested then fillAt values depth p.layout else pure p.layout)
    return texts.flatten

/-- A template filled in with values by name. -/
def fill (values : List (String × String)) (template : String) : Filling String :=
  (fillAt values 2 template.toList).map String.ofList

end SecurityScan.Prompt
