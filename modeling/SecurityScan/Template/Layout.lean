import SecurityScan.Template.Field

/-!
# Layouts

How a text, a whole number or a double is laid out: fill, alignment, sign, width, separators
between groups of digits, places and form. And texts with places in braces that are filled in with
items, each of which may have a layout.
-/

namespace SecurityScan.Template

/-- How an item is laid out. -/
structure Layout where
  fill : Char
  /-- One of `<`, `>`, `^`, and `=`, which fills between a sign and the digits. -/
  alignment : Char
  sign : Option Char
  /-- A zero has no sign. -/
  unsignedZero : Bool
  alternate : Bool
  width : Option Nat
  separator : Option Char
  places : Option Nat
  form : Option Char

namespace Layout

/-! ## Reading -/

/-- A number is not greater than this. -/
def maxNumber : Nat := 2 ^ 63 - 1

/-- Digits at the start, which may be none, and what follows them. -/
def leadingNumber (cs : List Char) : Except Fault (Option Nat × List Char) :=
  let ds := cs.takeWhile fun c => (Text.digitValue? c).isSome
  let n := Number.ofDigits (ds.filterMap Text.digitValue?)
  if ds.isEmpty then .ok (none, cs)
  else if maxNumber < n then .error (.badValue "Too many decimal digits in format string")
  else .ok (some n, cs.drop ds.length)

def isAlignment (c : Char) : Bool := ['<', '>', '^', '='].contains c

/-- The fill and the alignment that a layout begins with. -/
def leadingAlignment : List Char → Option Char × Option Char × List Char
  | c :: d :: cs =>
    if isAlignment d then (some c, some d, cs)
    else if isAlignment c then (none, some c, d :: cs)
    else (none, none, c :: d :: cs)
  | [c] => if isAlignment c then (none, some c, []) else (none, none, [c])
  | [] => (none, none, [])

/-- Whether a character stands next, and what follows it. -/
def leading (c : Char) : List Char → Bool × List Char
  | d :: cs => if d == c then (true, cs) else (false, d :: cs)
  | [] => (false, [])

def bothSeparators : Fault := .badValue "Cannot specify both ',' and '_'."

/-- The separator of a layout, and what follows it. -/
def leadingSeparator (cs : List Char) : Except Fault (Option Char × List Char) :=
  match cs with
  | ',' :: '_' :: _ | '_' :: ',' :: _ => .error bothSeparators
  | ',' :: cs => .ok (some ',', cs)
  | '_' :: cs => .ok (some '_', cs)
  | cs => .ok (none, cs)

/-- A character as faults show it. -/
def shownForm (c : Char) : String :=
  if 32 < c.toNat && c.toNat < 128 then String.singleton c
  else "\\x" ++ String.ofList (Nat.toDigits 16 (Text.codeOf c))

/-- The separator that a form takes. -/
def checkSeparator (separator : Option Char) (form : Char) (isPlain : Bool) : Except Fault Unit :=
  match separator with
  | none => .ok ()
  | some c =>
    let hasGroups := isPlain || ['d', 'e', 'f', 'g', 'E', 'G', '%', 'F'].contains form
    if hasGroups || (c == '_' && ['b', 'o', 'x', 'X'].contains form) then .ok ()
    else .error (.badValue
        ("Cannot specify '" ++ String.singleton c ++ "' with '" ++ shownForm form ++ "'."))

/-- The layout that is written for an item of a kind, and what it is where nothing is said. -/
def read (kind : String) (alignment : Char) (form : Option Char) (cs : List Char) :
    Except Fault Layout := do
  let whole := cs
  let (fill, align, cs) := leadingAlignment cs
  let (sign, cs) := match cs with
    | c :: rest => if [' ', '+', '-'].contains c then (some c, rest) else (none, c :: rest)
    | [] => (none, [])
  let (unsignedZero, cs) := leading 'z' cs
  let (alternate, cs) := leading '#' cs
  let (isZeroFilled, cs) := if fill.isNone then leading '0' cs else (false, cs)
  let alignment := align.getD (if isZeroFilled && alignment == '>' then '=' else alignment)
  let (width, cs) ← leadingNumber cs
  let (separator, cs) ← leadingSeparator cs
  let (places, cs) ← match cs with
    | '.' :: cs => do
      match ← leadingNumber cs with
      | (none, _) => throw (.badValue "Format specifier missing precision")
      | found => pure found
    | cs => pure (none, cs)
  let form ← match cs with
    | [] => pure form
    | [c] => pure (some c)
    | _ => throw (.badValue ("Invalid format specifier '" ++ String.ofList whole ++
        "' for object of type '" ++ kind ++ "'"))
  checkSeparator separator (form.getD ' ') form.isNone
  return ⟨if isZeroFilled then '0' else fill.getD ' ', alignment, sign, unsignedZero, alternate,
    width, separator, places, form⟩

def unknownForm {α : Type} (kind : String) (form : Char) : Except Fault α :=
  .error (.badValue ("Unknown format code '" ++ shownForm form ++ "' for object of type '" ++
    kind ++ "'"))

/-! ## Laying out -/

/-- A text with a sign in front, filled up to the width. -/
def filled (l : Layout) (sign cs : List Char) : List Char :=
  let room := l.width.getD 0 - sign.length - cs.length
  let before := match l.alignment with
    | '<' => 0
    | '^' => room / 2
    | _ => room
  let fill (n : Nat) := List.replicate n l.fill
  if l.alignment == '=' then sign ++ fill room ++ cs
  else fill before ++ sign ++ cs ++ fill (room - before)

/-- No text of more characters fits into memory. -/
def widthInMemory : Nat := 2 ^ 36

def checkWidth (l : Layout) : Except Fault Unit :=
  if widthInMemory < l.width.getD 0 then .error .outOfMemory else .ok ()

def ofText (cs : List Char) (s : List Char) : Except Fault (List Char) := do
  let l ← read "str" '<' (some 's') cs
  if l.form != some 's' then unknownForm "str" (l.form.getD 's')
  if l.sign.isSome then
    throw (.badValue ((if l.sign == some ' ' then "Space" else "Sign") ++
      " not allowed in string format specifier"))
  if l.unsignedZero then
    throw (.badValue "Negative zero coercion (z) not allowed in string format specifier")
  if l.alternate then
    throw (.badValue "Alternate form (#) not allowed in string format specifier")
  if l.alignment == '=' then
    throw (.badValue "'=' alignment not allowed in string format specifier")
  l.checkWidth
  return l.filled [] (match l.places with
    | some n => s.take n
    | none => s)

/-- Digits in groups of a size, counted from the back. -/
def grouped (size : Nat) (separator : Char) (ds : List Char) : List Char :=
  (go 0 ds.reverse).reverse
where
  go (place : Nat) : List Char → List Char
    | [] => []
    | d :: ds =>
      if place != 0 && place % size == 0 then separator :: d :: go (place + 1) ds
      else d :: go (place + 1) ds

/-- Digits in groups, with zeros in front until they have a width. -/
def groupedUpTo (size : Nat) (separator : Char) (width : Nat) : Nat → List Char → List Char
  | 0, ds => grouped size separator ds
  | fuel + 1, ds =>
    let cs := grouped size separator ds
    if cs.length < width then groupedUpTo size separator width fuel ('0' :: ds) else cs

/-- A number: its sign, the mark of its base, its digits and what follows them. -/
def number (l : Layout) (isNegative : Bool) (mark ds rest : List Char) : List Char :=
  let sign := if isNegative then ['-'] else match l.sign with
    | some '+' => ['+']
    | some ' ' => [' ']
    | _ => []
  let front := sign ++ mark
  let room := l.width.getD 0 - front.length - rest.length
  let ds := match l.separator with
    | none => ds
    | some c =>
      let size := if (l.form.map ['b', 'o', 'x', 'X'].contains).getD false then 4 else 3
      let width := if l.fill == '0' && l.alignment == '=' then room else 0
      groupedUpTo size c width room ds
  l.filled front (ds ++ rest)

/-- A finite double that is not negative, its sign left out: digits, and what follows them. -/
def doubleText (l : Layout) (x : Double) : List Char :=
  match x with
  | .nan => "nan".toList
  | .infinite _ => "inf".toList
  | x =>
    let places := l.places.getD 6
    /- Without a form at least one digit follows the point. -/
    let withPoint (cs : List Char) : List Char :=
      let digits := cs.takeWhile fun c => c != 'e'
      if digits.contains '.' then cs else digits ++ ['.', '0'] ++ cs.drop digits.length
    match l.form.map Char.toLower with
    | some 'f' | some '%' => (x.fixed places).text l.alternate
    | some 'e' => x.scientific 'e' l.alternate places
    | some _ => x.general 'e' l.alternate places
    | none =>
      match l.places with
      | some n =>
        let cs := x.general 'e' l.alternate n
        if cs.contains 'e' then cs else withPoint cs
      | none => (if x.isNegative then x.neg else x).text.toList

def ofDouble (kind : String) (l : Layout) (x : Double) : Except Fault (List Char) := do
  let form := l.form.getD 'g'
  if !(['e', 'E', 'f', 'F', 'g', 'G', 'n', '%'].contains form) then unknownForm kind form
  l.checkWidth
  let x := if form == '%' then x.mul (.ofRatio false 100 1) else x
  let cs := l.doubleText x
  let cs := if form.isUpper then cs.map Char.toUpper else cs
  let ds := cs.takeWhile Text.isDigit
  let rest := cs.drop ds.length ++ if form == '%' then ['%'] else []
  let isZero := l.unsignedZero && cs.all fun c => c == '0' || c == '.'
  return l.number (x.isNegative && !isZero) [] ds rest

/-- A whole number in a base, with the mark of the base. -/
def base? : Char → Option (Nat × List Char)
  | 'd' | 'n' => some (10, [])
  | 'b' => some (2, ['0', 'b'])
  | 'o' => some (8, ['0', 'o'])
  | 'x' => some (16, ['0', 'x'])
  | 'X' => some (16, ['0', 'X'])
  | _ => none

def ofWhole (kind : String) (cs : List Char) (n : Int) : Except Fault (List Char) := do
  let l ← read kind '>' (some 'd') cs
  let form := l.form.getD 'd'
  let isWhole := (base? form).isSome || form == 'c'
  if isWhole then
    if l.unsignedZero then
      throw (.badValue "Negative zero coercion (z) not allowed in integer format specifier")
    if l.places.isSome then
      throw (.badValue "Precision not allowed in integer format specifier")
  match base? form with
  | some (base, mark) =>
    l.checkWidth
    if base == 10 && Number.digitLimit ≤ n.natAbs then throw .tooLongToWrite
    let ds := Nat.toDigits base n.natAbs
    return l.number (n < 0) (if l.alternate then mark else [])
      (if form == 'X' then ds.map Char.toUpper else ds) []
  | none =>
    if form == 'c' then
      if l.sign.isSome then
        throw (.badValue "Sign not allowed with integer format specifier 'c'")
      if l.alternate then
        throw (.badValue "Alternate form (#) not allowed with integer format specifier 'c'")
      if n < 0 || 0x110000 ≤ n then throw (.overflow "%c arg not in range(0x110000)")
      l.checkWidth
      return l.filled [] [Text.charOfCode n.toNat]
    else if ['e', 'E', 'f', 'F', 'g', 'G', '%'].contains form then
      ofDouble kind l (← (Value.Numeric.whole n).toDouble)
    else unknownForm kind form

end Layout

namespace Item

open Render

/-- An item as text in a layout. -/
def laidOut (i : Item) (layout : List Char) : Render (List Char) := do
  if layout.isEmpty then return (← i.display).toList
  else
    match i with
    | .text s | .markup s => ofResult (Layout.ofText layout s.toList)
    | .bool b => ofResult (Layout.ofWhole "bool" layout (if b then 1 else 0))
    | .int n => ofResult (Layout.ofWhole "int" layout n)
    | .float x => ofResult do
      Layout.ofDouble "float" (← Layout.read "float" '>' none layout) x
    | .complex .. => problem .unsupported
    | _ => wrongKind "unsupported format string"

end Item

/-! ## Places in braces -/

namespace Layout

open Render

/-- What stands before the character that ends a place's name, and from that character on. -/
def placeName (inBrackets : Bool) : List Char → Except Fault (List Char × List Char)
  | [] => .error (.badValue "expected '\x7d' before end of string")
  | c :: cs =>
    let goOn (inBrackets : Bool) := do
      let (name, rest) ← placeName inBrackets cs
      return (c :: name, rest)
    if inBrackets then goOn (c != ']')
    else if c == '\x7b' then .error (.badValue "unexpected '\x7b' in field name")
    else if c == '\x7d' || c == ':' || c == '!' then .ok ([], c :: cs)
    else goOn (c == '[')

/-- A layout up to the brace that closes its place, and the rest. -/
def placeLayout (depth : Nat) : List Char → Except Fault (List Char × List Char)
  | [] => .error (.badValue "unmatched '\x7b' in format spec")
  | c :: cs =>
    let goOn (depth : Nat) := do
      let (layout, rest) ← placeLayout depth cs
      return (c :: layout, rest)
    if c == '\x7b' then goOn (depth + 1)
    else if c == '\x7d' then
      match depth with
      | 0 => .ok ([], cs)
      | depth + 1 => goOn depth
    else goOn depth

structure Place where
  name : List Char
  conversion : Option Char
  layout : List Char

/-- A place after its opening brace, and the rest. -/
def place (cs : List Char) : Except Fault (Place × List Char) := do
  match ← placeName false cs with
  | (name, '\x7d' :: rest) => return (⟨name, none, []⟩, rest)
  | (name, ':' :: rest) =>
    let (layout, rest) ← placeLayout 0 rest
    return (⟨name, none, layout⟩, rest)
  | (name, rest) =>
    match rest.tail with
    | [] => throw (.badValue "end of string while looking for conversion specifier")
    | c :: '\x7d' :: rest => return (⟨name, some c, []⟩, rest)
    | c :: ':' :: rest =>
      let (layout, rest) ← placeLayout 0 rest
      return (⟨name, some c, layout⟩, rest)
    | [_] => throw (.badValue "unmatched '\x7b' in format spec")
    | _ => throw (.badValue "expected ':' after conversion specifier")

def isStepMark (c : Char) : Bool := c == '.' || c == '['

/-- A number that stands for a place among the arguments. -/
def placeNumber? (cs : List Char) : Except Fault (Option Nat) := do
  match ← leadingNumber cs with
  | (n, []) => return n
  | _ => return none

/-- One step from an item to a part of it, written after the name of a place. -/
def step (i : Item) (cs : List Char) : Render (Item × List Char) := do
  let missing {α : Type} : Render α := throw (.badValue "Empty attribute in format string")
  match cs with
  | '.' :: cs =>
    let name := cs.takeWhile fun c => !isStepMark c
    if name.isEmpty then missing
    match ← i.attribute? (String.ofList name) with
    | some found => return (found, cs.drop name.length)
    | none => throw (.noField "the item has no such attribute")
  | '[' :: cs =>
    let key := cs.takeWhile (· != ']')
    if key.length == cs.length then throw (.badValue "Missing ']' in format string")
    if key.isEmpty then missing
    let key' : Item := match ← ofResult (placeNumber? key) with
      | some n => .int n
      | none => .text (String.ofList key)
    let rest := cs.drop (key.length + 1)
    match ← i.subscript? key' with
    | some found => return (found, rest)
    | none =>
      match ← i.entries?, key'.whole?, ← i.count? with
      | some _, _, _ => problem .missingKey
      | none, some _, some _ => throw (.badIndex "index out of range")
      | none, _, _ => wrongKind "the item has no members under such a key"
  | _ => throw (.badValue "Only '.' or '[' may follow ']' in format field specifier")

/-- An item looked into by the steps after the name of a place. -/
def stepsFrom (i : Item) : Nat → List Char → Render Item
  | _, [] => return i
  | 0, _ => return i
  | fuel + 1, cs => do
    let (i, rest) ← step i cs
    stepsFrom i fuel rest

/-- How the places of a text are counted. -/
inductive Counting
  | open
  | written
  | inOrder (next : Nat)

/-- What a text is filled in with. -/
structure Fill where
  /-- Without these, the places have names. -/
  positional : Option (List Item)
  named : String → Render Item
  /-- Whether what is put in is escaped. -/
  escapes : Bool

/-- The item that a place begins with. -/
def Fill.item (f : Fill) (counting : Counting) (name : List Char) : Render (Item × Counting) := do
  let number ← ofResult (placeNumber? name)
  let nth (n : Nat) : Render Item := do
    match f.positional with
    | none => throw (.badValue "Format string contains positional fields")
    | some items =>
      match items[n]? with
      | some i => return i
      | none => throw (.badIndex ("Replacement index " ++ toString n ++
          " out of range for positional args tuple"))
  match number, name, counting with
  | some _, _, .inOrder _ => throw (.badValue
      "cannot switch from automatic field numbering to manual field specification")
  | some n, _, _ => return (← nth n, .written)
  | none, [], .written => throw (.badValue
      "cannot switch from manual field specification to automatic field numbering")
  | none, [], .open => return (← nth 0, .inOrder 1)
  | none, [], .inOrder n => return (← nth n, .inOrder (n + 1))
  | none, name, counting => return (← f.named (String.ofList name), counting)

/-- The text that an item is converted to, if a place asks for that. -/
def converted (i : Item) : Option Char → Render Item
  | none => return i
  | some 's' => do return .text (← i.display)
  | some 'r' => do return .text (← i.literal)
  | some 'a' => do return .text (Item.asciiOnly (← i.literal))
  | some c => throw (.badValue ("Unknown conversion specifier " ++ shownForm c))

/-- The text of a place. -/
def Fill.placed (f : Fill) (i : Item) (layout : List Char) : Render (List Char) := do
  if f.escapes then
    match i with
    | .markup s =>
      if layout.isEmpty then return s.toList
      else throw (.badValue "Unsupported format specification for Markup.")
    | i => return (Html.escape (String.ofList (← i.laidOut layout))).toList
  else i.laidOut layout

/-- A text with its places filled in. A layout may have places, those in it none of their own. -/
def Fill.run (f : Fill) (depth fuel : Nat) (counting : Counting) (done : List Char)
    (cs : List Char) : Render (List Char × Counting) := do
  match depth, fuel with
  | 0, _ => throw (.badValue "Max string recursion exceeded")
  | _, 0 => throw .outOfMemory
  | depth + 1, fuel + 1 =>
    match cs with
    | [] => return (done.reverse, counting)
    | '\x7b' :: '\x7b' :: cs => f.run (depth + 1) fuel counting ('\x7b' :: done) cs
    | '\x7d' :: '\x7d' :: cs => f.run (depth + 1) fuel counting ('\x7d' :: done) cs
    | ['\x7b'] => throw (.badValue "Single '\x7b' encountered in format string")
    | '\x7d' :: _ => throw (.badValue "Single '\x7d' encountered in format string")
    | '\x7b' :: cs =>
      let (p, rest) ← ofResult (place cs)
      let first := p.name.takeWhile fun c => !isStepMark c
      let (i, counting) ← f.item counting first
      let i ← stepsFrom i p.name.length (p.name.drop first.length)
      let i ← converted i p.conversion
      let (layout, counting) ←
        if p.layout.contains '\x7b' then f.run depth fuel counting [] p.layout
        else pure (p.layout, counting)
      let here ← f.placed i layout
      f.run (depth + 1) fuel counting (here.reverse ++ done) rest
    | c :: cs => f.run (depth + 1) fuel counting (c :: done) cs
termination_by (depth, fuel)

end Layout

namespace Item

open Render

/-- A text with its places in braces filled in. -/
def formattedWith (template : Item) (positional : Option (List Item))
    (named : String → Render Item) : Render Item := do
  let cs := (← template.display).toList
  let f : Layout.Fill := ⟨positional, named, template.isMarkup⟩
  let (done, _) ← f.run 2 (cs.length + 1) .open [] cs
  return template.withText (String.ofList done)

end Item

end SecurityScan.Template
