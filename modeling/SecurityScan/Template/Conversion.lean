import SecurityScan.Number.Notation
import SecurityScan.Template.Compare
import SecurityScan.Text.Case
import SecurityScan.Value.Convert

/-!
# Texts that are filled in

A text that items are put into, one after the other or by name. What is put in is converted: a
conversion begins with a percent sign; it may name its item, give flags, a width and a number of
places, and it ends with the form that the item takes. Two percent signs stand for one.
-/

namespace SecurityScan.Template

namespace Item

open Render

/-! ## Numbers of items -/

/-- The value of an item that is no collection. -/
def scalar? : Item → Option Value
  | .null => some .null
  | .bool b => some (.bool b)
  | .int i => some (.int i)
  | .float x => some (.float x)
  | .text s | .markup s => some (.str s)
  | .value v => some v
  | _ => none

/-- A whole number: as it is, cut off after the point, or read. -/
def toWhole (i : Item) : Render Int :=
  match i with
  | .undefined => noValue
  | i =>
    match i.scalar? with
    | some v => ofResult v.toWhole
    | none => wrongKind "the item is no number"

/-- A double: as it is, the nearest to a whole number, or read. -/
def toDouble (i : Item) : Render Double :=
  match i with
  | .undefined => noValue
  | i =>
    match i.scalar? with
    | some v => ofResult v.toDouble
    | none => wrongKind "the item is no number"

/-- A double that is not read from a text. -/
def realNumber (i : Item) : Render Double :=
  match i with
  | .undefined => noValue
  | i =>
    match i.numeric? with
    | some n => ofResult n.toDouble
    | none => wrongKind "must be real number"

/-- Text with its characters outside ASCII written by their codes. -/
def asciiOnly (s : String) : String :=
  String.ofList (s.toList.flatMap fun c =>
    if c.toNat < 0x80 then [c] else Text.Quoted.escapeCode c)

end Item

structure Conversion where
  flags : List Char
  width : Nat
  places : Option Nat
  form : Char

namespace Conversion

open Render

/-! ## Reading -/

/-- A name up to the bracket that closes it, brackets in it being in pairs, and the rest. -/
def keyText (depth : Nat) : List Char → Option (List Char × List Char)
  | [] => none
  | c :: cs =>
    if c == ')' then
      match depth with
      | 0 => some ([], cs)
      | depth + 1 => (keyText depth cs).map fun (key, rest) => (c :: key, rest)
    else
      (keyText (if c == '(' then depth + 1 else depth) cs).map fun (key, rest) => (c :: key, rest)

def digits (cs : List Char) : Nat × List Char :=
  let ds := cs.takeWhile Text.isDigit
  (Double.digitsNat ds, cs.drop ds.length)

/-! ## Forms -/

/-- A number with its sign in front, in the width of a conversion; `mark` goes before the digits. -/
def laidOut (c : Conversion) (negative : Bool) (mark digits : List Char) : List Char :=
  let sign := if negative then ['-'] else if c.flags.contains '+' then ['+']
    else if c.flags.contains ' ' then [' '] else []
  let sign := sign ++ if c.flags.contains '#' then mark else []
  let room := List.replicate (c.width - sign.length - digits.length)
  if c.flags.contains '-' then sign ++ digits ++ room ' '
  else if c.flags.contains '0' then sign ++ room '0' ++ digits
  else room ' ' ++ sign ++ digits

/-- A text in the width of a conversion, cut to its number of places. -/
def spaced (c : Conversion) (cs : List Char) : List Char :=
  let kept := match c.places with
    | some n => cs.take n
    | none => cs
  let room := List.replicate (c.width - kept.length) ' '
  if c.flags.contains '-' then kept ++ room else room ++ kept

def capitals (cs : List Char) : List Char := cs.map Char.toUpper

/-- A whole number in a base, with the places as its least number of digits. -/
def whole (c : Conversion) (base : Nat) (mark : List Char) (n : Int) : List Char :=
  let ds := Nat.toDigits base n.natAbs
  let ds := List.replicate ((c.places.getD 0) - ds.length) '0' ++ ds
  if c.form == 'X' then c.laidOut (n < 0) (capitals mark) (capitals ds)
  else c.laidOut (n < 0) mark ds

/-- A double in one of its notations. -/
def real (c : Conversion) (x : Double) : List Char :=
  let keeps := c.flags.contains '#'
  let places := c.places.getD 6
  let ds := match x with
    | .nan => "nan".toList
    | .infinite _ => "inf".toList
    | x =>
      match c.form.toLower with
      | 'f' => (x.fixed places).text keeps
      | 'e' => x.scientific 'e' keeps places
      | _ => x.general 'e' keeps places
  c.laidOut x.isNegative [] (if c.form.isUpper then capitals ds else ds)

def isText (form : Char) : Bool := ['s', 'r', 'a'].contains form

/-! ## Items -/

/-- The texts of an item that goes into a text, escaped where it goes into markup. -/
def textOf (form : Char) (escapes : Bool) (i : Item) : Render String := do
  let quoted : Render String := do
    let s ← i.literal
    return if escapes then Html.escape s else s
  match form with
  | 's' => if escapes then i.escaped else i.display
  | 'r' => quoted
  | _ => Item.asciiOnly <$> quoted

/-- The whole number that a form needs. Markup takes what is written as one, too. -/
def wholeOf (form : Char) (escapes : Bool) (i : Item) : Render Int := do
  let isBased := ['o', 'x', 'X'].contains form
  if escapes then
    if isBased then wrongKind "an integer is required" else i.toWhole
  else
    match i, i.numeric? with
    | .undefined, _ => if isBased then wrongKind "an integer is required" else noValue
    | _, some (.whole n) => return n
    | i, some (.real _) =>
      if isBased then wrongKind "an integer is required" else i.toWhole
    | _, none => wrongKind "a real number is required"

/-- The character that an item is or is the code of. -/
def characterOf (escapes : Bool) (i : Item) : Render Char := do
  match escapes, i.whole?, i.text?.map String.toList with
  | false, some n, _ =>
    if 0 ≤ n && n < 0x110000 then return Text.charOfCode n.toNat
    else throw (.overflow "%c arg not in range(0x110000)")
  | false, _, some [c] => return c
  | _, _, _ => wrongKind "%c requires int or char"

/-- An item in the form of a conversion, whose form stands at `index`. -/
def filled (c : Conversion) (escapes : Bool) (index : Nat) (i : Item) : Render (List Char) := do
  match c.form with
  | 's' | 'r' | 'a' => return c.spaced (← textOf c.form escapes i).toList
  | 'd' | 'i' | 'u' =>
    let n ← wholeOf c.form escapes i
    if n.natAbs < Number.digitLimit then return c.whole 10 [] n else throw .tooLongToWrite
  | 'x' | 'X' => return c.whole 16 ['0', 'x'] (← wholeOf c.form escapes i)
  | 'o' => return c.whole 8 ['0', 'o'] (← wholeOf c.form escapes i)
  | 'e' | 'E' | 'f' | 'F' | 'g' | 'G' =>
    return c.real (← if escapes then i.toDouble else i.realNumber)
  | 'c' => return { c with places := none }.spaced [← characterOf escapes i]
  | form =>
    let shown := if 31 ≤ form.toNat && form.toNat ≤ 126 then form else '?'
    throw (.badValue ("unsupported format character '" ++ String.singleton shown ++ "' (0x" ++
      String.ofList (Nat.toDigits 16 (Text.codeOf form)) ++ ") at index " ++ toString index))

end Conversion

/-! ## Filling in -/

/-- What is left to be put into a text. -/
structure Filling where
  left : List Item
  /-- What items are taken from by name. -/
  named : Option Item
  /-- Whether the text is markup. -/
  escapes : Bool

namespace Filling

open Render

def take (f : Filling) : Render (Item × Filling) :=
  match f.left with
  | i :: rest => return (i, { f with left := rest })
  | [] => wrongKind "not enough arguments for format string"

/-- The item under a name, which is then the only one that is left. -/
def takeNamed (f : Filling) (key : String) : Render Filling := do
  match f.named with
  | none => wrongKind "format requires a mapping"
  | some .undefined => noValue
  | some owner =>
    match ← owner.entries? with
    | none => wrongKind "the item has no names"
    | some entries =>
      match ← Item.entry? entries (.text key) with
      | some (_, i) => return { f with left := [i] }
      | none => problem .missingKey

/-- A number below a bound that is written, or taken from the items. -/
def number (bound : Nat) (f : Filling) : List Char → Render (Int × Filling × List Char)
  | '*' :: cs => do
    let (i, f) ← f.take
    if f.escapes then wrongKind "* wants int"
    match i.whole? with
    | some n =>
      if (bound : Int) ≤ n || n < -(bound : Int) then throw (.overflow "the number is too large")
      return (n, f, cs)
    | none => wrongKind "* wants int"
  | cs => do
    let (n, rest) := Conversion.digits cs
    if bound ≤ n then throw (.badValue "the number is too big")
    return (n, f, rest)

/-- Longer texts than this are not made. -/
def maxLength : Nat := 1000000000

/-- What follows a percent sign, filled in; `length` is that of the whole text. -/
def conversion (f : Filling) (length : Nat) (cs : List Char) :
    Render (List Char × Filling × List Char) := do
  let (f, cs) ← match cs with
    | '(' :: cs =>
      match Conversion.keyText 0 cs with
      | some (key, rest) => do
        if f.named.isNone then wrongKind "format requires a mapping"
        pure (← f.takeNamed (String.ofList key), rest)
      | none =>
        if f.named.isNone then wrongKind "format requires a mapping"
        else throw (.badValue "incomplete format key")
    | cs => pure (f, cs)
  let flags := cs.takeWhile ['#', '0', '-', ' ', '+'].contains
  let (width, f, cs) ← f.number (2 ^ 63) (cs.drop flags.length)
  let flags := if width < 0 then '-' :: flags else flags
  let (places, f, cs) ← match cs with
    | '.' :: cs => do
      let (n, f, cs) ← f.number (2 ^ 31) cs
      pure (some n.toNat, f, cs)
    | cs => pure (none, f, cs)
  let cs := match cs with
    | 'h' :: cs | 'l' :: cs | 'L' :: cs => cs
    | cs => cs
  match cs with
  | [] => throw (.badValue "incomplete format")
  | '%' :: rest => return (['%'], f, rest)
  | form :: rest =>
    let (i, f) ← f.take
    if maxLength < width.natAbs || (maxLength < places.getD 0 && !Conversion.isText form) then
      throw .outOfMemory
    let c : Conversion := ⟨flags, width.natAbs, places, form⟩
    return (← c.filled f.escapes (length - rest.length - 1) i, f, rest)

/-- A text filled in. Items that are not asked for are refused unless they have names. -/
def run (length : Nat) (done : List Char) (f : Filling) : Nat → List Char → Render (List Char)
  | 0, _ => throw .outOfMemory
  | _, [] =>
    if f.left.isEmpty || f.named.isSome then return done.reverse
    else wrongKind "not all arguments converted during string formatting"
  | fuel + 1, '%' :: '%' :: cs => run length ('%' :: done) f fuel cs
  | fuel + 1, '%' :: cs => do
    let (here, f, rest) ← f.conversion length cs
    run length (here.reverse ++ done) f fuel rest
  | fuel + 1, c :: cs => run length (c :: done) f fuel cs

/-- Whether items can be taken from an item by name, though perhaps none is there. -/
def hasNames (i : Item) : Render Bool := do
  match i with
  | .undefined | .range .. | .value (.bytes _) => return true
  | .cell place =>
    return match ← cellAt place with
      | .list _ | .map _ | .self _ => true
      | _ => false
  | _ => return false

/-- What an item puts into a text: a tuple its members, any other item itself. Markup may take
items from anything by name. -/
def ofItem (escapes : Bool) (i : Item) : Render Filling := do
  match i.tuple? with
  | some items => return ⟨items, none, escapes⟩
  | none => return ⟨[i], if escapes || (← hasNames i) then some i else none, escapes⟩

end Filling

/-- A text with an item put into it; what goes into markup is escaped. -/
def Item.filledWith (template i : Item) : Render Item := do
  let cs := (← template.display).toList
  let f ← Filling.ofItem template.isMarkup i
  return template.withText (String.ofList (← f.run cs.length [] (cs.length + 1) cs))

end SecurityScan.Template
