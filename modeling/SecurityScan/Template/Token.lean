import SecurityScan.Number.Literal
import SecurityScan.Template.Basic
import SecurityScan.Text.CharacterName
import SecurityScan.Text.Letter
import SecurityScan.Text.Surrogate

/-!
# Tokens of a template

Plain text, and between the markers of a tag its names, literals and operators. A minus sign at a
marker takes away the white space on its side. A comment is no token, and between raw tags all is
plain text. Where no token can be read the tokens end with the reason.
-/

namespace SecurityScan.Template

/-- The two kinds of tags: one puts out a value, the other is a statement. -/
inductive Tag
  | output
  | block
deriving DecidableEq

inductive Token
  | data (text : String)
  | opening (tag : Tag)
  | closing (tag : Tag)
  | name (s : String)
  | text (s : String)
  | int (i : Int)
  | float (x : Double)
  | op (symbol : String)
  /-- What comes here is no token. -/
  | invalid (d : Defect)
deriving DecidableEq

namespace Token

open Text (isBlank trimLeftBy trimRightBy hexValue? digitValue?)

def skipBlanks (cs : List Char) : List Char := trimLeftBy isBlank cs

/-- The text after `word`, if the characters start with it. -/
def after? (word : String) (cs : List Char) : Option (List Char) :=
  if word.toList.isPrefixOf cs then some (cs.drop word.length) else none

/-- A sign for white space at a marker, and what follows it. -/
def sign : List Char → Option Char × List Char
  | '-' :: cs => (some '-', cs)
  | '+' :: cs => (some '+', cs)
  | cs => (none, cs)

/-- Plain text in front of a tag. -/
def dataBefore (mark : Option Char) (cs : List Char) : List Token :=
  let text := if mark == some '-' then trimRightBy isBlank cs else cs
  if text.isEmpty then [] else [.data (String.ofList text)]

/-! ## Ends of tags -/

/-- What follows the end of a statement. -/
def afterBlock? (cs : List Char) : Option (List Char) :=
  match cs with
  | '+' :: '%' :: '\x7d' :: r | '%' :: '\x7d' :: r => some r
  | '-' :: '%' :: '\x7d' :: r => some (skipBlanks r)
  | _ => none

/-- What follows the end of a value that is put out. -/
def afterOutput? (cs : List Char) : Option (List Char) :=
  match cs with
  | '\x7d' :: '\x7d' :: r => some r
  | '-' :: '\x7d' :: '\x7d' :: r => some (skipBlanks r)
  | _ => none

def afterTag? : Tag → List Char → Option (List Char)
  | .output => afterOutput?
  | .block => afterBlock?

/-- What follows the end of a comment. -/
def afterComment? : List Char → Option (List Char)
  | [] => none
  | '-' :: '#' :: '\x7d' :: r => some (skipBlanks r)
  | '#' :: '\x7d' :: r => some r
  | _ :: r => afterComment? r

/-- What follows the tag that begins raw text, its marker and sign being read. -/
def afterRawBegin? (cs : List Char) : Option (List Char) := do
  let r := skipBlanks (← after? "raw" (skipBlanks cs))
  match r with
  | '%' :: '\x7d' :: r => some r
  | '-' :: '%' :: '\x7d' :: r => some (skipBlanks r)
  | _ => none

/-- The sign in the tag that ends raw text, and what follows the tag. -/
def rawEnd? (cs : List Char) : Option (Option Char × List Char) := do
  match cs with
  | '\x7b' :: '%' :: r =>
    let (mark, r) := sign r
    let r := skipBlanks (← after? "endraw" (skipBlanks r))
    some (mark, ← afterBlock? r)
  | _ => none

/-- Raw text up to the tag that ends it, and what follows the tag. -/
def rawText? (before : List Char) : List Char → Option (List Token × List Char)
  | [] => none
  | c :: cs =>
    match rawEnd? (c :: cs) with
    | some (mark, r) => some (dataBefore mark before.reverse, r)
    | none => rawText? (c :: before) cs

/-! ## Numbers -/

/-- The longest run of digits in a base, single underscores between them, and what follows it. -/
def digits (isDigitOf : Char → Bool) : List Char → List Char × List Char
  | '_' :: c :: r =>
    if isDigitOf c then
      let (ds, rest) := digits isDigitOf r
      (c :: ds, rest)
    else ([], '_' :: c :: r)
  | c :: r =>
    if isDigitOf c then
      let (ds, rest) := digits isDigitOf r
      (c :: ds, rest)
    else ([], c :: r)
  | [] => ([], [])

/-- A decimal digit of any script. -/
def isDecimal (c : Char) : Bool := (digitValue? c).isSome

/-- A run of decimal digits, which starts with a digit. -/
def decimals? (cs : List Char) : Option (List Char × List Char) :=
  match cs with
  | c :: _ => if isDecimal c then some (digits isDecimal cs) else none
  | [] => none

/-- An exponent, and what follows it. -/
def exponent? (cs : List Char) : Option (List Char × List Char) := do
  match cs with
  | e :: r =>
    if e != 'e' && e != 'E' then none
    else
      let (mark, r) := sign r
      let (ds, rest) ← decimals? r
      some ('e' :: mark.toList ++ ds, rest)
  | [] => none

/-- A number with a fraction, an exponent or both, its digits being those of ASCII. -/
def float? (cs : List Char) : Option (Token × List Char) := do
  let (whole, r) ← decimals? cs
  let fraction := do
    let ('.' :: r) := r | none
    let (ds, rest) ← decimals? r
    some ('.' :: ds, rest)
  let (part, r) := fraction.getD ([], r)
  let (power, rest) := (exponent? r).getD ([], r)
  if part.isEmpty && power.isEmpty then none
  else
    let all := whole ++ part ++ power
    if all.any fun c => 0x80 ≤ c.toNat then
      some (.invalid (.fault (.template .meaningless)), rest)
    else some (.float ((Number.readDouble (String.ofList all)).getD .nan), rest)

def isBinary (c : Char) : Bool := c == '0' || c == '1'

def isOctal (c : Char) : Bool := '0' ≤ c && c ≤ '7'

def isHexadecimal (c : Char) : Bool := isDecimal c || (hexValue? c).isSome

/-- A number in a base that a letter names. -/
def basedInt? (base : Nat) (isDigitOf : Char → Bool) (cs : List Char) :
    Option (Token × List Char) :=
  match digits isDigitOf cs with
  | ([], _) => none
  | (ds, rest) =>
    some (.int (ds.foldl (fun n d => base * n + (Number.anyDigitValue? d).getD 0) 0 : Nat), rest)

/-- A whole number in base ten. A zero in front has to be followed by zeros only. -/
def plainInt? (cs : List Char) : Option (Token × List Char) := do
  let first ← cs.head?
  if !Text.isDigit first then none
  else
    let (ds, rest) := digits (if first == '0' then (· == '0') else isDecimal) cs
    if Number.maxDigits < ds.length then
      some (.invalid (.fault (Fault.tooManyDigits ds.length)), rest)
    else some (.int (Number.ofDigits (ds.filterMap digitValue?)), rest)

def int? (cs : List Char) : Option (Token × List Char) :=
  match cs with
  | '0' :: letter :: r =>
    let based := match letter.toLower with
      | 'b' => basedInt? 2 isBinary r
      | 'o' => basedInt? 8 isOctal r
      | 'x' => basedInt? 16 isHexadecimal r
      | _ => none
    based.or (plainInt? cs)
  | _ => plainInt? cs

/-! ## Quoted text -/

/-- A character that a number of hexadecimal digits stands for. -/
def codePoint? (width : Nat) (cs : List Char) : Option (Char × List Char) := do
  let ds ← (cs.take width).mapM hexValue?
  let n := ds.foldl (fun n d => 16 * n + d) 0
  if ds.length == width && n < 0x110000 then some (Text.charOfCode n, cs.drop width) else none

/-- A character that up to three octal digits stand for. -/
def octalEscape (cs : List Char) : Char × List Char :=
  let ds := (cs.take 3).takeWhile isOctal
  (Char.ofNat (ds.foldl (fun n d => 8 * n + (hexValue? d).getD 0) 0), cs.drop ds.length)

/-- A character that a name between braces stands for. -/
def namedEscape? : List Char → Option (Char × List Char)
  | '\x7b' :: cs => do
    let name := cs.takeWhile (· != '\x7d')
    let '\x7d' :: rest := cs.drop name.length | none
    some (← Text.charNamed? (String.ofList name), rest)
  | _ => none

/-- The code of a character outside ASCII, without the backslash in front of it. -/
def bareCode (c : Char) : List Char :=
  let n := Text.codeOf c
  if n ≤ 0xFF then 'x' :: Text.hexDigits 2 n
  else if n ≤ 0xFFFF then 'u' :: Text.hexDigits 4 n
  else 'U' :: Text.hexDigits 8 n

/-- The characters that a backslash and what follows it stand for. An unknown pair stays, but for
a character outside ASCII, of which the code is left. -/
def escaped? (cs : List Char) : Option (List Char × List Char) :=
  let one (x : Option (Char × List Char)) := x.map fun (c, r) => ([c], r)
  match cs with
  | [] => none
  | c :: r =>
    match c with
    | '\n' => some ([], r)
    | '\\' | '\'' | '"' => some ([c], r)
    | 'a' => some (['\x07'], r)
    | 'b' => some (['\x08'], r)
    | 'f' => some (['\x0c'], r)
    | 'n' => some (['\n'], r)
    | 'r' => some (['\r'], r)
    | 't' => some (['\t'], r)
    | 'v' => some (['\x0b'], r)
    | 'x' => one (codePoint? 2 r)
    | 'u' => one (codePoint? 4 r)
    | 'U' => one (codePoint? 8 r)
    | 'N' => one (namedEscape? r)
    | _ =>
      if isOctal c then one (octalEscape cs)
      else if c.toNat < 0x80 then some (['\\', c], r)
      else some ('\\' :: bareCode c, r)

/-- The text up to a closing quote, escapes as they are written, and what follows the quote. -/
def quotedText? (quote : Char) : List Char → Option (List Char × List Char)
  | [] => none
  | '\\' :: c :: r => (quotedText? quote r).map fun (s, rest) => ('\\' :: c :: s, rest)
  | c :: r =>
    if c == quote then some ([], r)
    else (quotedText? quote r).map fun (s, rest) => (c :: s, rest)

/-- Text with its escapes replaced, none when one of them is malformed. -/
def unescaped? (fuel : Nat) (cs : List Char) : Option (List Char) :=
  match fuel, cs with
  | _, [] => some []
  | 0, _ => none
  | fuel + 1, '\\' :: r => do
    let (here, rest) ← escaped? r
    return here ++ (← unescaped? fuel rest)
  | fuel + 1, c :: r => do return c :: (← unescaped? fuel r)

/-- A text between quotes. -/
def text? (cs : List Char) : Option (Token × List Char) := do
  let c :: r := cs | none
  if c != '\'' && c != '"' then none
  else
    let (s, rest) ← quotedText? c r
    match unescaped? s.length s with
    | some s => some (.text (String.ofList s), rest)
    | none => some (.invalid .malformed, rest)

/-! ## Tokens -/

/-- Operators, the longer ones first. -/
def operators : List String :=
  ["//", "**", "==", "!=", ">=", "<=", "+", "-", "/", "*", "%", "~", "[", "]", "(", ")",
    "\x7b", "\x7d", ">", "<", "=", ".", ":", "|", ",", ";"]

/-- The bracket that closes another one. -/
def closer? : String → Option String
  | "(" => some ")"
  | "[" => some "]"
  | "\x7b" => some "\x7d"
  | _ => none

def isCloser (symbol : String) : Bool := [")", "]", "\x7d"].contains symbol

/-- The brackets that are still to be closed after an operator. -/
def pending? (opened : List String) (symbol : String) : Option (List String) :=
  match closer? symbol, opened with
  | some c, _ => some (c :: opened)
  | none, c :: rest =>
    if !isCloser symbol then some opened else if c == symbol then some rest else none
  | none, [] => if isCloser symbol then none else some []

/-- A name; not every run of what names are made of is one. -/
def name? (cs : List Char) : Option (Token × List Char) :=
  let isPart (c : Char) : Bool := Text.isWordChar c || Text.isNameChar c
  let run := cs.takeWhile isPart
  if run.isEmpty then none
  else
    let token : Token :=
      if Text.isName run then .name (String.ofList run) else .invalid .malformed
    some (token, cs.drop run.length)

def symbol? (cs : List Char) : Option (Token × List Char) :=
  operators.findSome? fun s => (after? s cs).map fun r => (.op s, r)

/-- The token at the start of a tag's text. No number with a fraction follows a dot. -/
def next? (afterDot : Bool) (cs : List Char) : Option (Token × List Char) :=
  let number := if afterDot then none else float? cs
  (number.or (int? cs)).or ((name? cs).or ((text? cs).or (symbol? cs)))

mutual

/-- The tokens of plain text, `before` being what of it is already read, reversed. -/
def ofText (fuel : Nat) (before : List Char) (cs : List Char) : List Token :=
  match fuel, cs with
  | 0, _ => [.invalid .malformed]
  | _, [] => dataBefore none before.reverse
  | fuel + 1, '\x7b' :: '\x7b' :: r =>
    let (mark, r) := sign r
    dataBefore mark before.reverse ++ .opening .output :: ofTag fuel .output [] false r
  | fuel + 1, '\x7b' :: '%' :: r =>
    let (mark, r) := sign r
    let here := dataBefore mark before.reverse
    match afterRawBegin? r with
    | some [] => here
    | some r =>
      match rawText? [] r with
      | some (raw, rest) => here ++ raw ++ ofText fuel [] rest
      | none => here ++ [.invalid .malformed]
    | none => here ++ .opening .block :: ofTag fuel .block [] false r
  | fuel + 1, '\x7b' :: '#' :: r =>
    let (mark, r) := sign r
    let here := dataBefore mark before.reverse
    if r.isEmpty then here
    else
      match afterComment? r with
      | some rest => here ++ ofText fuel [] rest
      | none => here ++ [.invalid .malformed]
  | fuel + 1, c :: r => ofText fuel (c :: before) r

/-- The tokens of a tag and of what follows it. A tag ends only where no bracket is open. -/
def ofTag (fuel : Nat) (tag : Tag) (opened : List String) (afterDot : Bool) (cs : List Char) :
    List Token :=
  match fuel with
  | 0 => [.invalid .malformed]
  | fuel + 1 =>
    match if opened.isEmpty then afterTag? tag cs else none with
    | some r => .closing tag :: ofText fuel [] r
    | none =>
      match cs with
      | [] => []
      | c :: r =>
        if isBlank c then ofTag fuel tag opened false r
        else
          match next? afterDot cs with
          | none => [.invalid .malformed]
          | some (.invalid d, _) => [.invalid d]
          | some (.op s, rest) =>
            match pending? opened s with
            | some stack => .op s :: ofTag fuel tag stack (s == ".") rest
            | none => [.invalid .malformed]
          | some (token, rest) => token :: ofTag fuel tag opened false rest

end

/-- A text without one newline at its end. -/
def withoutLastNewline (cs : List Char) : List Char :=
  if cs.getLast? == some '\n' then cs.dropLast else cs

/-- The tokens of a template. -/
def read (s : String) : List Token :=
  let cs := withoutLastNewline s.toList
  ofText (2 * cs.length + 2) [] cs

end Token

end SecurityScan.Template
