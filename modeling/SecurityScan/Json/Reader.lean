import SecurityScan.Number.Literal
import SecurityScan.Text.Surrogate
import SecurityScan.Value.Basic

/-!
# Reading JSON

A recursive descent over the characters that are left. `NaN`, `Infinity` and `-Infinity` are read
as numbers, and of two equal names the later value stands at the earlier place.
-/

namespace SecurityScan.Json

open Text (isDigit hexValue? isHighHalf isLowHalf joinHalves charOfCode)

inductive Problem
  | byteOrderMark
  | value
  | name
  | colon
  | comma
  | extra
  | unterminated
  | control
  | escape
  | codeEscape
deriving DecidableEq

def Problem.text : Problem → String
  | .byteOrderMark => "Unexpected UTF-8 BOM (decode using utf-8-sig)"
  | .value => "Expecting value"
  | .name => "Expecting property name enclosed in double quotes"
  | .colon => "Expecting ':' delimiter"
  | .comma => "Expecting ',' delimiter"
  | .extra => "Extra data"
  | .unterminated => "Unterminated string starting at"
  | .control => "Invalid control character at"
  | .escape => "Invalid \\escape"
  | .codeEscape => "Invalid \\uXXXX escape"

/-- Why reading stopped; `left` counts the characters from the place of the problem on. -/
inductive Stop
  | malformed (problem : Problem) (left : Nat)
  | tooManyDigits (digits : Nat)
  | tooDeep
deriving DecidableEq

/-- Containers may nest this deep. -/
def maxDepth : Nat := 990

def isSpace (c : Char) : Bool := c == ' ' || c == '\t' || c == '\n' || c == '\r'

def skipSpace (cs : List Char) : List Char := cs.dropWhile isSpace

/-! ## Strings -/

/-- The value of four hexadecimal digits. -/
def hex4? : List Char → Option Nat
  | [a, b, c, d] => do
    return (((← hexValue? a) * 16 + (← hexValue? b)) * 16 + (← hexValue? c)) * 16 + (← hexValue? d)
  | _ => none

/-- The code unit after `\u`, which at least one more character has to follow. -/
def codeUnit (cs : List Char) : Except Stop (Nat × List Char) :=
  match hex4? (cs.take 4), cs.drop 4 with
  | some n, c :: rest => .ok (n, c :: rest)
  | _, _ => .error (.malformed .codeEscape (cs.length + 1))

/-- The character that an escape after `\` stands for; `start` is where the string began. -/
def readEscape (start : Nat) : List Char → Except Stop (Char × List Char)
  | [] => .error (.malformed .unterminated start)
  | 'u' :: cs => do
    let (high, rest) ← codeUnit cs
    match rest with
    | '\\' :: 'u' :: more =>
      if isHighHalf high && 4 < more.length then
        let (low, rest') ← codeUnit more
        if isLowHalf low then return (Char.ofNat (joinHalves high low), rest')
        else return (charOfCode high, rest)
      else return (charOfCode high, rest)
    | _ => return (charOfCode high, rest)
  | c :: cs =>
    match c with
    | '"' | '\\' | '/' => .ok (c, cs)
    | 'b' => .ok ('\x08', cs)
    | 'f' => .ok ('\x0c', cs)
    | 'n' => .ok ('\n', cs)
    | 'r' => .ok ('\r', cs)
    | 't' => .ok ('\t', cs)
    | _ => .error (.malformed .escape (cs.length + 2))

/-- The characters up to the closing quote, and what follows it. -/
def readString : Nat → Nat → List Char → Except Stop (List Char × List Char)
  | 0, start, _ => .error (.malformed .unterminated start)
  | fuel + 1, start, cs =>
    match cs with
    | [] => .error (.malformed .unterminated start)
    | '"' :: rest => .ok ([], rest)
    | '\\' :: rest => do
      let (c, rest) ← readEscape start rest
      let (text, rest) ← readString fuel start rest
      return (c :: text, rest)
    | c :: rest =>
      if c.toNat ≤ 0x1F then .error (.malformed .control cs.length)
      else do
        let (text, rest) ← readString fuel start rest
        return (c :: text, rest)

/-- The string after an opening quote. -/
def readText (cs : List Char) : Except Stop (String × List Char) := do
  let (text, rest) ← readString (cs.length + 1) (cs.length + 1) cs
  return (String.ofList text, rest)

/-! ## Numbers -/

/-- The digits before a point: a zero stands alone. -/
def wholePart : List Char → List Char × List Char
  | '0' :: cs => (['0'], cs)
  | cs => cs.span isDigit

/-- The digits after a point, if there are any. -/
def fractionPart (cs : List Char) : Option (List Char × List Char) :=
  match cs with
  | '.' :: rest =>
    match rest.span isDigit with
    | ([], _) => none
    | parts => some parts
  | _ => none

/-- The exponent after `e`, if it has a digit. -/
def exponentPart (cs : List Char) : Option (Int × List Char) :=
  match cs with
  | c :: rest =>
    if c == 'e' || c == 'E' then
      let (neg, ds) := Number.splitSign rest
      match ds.span isDigit with
      | ([], _) => none
      | (ds, rest) =>
        let n : Int := Double.digitsNat ds
        some (if neg then -n else n, rest)
    else none
  | [] => none

/-- A number at the start of `cs`. -/
def readNumber (cs : List Char) : Except Stop (Value × List Char) :=
  let (neg, unsigned) := match cs with
    | '-' :: rest => (true, rest)
    | _ => (false, cs)
  match wholePart unsigned with
  | ([], _) => .error (.malformed .value cs.length)
  | (whole, rest) =>
    let (fraction, rest₁) := (fractionPart rest).getD ([], rest)
    let exponent := exponentPart rest₁
    if fraction.isEmpty && exponent.isNone then
      if Number.maxDigits < whole.length then .error (.tooManyDigits whole.length)
      else
        let n : Int := Double.digitsNat whole
        .ok (.int (if neg then -n else n), rest₁)
    else
      let (e, rest₂) := exponent.getD (0, rest₁)
      .ok (.float (.ofDecimal neg (Double.digitsNat (whole ++ fraction)) (e - fraction.length)),
        rest₂)

/-! ## Values -/

mutual

/-- A value at the start of the text; every call takes one from `fuel`. -/
def readValue : Nat → Nat → List Char → Except Stop (Value × List Char)
  | 0, _, _ => .error .tooDeep
  | fuel + 1, depth, cs =>
    match cs with
    | '"' :: rest => do
      let (s, rest) ← readText rest
      return (.str s, rest)
    | '\x7b' :: rest =>
      if depth = 0 then .error .tooDeep
      else
        match skipSpace rest with
        | '\x7d' :: rest => .ok (.map [], rest)
        | rest => do
          let (es, rest) ← readMembers fuel (depth - 1) [] rest
          return (.map es, rest)
    | '[' :: rest =>
      if depth = 0 then .error .tooDeep
      else
        match skipSpace rest with
        | ']' :: rest => .ok (.list [], rest)
        | rest => do
          let (xs, rest) ← readItems fuel (depth - 1) rest
          return (.list xs, rest)
    | 'n' :: 'u' :: 'l' :: 'l' :: rest => .ok (.null, rest)
    | 't' :: 'r' :: 'u' :: 'e' :: rest => .ok (.bool true, rest)
    | 'f' :: 'a' :: 'l' :: 's' :: 'e' :: rest => .ok (.bool false, rest)
    | 'N' :: 'a' :: 'N' :: rest => .ok (.float .nan, rest)
    | 'I' :: 'n' :: 'f' :: 'i' :: 'n' :: 'i' :: 't' :: 'y' :: rest =>
      .ok (.float (.infinite false), rest)
    | '-' :: 'I' :: 'n' :: 'f' :: 'i' :: 'n' :: 'i' :: 't' :: 'y' :: rest =>
      .ok (.float (.infinite true), rest)
    | cs => readNumber cs

/-- The members of an object from a name on, put into `es`. -/
def readMembers : Nat → Nat → Entries → List Char → Except Stop (Entries × List Char)
  | 0, _, _, _ => .error .tooDeep
  | fuel + 1, depth, es, cs =>
    match cs with
    | '"' :: rest => do
      let (name, rest) ← readText rest
      match skipSpace rest with
      | ':' :: rest =>
        let (v, rest) ← readValue fuel depth (skipSpace rest)
        let es := es.setField name v
        match skipSpace rest with
        | '\x7d' :: rest => .ok (es, rest)
        | ',' :: rest => readMembers fuel depth es (skipSpace rest)
        | rest => .error (.malformed .comma rest.length)
      | rest => .error (.malformed .colon rest.length)
    | cs => .error (.malformed .name cs.length)

/-- The items of an array from a value on. -/
def readItems : Nat → Nat → List Char → Except Stop (List Value × List Char)
  | 0, _, _ => .error .tooDeep
  | fuel + 1, depth, cs => do
    let (x, rest) ← readValue fuel depth cs
    match skipSpace rest with
    | ']' :: rest => .ok ([x], rest)
    | ',' :: rest =>
      let (xs, rest) ← readItems fuel depth (skipSpace rest)
      return (x :: xs, rest)
    | rest => .error (.malformed .comma rest.length)

end

/-- One value with nothing but space around it. -/
def readDocument (cs : List Char) : Except Stop Value :=
  match cs with
  | '\uFEFF' :: _ => .error (.malformed .byteOrderMark cs.length)
  | cs => do
    let (v, rest) ← readValue (2 * cs.length + 2) maxDepth (skipSpace cs)
    match skipSpace rest with
    | [] => .ok v
    | rest => .error (.malformed .extra rest.length)

/-! ## Errors with their place -/

inductive Error
  | malformed (problem : Problem) (line column index : Nat)
  | tooManyDigits (digits : Nat)
  | tooDeep
deriving DecidableEq

/-- Lines and columns count from one. -/
def Stop.placed (cs : List Char) : Stop → Error
  | .malformed p left =>
    let before := cs.take (cs.length - left)
    let column := (before.reverse.takeWhile (· != '\n')).length + 1
    .malformed p (before.count '\n' + 1) column before.length
  | .tooManyDigits n => .tooManyDigits n
  | .tooDeep => .tooDeep

def read (s : String) : Except Error Value := (readDocument s.toList).mapError (·.placed s.toList)

/-- The text of a problem with its place. -/
def placeText (p : Problem) (line column index : Nat) : String :=
  p.text ++ ": line " ++ toString line ++ " column " ++ toString column ++
    " (char " ++ toString index ++ ")"

end SecurityScan.Json
