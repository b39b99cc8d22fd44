import SecurityScan.Text.CharClass

/-!
# Tags

What kind of value a node stands for, told by the tag written on it or, for a plain scalar, by the
form of its text.
-/

namespace SecurityScan.Yaml

open Text (isDigit hexValue?)

inductive Tag
  | null
  | bool
  | int
  | float
  | timestamp
  | binary
  | str
  | seq
  | map
  | set
  | omap
  | pairs
  /-- The key whose value is a mapping to take entries from. -/
  | merge
  /-- The key of the value that a mapping has as a scalar. -/
  | value
  | unknown
deriving DecidableEq

namespace Tag

/-- What the full names of the known tags begin with. -/
def space : String := "tag:yaml.org,2002:"

def known : List (String × Tag) := [
  ("null", .null), ("bool", .bool), ("int", .int), ("float", .float), ("timestamp", .timestamp),
  ("binary", .binary), ("str", .str), ("seq", .seq), ("map", .map), ("set", .set),
  ("omap", .omap), ("pairs", .pairs), ("merge", .merge), ("value", .value)]

/-- The tag of a full name. -/
def ofName (name : String) : Tag :=
  match known.find? fun k => space ++ k.1 == name with
  | some k => k.2
  | none => .unknown

/-! ## The forms of plain scalars -/

def isTruth (s : String) : Bool :=
  ["yes", "Yes", "YES", "no", "No", "NO", "true", "True", "TRUE", "false", "False", "FALSE",
    "on", "On", "ON", "off", "Off", "OFF"].contains s

def isNothing (s : String) : Bool := ["", "~", "null", "Null", "NULL"].contains s

def afterSign : List Char → List Char
  | '-' :: cs | '+' :: cs => cs
  | cs => cs

def isDigitOrGap (c : Char) : Bool := isDigit c || c == '_'

/-- What follows `:59` and the like, once or more. -/
def sixtieths (seen : Bool) : List Char → Option (List Char)
  | ':' :: a :: b :: cs =>
    if '0' ≤ a && a ≤ '5' && isDigit b then sixtieths true cs
    else if isDigit a then sixtieths true (b :: cs)
    else none
  | ':' :: a :: [] => if isDigit a then some [] else none
  | cs => if seen then some cs else none

/-- A whole number: binary, octal, decimal, hexadecimal or in base sixty. -/
def isWhole (cs : List Char) : Bool :=
  match afterSign cs with
  | '0' :: 'b' :: ds => !ds.isEmpty && ds.all fun c => c == '0' || c == '1' || c == '_'
  | '0' :: 'x' :: ds => !ds.isEmpty && ds.all fun c => (hexValue? c).isSome || c == '_'
  | '0' :: ds => ds.all fun c => ('0' ≤ c && c ≤ '7') || c == '_'
  | d :: ds =>
    isDigit d &&
      (let rest := ds.dropWhile isDigitOrGap
       rest.isEmpty || sixtieths false rest == some [])
  | [] => false

/-- Nothing, or an exponent with its sign. -/
def endsInExponent : List Char → Bool
  | [] => true
  | e :: s :: ds =>
    (e == 'e' || e == 'E') && (s == '-' || s == '+') && !ds.isEmpty && ds.all isDigit
  | _ => false

/-- A number with a point. -/
def isDecimal (cs : List Char) : Bool :=
  match afterSign cs with
  | '.' :: rest =>
    let word := String.ofList rest
    ["inf", "Inf", "INF"].contains word ||
      ((cs.head? == some '.') &&
        (["nan", "NaN", "NAN"].contains word ||
          (isDigit (rest.headD ' ') && endsInExponent (rest.dropWhile isDigitOrGap))))
  | d :: ds =>
    isDigit d &&
      match ds.dropWhile isDigitOrGap with
      | '.' :: rest => endsInExponent (rest.dropWhile isDigitOrGap)
      | rest =>
        match sixtieths false rest with
        | some ('.' :: rest) => (rest.dropWhile isDigitOrGap).isEmpty
        | _ => false
  | [] => false

/-- Whether digits as many as one of `widths` begin a text, and what follows them. -/
def digitsOf (least most : Nat) (cs : List Char) : Option (List Char × List Char) :=
  let ds := (cs.take most).takeWhile isDigit
  if least ≤ ds.length then some (ds, cs.drop ds.length) else none

/-- What follows a given character. -/
def after (c : Char) : List Char → Option (List Char)
  | d :: cs => if c == d then some cs else none
  | [] => none

/-- The parts of a moment as they are written. -/
structure Stamp where
  year : List Char
  month : List Char
  day : List Char
  time : Option (List Char × List Char × List Char × List Char)
  /-- The sign, hours and minutes from UTC, none of them for `Z`. -/
  zone : Option (Option (Char × List Char × List Char))

def zoneOf? (cs : List Char) : Option (Option (Option (Char × List Char × List Char))) :=
  match cs.dropWhile fun c => c == ' ' || c == '\t' with
  | [] => if cs.isEmpty then some none else none
  | ['Z'] => some (some none)
  | sign :: rest =>
    if sign == '+' || sign == '-' then do
      let (hours, rest) ← digitsOf 1 2 rest
      if rest.isEmpty then return some (some (sign, hours, []))
      let (minutes, rest) ← digitsOf 2 2 (← after ':' rest)
      if rest.isEmpty then return some (some (sign, hours, minutes)) else none
    else none

/-- A day, alone or with a time. -/
def stampOf? (cs : List Char) : Option Stamp := do
  let (year, rest) ← digitsOf 4 4 cs
  let (month, rest) ← digitsOf 1 2 (← after '-' rest)
  let (day, rest) ← digitsOf 1 2 (← after '-' rest)
  if rest.isEmpty then return ⟨year, month, day, none, none⟩
  let blank := fun c => c == ' ' || c == '\t'
  let rest ←
    if rest.head? == some 'T' || rest.head? == some 't' then some rest.tail
    else if blank (rest.headD 'x') then some (rest.dropWhile blank)
    else none
  let (hour, rest) ← digitsOf 1 2 rest
  let (minute, rest) ← digitsOf 2 2 (← after ':' rest)
  let (second, rest) ← digitsOf 2 2 (← after ':' rest)
  let (fraction, rest) :=
    match rest with
    | '.' :: rest => (rest.takeWhile isDigit, rest.dropWhile isDigit)
    | rest => ([], rest)
  return ⟨year, month, day, some (hour, minute, second, fraction), ← zoneOf? rest⟩

/-- A day alone is recognised only with two digits for its month and its day. -/
def isTimestamp (cs : List Char) : Bool :=
  match stampOf? cs with
  | none => false
  | some stamp => stamp.time.isSome || (stamp.month.length = 2 && stamp.day.length = 2)

/-- A text without the newline at its end, which the forms disregard. -/
def withoutNewline (cs : List Char) : List Char :=
  if cs.getLast? == some '\n' then cs.dropLast else cs

/-- The tag of a plain scalar. -/
def ofPlain (text : String) : Tag :=
  if text == "\n" then .str
  else
    let cs := withoutNewline text.toList
    let s := String.ofList cs
    if isTruth s then .bool
    else if isDecimal cs then .float
    else if isWhole cs then .int
    else if s == "<<" then .merge
    else if isNothing s then .null
    else if isTimestamp cs then .timestamp
    else if s == "=" then .value
    else if ["!", "&", "*"].contains s then .unknown
    else .str

end Tag

end SecurityScan.Yaml
