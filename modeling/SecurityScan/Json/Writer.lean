import SecurityScan.Number.Shortest
import SecurityScan.Text.Surrogate
import SecurityScan.Value.Basic

/-!
# Writing JSON

Two layouts: on one line with every character outside ASCII escaped, and indented with such
characters as they are.
-/

namespace SecurityScan.Json

open Text (hexDigits codeOf)

structure Style where
  /-- Spaces for each level; none writes all on one line. -/
  indent : Option Nat
  /-- Escape what is not printable ASCII. -/
  ascii : Bool

def Style.compact : Style := ⟨none, true⟩

def Style.indented : Style := ⟨some 2, false⟩

/-! ## Strings -/

def escapeUnit (n : Nat) : List Char := '\\' :: 'u' :: hexDigits 4 n

/-- A code point beyond the first plane takes two code units. -/
def escapeCode (c : Char) : List Char :=
  let n := codeOf c
  if n ≤ 0xFFFF then escapeUnit n
  else
    escapeUnit (0xD800 + (n - 0x10000) / 0x400) ++ escapeUnit (0xDC00 + (n - 0x10000) % 0x400)

def escapeChar (ascii : Bool) (c : Char) : List Char :=
  if c == '"' || c == '\\' then ['\\', c]
  else if c == '\n' then ['\\', 'n']
  else if c == '\r' then ['\\', 'r']
  else if c == '\t' then ['\\', 't']
  else if c == '\x0c' then ['\\', 'f']
  else if c == '\x08' then ['\\', 'b']
  else if c.toNat ≤ 0x1F || (ascii && 0x7F ≤ c.toNat) then escapeCode c
  else [c]

def stringText (ascii : Bool) (s : String) : List Char :=
  '"' :: s.toList.flatMap (escapeChar ascii) ++ ['"']

def doubleText : Double → List Char
  | .nan => "NaN".toList
  | .infinite neg => (if neg then "-Infinity" else "Infinity").toList
  | x => x.text.toList

/-! ## Values -/

/-- The name under which a key is written; none when it cannot be one. -/
def keyText? : Value → Option String
  | .str s => some s
  | .null => some "null"
  | .bool b => some (if b then "true" else "false")
  | .int i => some (toString i)
  | .float x => some (String.ofList (doubleText x))
  | _ => none

mutual

/-- Whether a value has a JSON form. -/
def writable : Value → Bool
  | .null | .bool _ | .int _ | .float _ | .str _ => true
  | .list xs | .tuple xs => writableItems xs
  | .map es => writableEntries es
  | .date _ | .datetime _ | .bytes _ | .set _ | .marked .. | .again .. => false

def writableItems : List Value → Bool
  | [] => true
  | x :: xs => writable x && writableItems xs

def writableEntries : List (Value × Value) → Bool
  | [] => true
  | (k, v) :: es => (keyText? k).isSome && writable v && writableEntries es

end

/-- What opens a line of a container at a depth. -/
def lineBreak (style : Style) (depth : Nat) : List Char :=
  match style.indent with
  | none => []
  | some width => '\n' :: List.replicate (width * depth) ' '

/-- What stands between two items. -/
def separator (style : Style) (depth : Nat) : List Char :=
  match style.indent with
  | none => [',', ' ']
  | some _ => ',' :: lineBreak style depth

mutual

/-- The text of a value that stands at a depth. -/
def valueText (style : Style) (depth : Nat) : Value → List Char
  | .null => "null".toList
  | .bool b => (if b then "true" else "false").toList
  | .int i => (toString i).toList
  | .float x => doubleText x
  | .str s => stringText style.ascii s
  | .list [] | .tuple [] => ['[', ']']
  | .list (x :: xs) | .tuple (x :: xs) =>
    '[' :: lineBreak style (depth + 1) ++ valueText style (depth + 1) x ++
      itemsText style (depth + 1) xs ++ lineBreak style depth ++ [']']
  | .map [] => ['\x7b', '\x7d']
  | .map ((k, v) :: es) =>
    '\x7b' :: lineBreak style (depth + 1) ++ stringText style.ascii ((keyText? k).getD "") ++
      [':', ' '] ++ valueText style (depth + 1) v ++ entriesText style (depth + 1) es ++
      lineBreak style depth ++ ['\x7d']
  | .date _ | .datetime _ | .bytes _ | .set _ | .marked .. | .again .. => "null".toList

def itemsText (style : Style) (depth : Nat) : List Value → List Char
  | [] => []
  | x :: xs => separator style depth ++ valueText style depth x ++ itemsText style depth xs

def entriesText (style : Style) (depth : Nat) : List (Value × Value) → List Char
  | [] => []
  | (k, v) :: es =>
    separator style depth ++ stringText style.ascii ((keyText? k).getD "") ++ [':', ' '] ++
      valueText style depth v ++ entriesText style depth es

end

/-- The text of a value that has a JSON form. -/
def write? (style : Style) (v : Value) : Option String :=
  if writable v then some (String.ofList (valueText style 0 v)) else none

end SecurityScan.Json
