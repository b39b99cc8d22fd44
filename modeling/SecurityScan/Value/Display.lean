import SecurityScan.Number.Literal
import SecurityScan.Number.Shortest
import SecurityScan.Text.Quoted
import SecurityScan.Value.Basic

/-!
# Values as text

The literal form of a value, in which texts stand between quotes, and its plain form, in which a
text stands for itself. A collection inside itself is shown as an ellipsis.
-/

namespace SecurityScan

open Text.Utf8 (Bytes)

/-- `items` with commas between them. -/
def commaSeparated (items : List String) : String := String.intercalate ", " items

namespace Bytes

def escapeByte (quote : Char) (b : UInt8) : List Char :=
  let c := Char.ofNat b.toNat
  if c == quote || c == '\\' then ['\\', c]
  else if c == '\n' then ['\\', 'n']
  else if c == '\r' then ['\\', 'r']
  else if c == '\t' then ['\\', 't']
  else if 0x20 ≤ b && b < 0x7F then [c]
  else '\\' :: 'x' :: Text.hexDigits 2 b.toNat

def literal (bs : Bytes) : String :=
  let q := Text.Quoted.quoteFor (bs.map fun b => Char.ofNat b.toNat)
  String.ofList ('b' :: q :: bs.flatMap (escapeByte q) ++ [q])

end Bytes

def Date.literal (d : Date) : String :=
  "datetime.date(" ++ commaSeparated [toString d.year, toString d.month, toString d.day] ++ ")"

/-- An offset as days and seconds, the days rounded down. -/
def DateTime.offsetLiteral (minutes : Int) : String :=
  if minutes = 0 then "datetime.timezone.utc"
  else
    let days := Int.fdiv minutes 1440
    let seconds := Int.fmod minutes 1440 * 60
    let parts := (if days = 0 then [] else ["days=" ++ toString days]) ++
      (if seconds = 0 then [] else ["seconds=" ++ toString seconds])
    "datetime.timezone(datetime.timedelta(" ++ commaSeparated parts ++ "))"

/-- Seconds and microseconds are left out from the right where they are zero. -/
def DateTime.literal (t : DateTime) : String :=
  let small :=
    if t.micro ≠ 0 then [toString t.second, toString t.micro]
    else if t.second ≠ 0 then [toString t.second]
    else []
  let zone := (t.offset.map fun m => ["tzinfo=" ++ offsetLiteral m]).getD []
  "datetime.datetime(" ++ commaSeparated
    ([toString t.date.year, toString t.date.month, toString t.date.day, toString t.hour,
      toString t.minute] ++ small ++ zone) ++ ")"

namespace Value

/-- What stands for a collection inside itself. -/
def ellipsis (isMap : Bool) : String := if isMap then "\x7b...\x7d" else "[...]"

mutual

/-- The literal form inside the collections with the marks `around`. -/
def literalIn (around : List Nat) : Value → String
  | .null => "None"
  | .bool b => if b then "True" else "False"
  | .int i => toString i
  | .float x => x.text
  | .str s => Text.quoted s
  | .list xs => "[" ++ commaSeparated (literalsIn around xs) ++ "]"
  | .tuple xs =>
    match xs with
    | [x] => "(" ++ literalIn around x ++ ",)"
    | xs => "(" ++ commaSeparated (literalsIn around xs) ++ ")"
  | .map es => "\x7b" ++ commaSeparated (entryLiteralsIn around es) ++ "\x7d"
  | .date d => d.literal
  | .datetime t => t.literal
  | .bytes bs => Bytes.literal bs
  | .set [] => "set()"
  | .set (x :: xs) =>
    "\x7b" ++ commaSeparated (literalIn around x :: literalsIn around xs) ++ "\x7d"
  | .marked mark v =>
    if around.contains mark then ellipsis (v.kind == "dict") else literalIn (mark :: around) v
  | .again _ isMap => ellipsis isMap

def literalsIn (around : List Nat) : List Value → List String
  | [] => []
  | x :: xs => literalIn around x :: literalsIn around xs

def entryLiteralsIn (around : List Nat) : List (Value × Value) → List String
  | [] => []
  | (k, v) :: es =>
    (literalIn around k ++ ": " ++ literalIn around v) :: entryLiteralsIn around es

end

/-- The literal form. -/
def literal (v : Value) : String := v.literalIn []

/-- The plain form: a text as it is, a day and a time in their ISO form, the literal form else. -/
def display : Value → String
  | .str s => s
  | .date d => d.isoText
  | .datetime t => t.isoText " "
  | v => v.literal

end Value

end SecurityScan
