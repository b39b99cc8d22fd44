import SecurityScan.Number.Whole
import SecurityScan.Text.CharacterName
import SecurityScan.Text.Quoted
import SecurityScan.Text.Utf8

/-!
# Encodings

The bytes of a text in an encoding, and the text that bytes stand for in one. What an encoding has
no bytes for, and bytes that stand for no character, are left out, replaced, spelled out or refused,
as a policy says.
-/

namespace SecurityScan.Text

/-- Which byte of a unit comes first. -/
inductive ByteOrder
  | least
  | greatest
deriving DecidableEq

inductive Encoding
  | ascii
  | latin1
  | windows1252
  /-- UTF-8, behind a mark if `isMarked`. -/
  | utf8 (isMarked : Bool)
  /-- Units of two bytes; without an order they stand behind a mark that tells it. -/
  | utf16 (order : Option ByteOrder)
  /-- Units of four bytes. -/
  | utf32 (order : Option ByteOrder)
deriving DecidableEq

/-- What is done about what cannot be written or read. -/
inductive Leniency
  | refuse
  | leaveOut
  | replace
  /-- A character is written as a reference of a page. -/
  | refer
  /-- A character, or each byte, is written by its code. -/
  | spellCode
  /-- A character is written by its name. -/
  | spellName
  /-- Bytes without a meaning are held as halves of pairs, and halves are written as bytes. -/
  | holdBytes
  /-- Halves of pairs are written and read like characters. -/
  | passHalves
deriving DecidableEq

inductive EncodingProblem
  /-- A character has no bytes, or bytes stand for no character. -/
  | noCounterpart
  | unknownLeniency
  /-- Bytes cannot be treated as characters are. -/
  | forCharactersOnly
deriving DecidableEq

/-! ## Names -/

namespace Encoding

/-- A name without regard to case; what stands between letters and digits counts as one bar. -/
def nameParts (name : String) : String :=
  let parts := (lower name).toList.splitBy fun a b => isPart a == isPart b
  "_".intercalate ((parts.filter fun cs => cs.any isPart).map String.ofList)
where
  isPart (c : Char) : Bool := c.isAlphanum || c == '.'

def names : List (List String × Encoding) := [
  (["ascii", "646", "ansi_x3.4_1968", "ansi_x3_4_1968", "ansi_x3.4_1986", "cp367", "csascii",
    "ibm367", "iso646_us", "iso_646.irv_1991", "iso_ir_6", "us", "us_ascii"], .ascii),
  (["latin_1", "8859", "cp819", "csisolatin1", "ibm819", "iso8859", "iso8859_1", "iso_8859_1",
    "iso_8859_1_1987", "iso_ir_100", "l1", "latin", "latin1"], .latin1),
  (["cp1252", "1252", "windows_1252"], .windows1252),
  (["utf_8", "u8", "utf", "utf8", "utf8_ucs2", "utf8_ucs4", "cp65001"], .utf8 false),
  (["utf_8_sig"], .utf8 true),
  (["utf_16", "u16", "utf16"], .utf16 none),
  (["utf_16_le", "unicodelittleunmarked", "utf_16le"], .utf16 (some .least)),
  (["utf_16_be", "unicodebigunmarked", "utf_16be"], .utf16 (some .greatest)),
  (["utf_32", "u32", "utf32"], .utf32 none),
  (["utf_32_le", "utf_32le"], .utf32 (some .least)),
  (["utf_32_be", "utf_32be"], .utf32 (some .greatest))]

def ofName? (name : String) : Option Encoding :=
  let name := nameParts name
  (names.find? fun e => e.1.contains name).map (·.2)

end Encoding

def Leniency.ofName? : String → Option Leniency
  | "strict" => some .refuse
  | "ignore" => some .leaveOut
  | "replace" => some .replace
  | "xmlcharrefreplace" => some .refer
  | "backslashreplace" => some .spellCode
  | "namereplace" => some .spellName
  | "surrogateescape" => some .holdBytes
  | "surrogatepass" => some .passHalves
  | _ => none

namespace Encoding

/-! ## Writing -/

/-- A number as bytes, `count` of them. -/
def unit (count : Nat) (order : ByteOrder) (n : Nat) : Utf8.Bytes :=
  let fromLeast := (List.range count).map fun i => UInt8.ofNat (n / 256 ^ i)
  match order with
  | .least => fromLeast
  | .greatest => fromLeast.reverse

/-- The characters of the bytes 80 to 9F where they are not controls; 0 where there are none. -/
def windowsSpecials : List Nat :=
  [0x20AC, 0, 0x201A, 0x192, 0x201E, 0x2026, 0x2020, 0x2021, 0x2C6, 0x2030, 0x160, 0x2039, 0x152,
   0, 0x17D, 0, 0, 0x2018, 0x2019, 0x201C, 0x201D, 0x2022, 0x2013, 0x2014, 0x2DC, 0x2122, 0x161,
   0x203A, 0x153, 0, 0x17E, 0x178]

/-- The bytes of a code point in units of two bytes. -/
def utf16Bytes (order : ByteOrder) (n : Nat) : Utf8.Bytes :=
  if n < 0x10000 then unit 2 order n
  else unit 2 order (0xD800 + (n - 0x10000) / 0x400) ++ unit 2 order (0xDC00 + n % 0x400)

/-- The bytes of a character, if it has some. -/
def charBytes? (e : Encoding) (c : Char) : Option Utf8.Bytes :=
  let n := codeOf c
  match e with
  | .ascii => if n < 0x80 then some [UInt8.ofNat n] else none
  | .latin1 => if n < 0x100 then some [UInt8.ofNat n] else none
  | .windows1252 =>
    if n < 0x80 || (0xA0 ≤ n && n < 0x100) then some [UInt8.ofNat n]
    else (windowsSpecials.idxOf? n).map fun i => [UInt8.ofNat (0x80 + i)]
  | .utf8 _ => if isLoneHalf c then none else some (String.utf8EncodeChar c)
  | .utf16 order => if isLoneHalf c then none else some (utf16Bytes (order.getD .least) n)
  | .utf32 order => if isLoneHalf c then none else some (unit 4 (order.getD .least) n)

/-- The bytes of half of a pair where it is written like a character. -/
def halfBytes? (e : Encoding) (n : Nat) : Option Utf8.Bytes :=
  match e with
  | .utf8 _ =>
    some ([0xE0 + n / 0x1000, 0x80 + n / 0x40 % 0x40, 0x80 + n % 0x40].map UInt8.ofNat)
  | .utf16 order => some (unit 2 (order.getD .least) n)
  | .utf32 order => some (unit 4 (order.getD .least) n)
  | _ => none

/-- Whether a unit of an encoding is one byte. -/
def hasSingleBytes : Encoding → Bool
  | .utf16 _ | .utf32 _ => false
  | _ => true

/-- What is written for a character that has no bytes. -/
def insteadOf (e : Encoding) (how : Leniency) (c : Char) : Except EncodingProblem Utf8.Bytes :=
  let n := codeOf c
  let written (cs : List Char) : Except EncodingProblem Utf8.Bytes :=
    .ok (cs.flatMap fun c => (e.charBytes? c).getD [])
  match how with
  | .refuse => .error .noCounterpart
  | .leaveOut => .ok []
  | .replace => written ['?']
  | .refer => written ("&#" ++ toString n ++ ";").toList
  | .spellCode => written (Quoted.escapeCode c)
  | .spellName =>
    match nameOf? n with
    | some name => written ("\\N\x7b" ++ name ++ "\x7d").toList
    | none => written (Quoted.escapeCode c)
  | .holdBytes =>
    if e.hasSingleBytes && isLoneHalf c && 0xDC80 ≤ n && n < 0xDD00 then
      .ok [UInt8.ofNat (n - 0xDC00)]
    else .error .noCounterpart
  | .passHalves =>
    match if isLoneHalf c then e.halfBytes? n else none with
    | some bs => .ok bs
    | none => .error .noCounterpart

/-- What stands before all characters. -/
def mark : Encoding → Utf8.Bytes
  | .utf8 true => [0xEF, 0xBB, 0xBF]
  | .utf16 none => unit 2 .least 0xFEFF
  | .utf32 none => unit 4 .least 0xFEFF
  | _ => []

/-- The bytes of a text. Without a policy none is known by the name that was given. -/
def encode (e : Encoding) (how : Option Leniency) (s : String) :
    Except EncodingProblem Utf8.Bytes := do
  let parts ← s.toList.mapM fun c =>
    match e.charBytes? c, how with
    | some bs, _ => .ok bs
    | none, some how => e.insteadOf how c
    | none, none => .error .unknownLeniency
  return e.mark ++ parts.flatten

/-! ## Reading -/

/-- The number that the bytes of a unit stand for. -/
def unitValue (order : ByteOrder) (bs : Utf8.Bytes) : Nat :=
  let bs := match order with
    | .least => bs.reverse
    | .greatest => bs
  bs.foldl (fun n b => 256 * n + b.toNat) 0

/-- The code point of a byte, if it has one. -/
def byteCode? (e : Encoding) (b : UInt8) : Option Nat :=
  let n := b.toNat
  match e with
  | .ascii => if n < 0x80 then some n else none
  | .windows1252 =>
    if n < 0x80 || 0xA0 ≤ n then some n
    else (windowsSpecials[n - 0x80]?).filter (· != 0)
  | _ => some n

/-- What stands at the start of some bytes, none if it is no character, and how many bytes that
are. -/
def readUtf16 (order : ByteOrder) (bs : Utf8.Bytes) : Option Nat × Nat :=
  if bs.length < 2 then (none, bs.length)
  else
    let n := unitValue order (bs.take 2)
    if isLowHalf n then (none, 2)
    else if !isHighHalf n then (some n, 2)
    else if bs.length < 4 then (none, bs.length)
    else
      let low := unitValue order ((bs.drop 2).take 2)
      if isLowHalf low then (some (joinHalves n low), 4) else (none, 2)

def readUtf32 (order : ByteOrder) (bs : Utf8.Bytes) : Option Nat × Nat :=
  if bs.length < 4 then (none, bs.length)
  else
    let n := unitValue order (bs.take 4)
    (if 0x110000 ≤ n || isHalf n then none else some n, 4)

def readUtf8 (bs : Utf8.Bytes) : Option Nat × Nat :=
  let size := (bs.head?.bind Utf8.sequenceLength).getD 1
  match Utf8.decodeFrom 0 (bs.take size) with
  | .ok cs => (cs.head?.map Char.toNat, size)
  | .error e => (none, e.stop - e.start)

def read (e : Encoding) (bs : Utf8.Bytes) : Option Nat × Nat :=
  match e with
  | .utf8 _ => readUtf8 bs
  | .utf16 order => readUtf16 (order.getD .least) bs
  | .utf32 order => readUtf32 (order.getD .least) bs
  | e => (bs.head?.bind e.byteCode?, 1)

/-- What is read for the bytes at the start of `bs`, `count` of which stand for no character, and
how many bytes that uses up. -/
def readInstead (e : Encoding) (how : Leniency) (bs : Utf8.Bytes) (count : Nat) :
    Except EncodingProblem (List Char × Nat) :=
  let wrong := bs.take count
  match how with
  | .refuse => .error .noCounterpart
  | .leaveOut => .ok ([], count)
  | .replace => .ok (['\uFFFD'], count)
  | .spellCode => .ok (wrong.flatMap fun b => '\\' :: 'x' :: hexDigits 2 b.toNat, count)
  | .refer | .spellName => .error .forCharactersOnly
  | .holdBytes =>
    let held := wrong.takeWhile (0x80 ≤ ·)
    if held.isEmpty then .error .noCounterpart
    else .ok (held.map fun b => charOfCode (0xDC00 + b.toNat), held.length)
  | .passHalves =>
    let half? : Option (Nat × Nat) :=
      match e, bs with
      | .utf8 _, a :: b :: c :: _ =>
        if a == 0xED && 0xA0 ≤ b && Utf8.isTail b && Utf8.isTail c then
          some ((a.toNat % 16 * 64 + Utf8.low6 b) * 64 + Utf8.low6 c, 3)
        else none
      | .utf16 order, _ => some (unitValue (order.getD .least) (bs.take 2), 2)
      | .utf32 order, _ => some (unitValue (order.getD .least) (bs.take 4), 4)
      | _, _ => none
    match half? with
    | some (n, size) =>
      if isHalf n && size ≤ bs.length then .ok ([charOfCode n], size) else .error .noCounterpart
    | none => .error .noCounterpart

/-- The characters of bytes; their number limits the steps. -/
def readAll (e : Encoding) (how : Option Leniency) (found : List Char) (bs : Utf8.Bytes) :
    Nat → Except EncodingProblem (List Char)
  | 0 => .ok found.reverse
  | fuel + 1 =>
    if bs.isEmpty then .ok found.reverse
    else
      match e.read bs, how with
      | (some n, count), _ => readAll e how (charOfCode n :: found) (bs.drop count) fuel
      | (none, count), some how' => do
        let (cs, count) ← e.readInstead how' bs count
        readAll e how (cs.reverse ++ found) (bs.drop count) fuel
      | (none, _), none => .error .unknownLeniency

/-- The encoding that a mark tells, and the bytes behind it. -/
def behindMark (e : Encoding) (bs : Utf8.Bytes) : Encoding × Utf8.Bytes :=
  let telling : List Encoding := match e with
    | .utf8 true => [.utf8 true]
    | .utf16 none => [.utf16 (some .least), .utf16 (some .greatest)]
    | .utf32 none => [.utf32 (some .least), .utf32 (some .greatest)]
    | _ => []
  let markOf (e : Encoding) : Utf8.Bytes := match e with
    | .utf16 (some order) => unit 2 order 0xFEFF
    | .utf32 (some order) => unit 4 order 0xFEFF
    | e => e.mark
  match telling.find? fun e => (markOf e).isPrefixOf bs with
  | some told => (told, bs.drop (markOf told).length)
  | none => (e, bs)

/-- The text that bytes stand for. -/
def decode (e : Encoding) (how : Option Leniency) (bs : Utf8.Bytes) :
    Except EncodingProblem String := do
  let (e, bs) := e.behindMark bs
  return String.ofList (← e.readAll how [] bs bs.length)

end Encoding

end SecurityScan.Text
