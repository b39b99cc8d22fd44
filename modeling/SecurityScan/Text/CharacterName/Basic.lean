import SecurityScan.Text.CharClass

/-!
# Names of characters

The characters of a script or of a set of symbols have names, in the order of their code points.
Controls and some other characters have names of another sort, among them abbreviations.
-/

namespace SecurityScan.Text.CharacterName

/-- The names of successive code points, separated by bars. -/
structure Block where
  first : Nat
  names : List String

/-- The code point that a block gives a name to. -/
def Block.find? (b : Block) (name : String) : Option Nat :=
  ((b.names.flatMap fun line => line.splitOn "|").idxOf? name).map (b.first + ·)

/-- The name that a block gives to a code point. -/
def Block.nameOf? (b : Block) (n : Nat) : Option String :=
  if n < b.first then none
  else ((b.names.flatMap fun line => line.splitOn "|")[n - b.first]?).filter (· != "")

/-- Further names of characters. -/
def aliases : List (String × Nat) := [
  ("NULL", 0x0), ("START OF HEADING", 0x1), ("START OF TEXT", 0x2), ("END OF TEXT", 0x3),
  ("END OF TRANSMISSION", 0x4), ("ENQUIRY", 0x5), ("ACKNOWLEDGE", 0x6), ("ALERT", 0x7),
  ("BACKSPACE", 0x8), ("CHARACTER TABULATION", 0x9), ("HORIZONTAL TABULATION", 0x9), ("TAB", 0x9),
  ("LINE FEED", 0xA), ("NEW LINE", 0xA), ("END OF LINE", 0xA), ("LINE TABULATION", 0xB),
  ("VERTICAL TABULATION", 0xB), ("FORM FEED", 0xC), ("CARRIAGE RETURN", 0xD), ("SHIFT OUT", 0xE),
  ("LOCKING-SHIFT ONE", 0xE), ("SHIFT IN", 0xF), ("LOCKING-SHIFT ZERO", 0xF),
  ("DATA LINK ESCAPE", 0x10), ("DEVICE CONTROL ONE", 0x11), ("DEVICE CONTROL TWO", 0x12),
  ("DEVICE CONTROL THREE", 0x13), ("DEVICE CONTROL FOUR", 0x14), ("NEGATIVE ACKNOWLEDGE", 0x15),
  ("SYNCHRONOUS IDLE", 0x16), ("END OF TRANSMISSION BLOCK", 0x17), ("CANCEL", 0x18),
  ("END OF MEDIUM", 0x19), ("SUBSTITUTE", 0x1A), ("ESCAPE", 0x1B),
  ("INFORMATION SEPARATOR FOUR", 0x1C), ("FILE SEPARATOR", 0x1C),
  ("INFORMATION SEPARATOR THREE", 0x1D), ("GROUP SEPARATOR", 0x1D),
  ("INFORMATION SEPARATOR TWO", 0x1E), ("RECORD SEPARATOR", 0x1E),
  ("INFORMATION SEPARATOR ONE", 0x1F), ("UNIT SEPARATOR", 0x1F), ("DELETE", 0x7F),
  ("PADDING CHARACTER", 0x80), ("HIGH OCTET PRESET", 0x81), ("BREAK PERMITTED HERE", 0x82),
  ("NO BREAK HERE", 0x83), ("INDEX", 0x84), ("NEXT LINE", 0x85), ("START OF SELECTED AREA", 0x86),
  ("END OF SELECTED AREA", 0x87), ("CHARACTER TABULATION SET", 0x88),
  ("CHARACTER TABULATION WITH JUSTIFICATION", 0x89), ("LINE TABULATION SET", 0x8A),
  ("PARTIAL LINE FORWARD", 0x8B), ("PARTIAL LINE DOWN", 0x8B), ("PARTIAL LINE BACKWARD", 0x8C),
  ("PARTIAL LINE UP", 0x8C), ("REVERSE LINE FEED", 0x8D), ("REVERSE INDEX", 0x8D),
  ("SINGLE SHIFT TWO", 0x8E), ("SINGLE SHIFT THREE", 0x8F), ("DEVICE CONTROL STRING", 0x90),
  ("PRIVATE USE ONE", 0x91), ("PRIVATE USE TWO", 0x92), ("SET TRANSMIT STATE", 0x93),
  ("CANCEL CHARACTER", 0x94), ("MESSAGE WAITING", 0x95), ("START OF GUARDED AREA", 0x96),
  ("END OF GUARDED AREA", 0x97), ("START OF STRING", 0x98), ("SINGLE CHARACTER INTRODUCER", 0x9A),
  ("CONTROL SEQUENCE INTRODUCER", 0x9B), ("STRING TERMINATOR", 0x9C),
  ("OPERATING SYSTEM COMMAND", 0x9D), ("PRIVACY MESSAGE", 0x9E),
  ("APPLICATION PROGRAM COMMAND", 0x9F), ("NUL", 0x0), ("SOH", 0x1), ("STX", 0x2), ("ETX", 0x3),
  ("EOT", 0x4), ("ENQ", 0x5), ("ACK", 0x6), ("BEL", 0x7), ("BS", 0x8), ("HT", 0x9), ("TAB", 0x9),
  ("LF", 0xA), ("NL", 0xA), ("EOL", 0xA), ("VT", 0xB), ("FF", 0xC), ("CR", 0xD), ("SO", 0xE),
  ("SI", 0xF), ("DLE", 0x10), ("DC1", 0x11), ("DC2", 0x12), ("DC3", 0x13), ("DC4", 0x14),
  ("NAK", 0x15), ("SYN", 0x16), ("ETB", 0x17), ("CAN", 0x18), ("EOM", 0x19), ("SUB", 0x1A),
  ("ESC", 0x1B), ("FS", 0x1C), ("GS", 0x1D), ("RS", 0x1E), ("US", 0x1F), ("SP", 0x20),
  ("DEL", 0x7F), ("PAD", 0x80), ("HOP", 0x81), ("BPH", 0x82), ("NBH", 0x83), ("IND", 0x84),
  ("NEL", 0x85), ("SSA", 0x86), ("ESA", 0x87), ("HTS", 0x88), ("HTJ", 0x89), ("VTS", 0x8A),
  ("PLD", 0x8B), ("PLU", 0x8C), ("RI", 0x8D), ("SS2", 0x8E), ("SS3", 0x8F), ("DCS", 0x90),
  ("PU1", 0x91), ("PU2", 0x92), ("STS", 0x93), ("CCH", 0x94), ("MW", 0x95), ("SPA", 0x96),
  ("EPA", 0x97), ("SOS", 0x98), ("SGC", 0x99), ("SCI", 0x9A), ("CSI", 0x9B), ("ST", 0x9C),
  ("OSC", 0x9D), ("PM", 0x9E), ("APC", 0x9F), ("NBSP", 0xA0), ("SHY", 0xAD), ("ZWSP", 0x200B),
  ("ZWNJ", 0x200C), ("ZWJ", 0x200D), ("LRM", 0x200E), ("RLM", 0x200F), ("LRE", 0x202A),
  ("RLE", 0x202B), ("PDF", 0x202C), ("LRO", 0x202D), ("RLO", 0x202E), ("NNBSP", 0x202F),
  ("MMSP", 0x205F), ("WJ", 0x2060), ("LRI", 0x2066), ("RLI", 0x2067), ("FSI", 0x2068),
  ("PDI", 0x2069), ("BOM", 0xFEFF), ("ZWNBSP", 0xFEFF), ("BYTE ORDER MARK", 0xFEFF),
  ("CGJ", 0x34F), ("LATIN CAPITAL LETTER GHA", 0x1A2), ("LATIN SMALL LETTER GHA", 0x1A3),
  ("WEIERSTRASS ELLIPTIC FUNCTION", 0x2118), ("MICR ON US SYMBOL", 0x2448),
  ("MICR DASH SYMBOL", 0x2449), ("VS15", 0xFE0E), ("VS16", 0xFE0F)]

/-- Where the ideographs stand that are named by their code points. -/
def ideographs : CodeRanges := [
  (0x3400, 0x4DBF), (0x4E00, 0x9FFF), (0x20000, 0x2A6DF), (0x2A700, 0x2B738), (0x2B740, 0x2B81D),
  (0x2B820, 0x2CEA1), (0x2CEB0, 0x2EBE0), (0x30000, 0x3134A)]

/-- The code point of an ideograph. -/
def ideograph? (name : String) : Option Nat := do
  let start := "CJK UNIFIED IDEOGRAPH-".toList
  let cs := name.toList
  if !start.isPrefixOf cs then none
  let ds ← (cs.drop start.length).mapM hexValue?
  let n := ds.foldl (fun n d => 16 * n + d) 0
  if ds.length == (if n < 0x10000 then 4 else 5) && ideographs.any fun r => r.1 ≤ n && n ≤ r.2
    then some n
  else none

/-- The name of an ideograph. -/
def ideographName? (n : Nat) : Option String :=
  if ideographs.any fun r => r.1 ≤ n && n ≤ r.2 then
    some ("CJK UNIFIED IDEOGRAPH-" ++ upperHex (if n < 0x10000 then 4 else 5) n)
  else none
where
  upperHex (width n : Nat) : String := String.ofList ((hexDigits width n).map Char.toUpper)

end SecurityScan.Text.CharacterName
