import SecurityScan.Yaml.Property
import SecurityScan.Yaml.ScalarText

/-!
# Tokens

The layout of a YAML text made explicit: indentation becomes the start and the end of blocks, and
a scalar that a colon follows is marked as a key when the colon is met. A text that cannot be read
ends in the token that says why.
-/

namespace SecurityScan.Yaml

inductive Bracket
  | square
  | curly
deriving DecidableEq

inductive Token
  | directive (d : Directive)
  | documentStart
  | documentEnd
  | blockSequenceStart
  | blockMappingStart
  | blockEnd
  | flowStart (b : Bracket)
  | flowEnd (b : Bracket)
  | flowEntry
  | blockEntry
  | key
  | value
  | alias (name : String)
  | anchor (name : String)
  | tag (t : WrittenTag)
  | scalar (plain : Bool) (text : String)
  | streamEnd
  | stop (s : Stop)
deriving DecidableEq

/-- A place where a key may have begun. -/
structure KeyMark where
  /-- How many tokens stand before it. -/
  tokens : Nat
  /-- Whether a colon has to follow, as nothing else can stand there. -/
  required : Bool
  start : Cursor

structure Scan where
  cursor : Cursor
  /-- The newest token first. -/
  tokens : List Token
  count : Nat
  /-- How many brackets are open. -/
  flow : Nat
  /-- The column of the open block, and those of the blocks around it. -/
  indent : Int
  outer : List Int
  mayStartKey : Bool
  /-- Possible keys, each with the number of brackets open at it. -/
  keys : List (Nat × KeyMark)

namespace Scan

def ofText (cs : List Char) : Scan := ⟨Cursor.ofText cs, [], 0, 0, -1, [], true, []⟩

def push (s : Scan) (t : Token) : Scan := { s with tokens := t :: s.tokens, count := s.count + 1 }

/-- A token put in after the first `n`. -/
def insertAt (s : Scan) (n : Nat) (t : Token) : Scan :=
  let after := s.count - n
  { s with tokens := s.tokens.take after ++ t :: s.tokens.drop after, count := s.count + 1 }

/-! ## Possible keys -/

/-- A key stands on one line and within 1024 characters of its colon. -/
def isStale (s : Scan) (k : KeyMark) : Bool :=
  k.start.line != s.cursor.line || s.cursor.index - k.start.index > 1024

def dropStale (s : Scan) : Except Stop Scan :=
  if s.keys.any fun k => s.isStale k.2 && k.2.required then .error .malformed
  else .ok { s with keys := s.keys.filter fun k => !s.isStale k.2 }

/-- No key begins at the last possible place. -/
def dropKey (s : Scan) : Except Stop Scan :=
  match s.keys.lookup s.flow with
  | some k =>
    if k.required then .error .malformed
    else .ok { s with keys := s.keys.filter fun k => k.1 != s.flow }
  | none => .ok s

/-- A key may begin here. -/
def markKey (s : Scan) : Except Stop Scan := do
  if s.mayStartKey then
    let required := s.flow == 0 && s.indent == s.cursor.column
    let t ← s.dropKey
    return { t with keys := (s.flow, ⟨s.count, required, s.cursor⟩) :: t.keys }
  else return s

/-! ## Blocks -/

/-- Blocks that are deeper than a column end. -/
def closeBlocks (column : Int) : List Int → Scan → Scan
  | [], s => s
  | i :: outer, s =>
    if s.indent > column then closeBlocks column outer { s.push .blockEnd with indent := i, outer }
    else s

def closeTo (s : Scan) (column : Int) : Scan :=
  if s.flow > 0 then s else closeBlocks column s.outer s

/-- A block begins at a column deeper than the open one. -/
def openAt (s : Scan) (column : Nat) (t : Token) (place : Nat) : Scan :=
  if s.indent < (column : Int) then
    { s.insertAt place t with indent := column, outer := s.indent :: s.outer }
  else s

/-! ## The tokens -/

def streamEnd (s : Scan) : Except Stop Scan := do
  let s ← (s.closeTo (-1)).dropKey
  return s.push .streamEnd

def directiveLine (s : Scan) (fuel : Nat) : Except Stop Scan := do
  let s ← (s.closeTo (-1)).dropKey
  let (d, cursor) ← directive fuel s.cursor
  return { s.push (.directive d) with cursor, mayStartKey := false }

def separator (s : Scan) (t : Token) : Except Stop Scan := do
  let s ← (s.closeTo (-1)).dropKey
  return { s.push t with cursor := s.cursor.forward 3, mayStartKey := false }

def flowStart (s : Scan) (b : Bracket) : Except Stop Scan := do
  let s ← s.markKey
  return { s.push (.flowStart b) with
    cursor := s.cursor.next, flow := s.flow + 1, mayStartKey := true }

/-- A closing bracket; one that closes nothing breaks the rules whatever follows. -/
def flowEnd (s : Scan) (b : Bracket) : Except Stop Scan := do
  let s ← s.dropKey
  if s.flow = 0 then throw .malformed
  return { s.push (.flowEnd b) with
    cursor := s.cursor.next, flow := s.flow - 1, mayStartKey := false }

def flowEntry (s : Scan) : Except Stop Scan := do
  let s ← { s with mayStartKey := true }.dropKey
  return { s.push .flowEntry with cursor := s.cursor.next }

def blockEntry (s : Scan) : Except Stop Scan := do
  if s.flow = 0 && !s.mayStartKey then throw .malformed
  let s := if s.flow = 0 then s.openAt s.cursor.column .blockSequenceStart s.count else s
  let s ← { s with mayStartKey := true }.dropKey
  return { s.push .blockEntry with cursor := s.cursor.next }

def keyIndicator (s : Scan) : Except Stop Scan := do
  if s.flow = 0 && !s.mayStartKey then throw .malformed
  let s := if s.flow = 0 then s.openAt s.cursor.column .blockMappingStart s.count else s
  let s ← { s with mayStartKey := s.flow == 0 }.dropKey
  return { s.push .key with cursor := s.cursor.next }

/-- A colon: it turns the last possible key into one, or stands for a key that is empty. -/
def valueIndicator (s : Scan) : Except Stop Scan := do
  match s.keys.lookup s.flow with
  | some k =>
    let s := { s with keys := s.keys.filter fun k => k.1 != s.flow }
    let s := s.insertAt k.tokens .key
    let s := if s.flow = 0 then s.openAt k.start.column .blockMappingStart k.tokens else s
    return { s.push .value with cursor := s.cursor.next, mayStartKey := false }
  | none =>
    if s.flow = 0 && !s.mayStartKey then throw .malformed
    let s := if s.flow = 0 then s.openAt s.cursor.column .blockMappingStart s.count else s
    let s ← { s with mayStartKey := s.flow == 0 }.dropKey
    return { s.push .value with cursor := s.cursor.next }

def named (s : Scan) (make : String → Token) : Except Stop Scan := do
  let s ← s.markKey
  let (name, cursor) ← anchorName s.cursor
  return { s.push (make name) with cursor, mayStartKey := false }

def tagged (s : Scan) (fuel : Nat) : Except Stop Scan := do
  let s ← s.markKey
  let (t, cursor) ← tagText fuel s.cursor
  return { s.push (.tag t) with cursor, mayStartKey := false }

def blockScalar (s : Scan) (fuel : Nat) (folded : Bool) : Except Stop Scan := do
  let s ← { s with mayStartKey := true }.dropKey
  let (text, cursor) ← blockText folded s.indent fuel s.cursor.next
  return { s.push (.scalar false (String.ofList text)) with cursor }

def quotedScalar (s : Scan) (fuel : Nat) (double : Bool) : Except Stop Scan := do
  let s ← s.markKey
  let (text, cursor) ← quotedText double fuel s.cursor.next
  return { s.push (.scalar false (String.ofList text)) with cursor, mayStartKey := false }

/-- A plain scalar; a key may follow it when a line has ended. -/
def plainScalar (s : Scan) (fuel : Nat) : Except Stop Scan := do
  let s ← s.markKey
  let (text, cursor, ended) := plainText (s.flow > 0) (s.indent + 1) fuel s.cursor
  return { s.push (.scalar true (String.ofList text)) with cursor, mayStartKey := ended }

/-- Whether a plain scalar may begin here. -/
def startsPlain (s : Scan) : Bool :=
  let ch := s.cursor.peek
  (!isBlankOrEnd ch && !"-?:,[]\x7b\x7d#&*!|>'\"%@`".toList.contains ch) ||
    (!isBlankOrEnd (s.cursor.peekAt 1) &&
      (ch == '-' || (s.flow = 0 && (ch == '?' || ch == ':'))))

/-- Past blanks, comments and line breaks. -/
def toNext : Nat → Scan → Scan
  | 0, s => s
  | fuel + 1, s =>
    let c := s.cursor.skipSpaces
    let c := if c.peek == '#' then c.skipLine else c
    match c.lineBreak with
    | ([], c) => { s with cursor := c }
    | (_, c) => toNext fuel { s with cursor := c, mayStartKey := s.mayStartKey || s.flow == 0 }

/-- The next token, or several of them; the flag tells that it was the last. -/
def step (fuel : Nat) (s : Scan) : Except Stop (Scan × Bool) := do
  let s :=
    if s.cursor.index = 0 && s.cursor.peek == '\uFEFF' then { s with cursor := s.cursor.next }
    else s
  let s ← (toNext fuel s).dropStale
  let s := s.closeTo s.cursor.column
  let c := s.cursor
  let ch := c.peek
  let goOn (x : Except Stop Scan) : Except Stop (Scan × Bool) := do return (← x, false)
  let standsAlone := isBlankOrEnd (c.peekAt 1)
  if c.rest.isEmpty then return (← s.streamEnd, true)
  else if ch == '%' && c.column = 0 then goOn (s.directiveLine fuel)
  else if ch == '-' && c.column = 0 && c.atSeparator then goOn (s.separator .documentStart)
  else if ch == '.' && c.column = 0 && c.atSeparator then goOn (s.separator .documentEnd)
  else if ch == '[' then goOn (s.flowStart .square)
  else if ch == '\x7b' then goOn (s.flowStart .curly)
  else if ch == ']' then goOn (s.flowEnd .square)
  else if ch == '\x7d' then goOn (s.flowEnd .curly)
  else if ch == ',' then goOn s.flowEntry
  else if ch == '-' && standsAlone then goOn s.blockEntry
  else if ch == '?' && (s.flow > 0 || standsAlone) then goOn s.keyIndicator
  else if ch == ':' && (s.flow > 0 || standsAlone) then goOn s.valueIndicator
  else if ch == '*' then goOn (s.named .alias)
  else if ch == '&' then goOn (s.named .anchor)
  else if ch == '!' then goOn (s.tagged fuel)
  else if ch == '|' && s.flow = 0 then goOn (s.blockScalar fuel false)
  else if ch == '>' && s.flow = 0 then goOn (s.blockScalar fuel true)
  else if ch == '\'' then goOn (s.quotedScalar fuel false)
  else if ch == '"' then goOn (s.quotedScalar fuel true)
  else if s.startsPlain then goOn (s.plainScalar fuel)
  else throw .malformed

/-- The tokens that are handed on. One that may yet turn out to be a key is held back, with all after
it, until what follows it has been read. -/
def settled (s : Scan) : List Token :=
  let held := s.keys.filter fun k => k.2.required || !s.isStale k.2
  s.tokens.drop (s.count - held.foldl (fun n k => min n k.2.tokens) s.count)

def run (inner : Nat) : Nat → Scan → List Token
  | 0, s => (Token.stop .malformed :: s.tokens).reverse
  | fuel + 1, s =>
    match step inner s with
    | .error stop => (Token.stop stop :: s.settled).reverse
    | .ok (s, true) => s.tokens.reverse
    | .ok (s, false) => run inner fuel s

end Scan

/-- The tokens of a text, the last of them its end or the reason why it is not read further. -/
def tokens (cs : List Char) : List Token :=
  if cs.all isAllowed then
    let fuel := cs.length + 2
    Scan.run fuel fuel (Scan.ofText cs)
  else [.stop .malformed]

end SecurityScan.Yaml
