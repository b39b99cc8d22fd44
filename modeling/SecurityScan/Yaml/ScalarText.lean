import SecurityScan.Number.Whole
import SecurityScan.Text.Surrogate
import SecurityScan.Yaml.Cursor

/-!
# The text of scalars

Plain, quoted and block scalars: where each ends and which text it stands for. Lines of a flow
scalar are folded; a block scalar folds or keeps them.
-/

namespace SecurityScan.Yaml

open Text (hexValue? isDigit)

/-- A scalar's text and the cursor after it. -/
abbrev Scanned := Except Stop (List Char × Cursor)

/-! ## Quoted scalars -/

/-- What a letter after a backslash stands for. -/
def escapeFor? : Char → Option Char
  | '0' => some '\x00'
  | 'a' => some '\x07'
  | 'b' => some '\x08'
  | 't' | '\t' => some '\t'
  | 'n' => some '\n'
  | 'v' => some '\x0b'
  | 'f' => some '\x0c'
  | 'r' => some '\r'
  | 'e' => some '\x1b'
  | ' ' => some ' '
  | '"' => some '"'
  | '\\' => some '\\'
  | '/' => some '/'
  | 'N' => some '\x85'
  | '_' => some '\xa0'
  | 'L' => some '\u2028'
  | 'P' => some '\u2029'
  | _ => none

/-- How many hexadecimal digits follow an escape by code. -/
def escapeWidth? : Char → Option Nat
  | 'x' => some 2
  | 'u' => some 4
  | 'U' => some 8
  | _ => none

/-- The number that hexadecimal digits write; none when one of them is no digit. -/
def hexNumber? (cs : List Char) : Option Nat :=
  cs.foldl (fun n c => do return (← n) * 16 + (← hexValue? c)) (some 0)

/-- The character of a code. -/
def codeChar (n : Nat) : Except Stop Char :=
  if n < 0x110000 then .ok (Text.charOfCode n)
  else if n < 2 ^ 31 then .error (.fault (.badValue "chr() arg not in range(0x110000)"))
  else .error (.fault (.overflow "Python int too large to convert to C int"))

/-- The breaks of empty lines inside a flow scalar; a document separator may not stand there. -/
def flowBreaks : Nat → Cursor → Scanned
  | 0, _ => .error .malformed
  | fuel + 1, c =>
    if c.atSeparator then .error .malformed
    else
      let c := c.skipWhile fun ch => ch == ' ' || ch == '\t'
      match c.lineBreak with
      | ([], c) => .ok ([], c)
      | (b, c) => do
        let (bs, c) ← flowBreaks fuel c
        return (b ++ bs, c)

/-- Blanks inside a quoted scalar: as they are within a line, folded across lines. -/
def flowSpaces (fuel : Nat) (c : Cursor) : Scanned :=
  let (blanks, c) := c.takeWhile fun ch => ch == ' ' || ch == '\t'
  if c.rest.isEmpty then .error .malformed
  else
    match c.lineBreak with
    | ([], c) => .ok (blanks, c)
    | (b, c) => do
      let (bs, c) ← flowBreaks fuel c
      if b != ['\n'] then return (b ++ bs, c)
      else if bs.isEmpty then return ([' '], c)
      else return (bs, c)

/-- An escape after its backslash. -/
def flowEscape (fuel : Nat) (c : Cursor) : Scanned :=
  match escapeFor? c.peek with
  | some ch => if c.rest.isEmpty then .error .malformed else .ok ([ch], c.next)
  | none =>
    match escapeWidth? c.peek with
    | some width =>
      let digits := c.next.rest.take width
      match hexNumber? digits with
      | some n =>
        if digits.length = width then do return ([← codeChar n], c.next.forward width)
        else .error .malformed
      | none => .error .malformed
    | none =>
      match c.lineBreak with
      | ([], _) => .error .malformed
      | (_, c) => flowBreaks fuel c

/-- The text of a quoted scalar from after its first quote to its last one. -/
def quotedText (double : Bool) : Nat → Cursor → Scanned
  | 0, _ => .error .malformed
  | fuel + 1, c =>
    let continued (text : List Char) (c : Cursor) : Scanned := do
      let (more, c) ← quotedText double fuel c
      return (text ++ more, c)
    let ch := c.peek
    if c.rest.isEmpty then .error .malformed
    else if ch == ' ' || ch == '\t' || isBreak ch then do
      let (text, c) ← flowSpaces fuel c
      continued text c
    else if double && ch == '"' then .ok ([], c.next)
    else if !double && ch == '\'' then
      if c.peekAt 1 == '\'' then continued ['\''] (c.forward 2) else .ok ([], c.next)
    else if double && ch == '\\' then do
      let (text, c) ← flowEscape fuel c.next
      continued text c
    else continued [ch] c.next

/-! ## Plain scalars -/

/-- Whether a plain scalar ends before the current character, its line going on. -/
def plainStops (flow : Bool) (c : Cursor) : Bool :=
  let ch := c.peek
  isBlankOrEnd ch ||
    (ch == ':' && (let after := c.peekAt 1
      isBlankOrEnd after || (flow && [',', '[', ']', '\x7b', '\x7d'].contains after))) ||
    (flow && [',', '?', '[', ']', '\x7b', '\x7d'].contains ch)

/-- The characters of a plain scalar up to a blank or its end. -/
def plainWord (flow : Bool) : Nat → Cursor → List Char × Cursor
  | 0, c => ([], c)
  | fuel + 1, c =>
    if plainStops flow c then ([], c)
    else
      let (word, c') := plainWord flow fuel c.next
      (c.peek :: word, c')

/-- The breaks of empty lines in a plain scalar; none when a separator ends it. -/
def plainBreaks : Nat → Cursor → Option (List Char) × Cursor
  | 0, c => (none, c)
  | fuel + 1, c =>
    if c.peek == ' ' then plainBreaks fuel c.next
    else
      match c.lineBreak with
      | ([], c) => (some [], c)
      | (b, c) =>
        if c.atSeparator then (none, c)
        else
          match plainBreaks fuel c with
          | (some bs, c) => (some (b ++ bs), c)
          | (none, c) => (none, c)

/-- Space between two words of a plain scalar: the text for it, the cursor, and whether a line
ended. Nothing when no further word can follow. -/
def plainSpaces (fuel : Nat) (c : Cursor) : Option (List Char) × Cursor × Bool :=
  let (spaces, c) := c.takeWhile (· == ' ')
  match c.lineBreak with
  | ([], c) => (if spaces.isEmpty then none else some spaces, c, false)
  | (b, c) =>
    if c.atSeparator then (none, c, true)
    else
      match plainBreaks fuel c with
      | (none, c) => (none, c, true)
      | (some bs, c) =>
        if b != ['\n'] then (some (b ++ bs), c, true)
        else if bs.isEmpty then (some [' '], c, true)
        else (some bs, c, true)

/--
A plain scalar whose lines have to reach the column `indent`: its text, the cursor after it and
after the space that follows it, and whether that space ended a line.
-/
def plainText (flow : Bool) (indent : Int) : Nat → Cursor → List Char × Cursor × Bool
  | 0, c => ([], c, false)
  | fuel + 1, c =>
    if c.peek == '#' then ([], c, false)
    else
      match plainWord flow fuel c with
      | ([], c) => ([], c, false)
      | (word, c) =>
        match plainSpaces fuel c with
        | (none, c, ended) => (word, c, ended)
        | (some spaces, c, ended) =>
          if c.peek == '#' || (!flow && (c.column : Int) < indent) then (word, c, ended)
          else
            match plainText flow indent fuel c with
            | ([], c, _) => (word, c, ended)
            | (more, c, ended) => (word ++ spaces ++ more, c, ended)

/-! ## Block scalars -/

inductive Chomping
  | clip
  | strip
  | keep
deriving DecidableEq

/-- Chomping and indentation indicators in either order. -/
def blockHeader (c : Cursor) : Except Stop (Chomping × Option Nat × Cursor) :=
  let chomp? (c : Cursor) : Option Chomping :=
    if c.peek == '+' then some .keep else if c.peek == '-' then some .strip else none
  let width? (c : Cursor) : Except Stop (Option Nat) :=
    if isDigit c.peek then
      if c.peek == '0' then .error .malformed else .ok (some (c.peek.toNat - '0'.toNat))
    else .ok none
  let finish (chomp : Chomping) (width : Option Nat) (c : Cursor) :=
    if isSpaceOrEnd c.peek then .ok (chomp, width, c) else .error .malformed
  match chomp? c with
  | some chomp => do
    match ← width? c.next with
    | some w => finish chomp (some w) (c.forward 2)
    | none => finish chomp none c.next
  | none => do
    match ← width? c with
    | some w =>
      match chomp? c.next with
      | some chomp => finish chomp (some w) (c.forward 2)
      | none => finish .clip (some w) c.next
    | none => finish .clip none c

/-- The rest of a line that may hold a comment only. -/
def ignoredLine (c : Cursor) : Except Stop Cursor :=
  let c := c.skipSpaces
  let c := if c.peek == '#' then c.skipLine else c
  if isBreakOrEnd c.peek then .ok c.lineBreak.2 else .error .malformed

/-- Leading empty lines, and the widest indentation among them and the first line. -/
def blockIndentation (widest : Nat) : Nat → Cursor → List Char × Nat × Cursor
  | 0, c => ([], widest, c)
  | fuel + 1, c =>
    if c.peek == ' ' then
      let c := c.next
      blockIndentation (max widest c.column) fuel c
    else
      match c.lineBreak with
      | ([], c) => ([], widest, c)
      | (b, c) =>
        let (bs, w, c) := blockIndentation widest fuel c
        (b ++ bs, w, c)

/-- Spaces up to a column. -/
def skipTo (column : Nat) : Nat → Cursor → Cursor
  | 0, c => c
  | fuel + 1, c =>
    if c.column < column && c.peek == ' ' then skipTo column fuel c.next else c

/-- Empty lines between the lines of a block scalar. -/
def blockBreaks (indent : Nat) : Nat → Cursor → List Char × Cursor
  | 0, c => ([], c)
  | fuel + 1, c =>
    let c := skipTo indent (indent + 1) c
    match c.lineBreak with
    | ([], c) => ([], c)
    | (b, c) =>
      let (bs, c) := blockBreaks indent fuel c
      (b ++ bs, c)

/-- The lines of a block scalar, `breaks` being the empty lines before the current one. -/
def blockLines (folded : Bool) (chomp : Chomping) (indent : Nat) :
    Nat → List Char → List Char → Cursor → List Char × Cursor
  | 0, _, _, c => ([], c)
  | fuel + 1, lastBreak, breaks, c =>
    let tail := (if chomp = .strip then [] else lastBreak) ++ (if chomp = .keep then breaks else [])
    if c.column == indent && !c.rest.isEmpty then
      let leads := c.peek != ' ' && c.peek != '\t'
      let (line, c) := c.takeWhile fun ch => !isBreak ch
      let (lineEnd, c) := c.lineBreak
      let (bs, c) := blockBreaks indent fuel c
      let goesOn := c.column == indent && !c.rest.isEmpty
      let joint :=
        if !goesOn then []
        else if folded && lineEnd == ['\n'] && leads && c.peek != ' ' && c.peek != '\t' then
          (if bs.isEmpty then [' '] else [])
        else lineEnd
      let (more, c) := blockLines folded chomp indent fuel lineEnd bs c
      (breaks ++ line ++ joint ++ more, c)
    else (tail, c)

/-- A block scalar after its `|` or `>`, inside a block of indentation `parent`. -/
def blockText (folded : Bool) (parent : Int) (fuel : Nat) (c : Cursor) : Scanned := do
  let (chomp, width, c) ← blockHeader c
  let c ← ignoredLine c
  let least := (max 1 (parent + 1)).toNat
  match width with
  | none =>
    let (breaks, widest, c) := blockIndentation 0 fuel c
    return blockLines folded chomp (max least widest) fuel [] breaks c
  | some w =>
    let indent := least + w - 1
    let (breaks, c) := blockBreaks indent fuel c
    return blockLines folded chomp indent fuel [] breaks c

end SecurityScan.Yaml
