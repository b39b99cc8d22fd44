import SecurityScan.Fault

/-!
# Places in a YAML text

A cursor is what is left of a text together with the line and the column where it starts. At the
end of the text the current character is the null character, which no YAML text holds.
-/

namespace SecurityScan.Yaml

structure Cursor where
  rest : List Char
  index : Nat
  line : Nat
  column : Nat

/-- Why a text is not read: it breaks a rule of YAML, or a value in it cannot be made. -/
inductive Stop
  | malformed
  | fault (f : Fault)
deriving DecidableEq

def endMark : Char := '\x00'

def isBreak (c : Char) : Bool :=
  c == '\n' || c == '\r' || c == '\x85' || c == '\u2028' || c == '\u2029'

def isBreakOrEnd (c : Char) : Bool := c == endMark || isBreak c

/-- The end, a space or a line break. -/
def isSpaceOrEnd (c : Char) : Bool := c == ' ' || isBreakOrEnd c

/-- The end, a space, a tab or a line break. -/
def isBlankOrEnd (c : Char) : Bool := c == '\t' || isSpaceOrEnd c

/-- The characters that a YAML text may hold. -/
def isAllowed (c : Char) : Bool :=
  let n := c.toNat
  n == 9 || n == 10 || n == 13 || (0x20 ≤ n && n ≤ 0x7E) || n == 0x85 ||
    (0xA0 ≤ n && n ≤ 0xD7FF) || (0xE000 ≤ n && n ≤ 0xFFFD) || 0x10000 ≤ n

namespace Cursor

def ofText (cs : List Char) : Cursor := ⟨cs, 0, 0, 0⟩

/-- The character `k` places on. -/
def peekAt (c : Cursor) (k : Nat) : Char := (c.rest.drop k).headD endMark

def peek (c : Cursor) : Char := c.rest.headD endMark

/-- One character on. A byte order mark takes no column. -/
def next (c : Cursor) : Cursor :=
  match c.rest with
  | [] => c
  | ch :: rest =>
    if ch == '\n' || ch == '\x85' || ch == '\u2028' || ch == '\u2029' ||
        (ch == '\r' && rest.head? != some '\n') then
      ⟨rest, c.index + 1, c.line + 1, 0⟩
    else ⟨rest, c.index + 1, c.line, if ch == '\uFEFF' then c.column else c.column + 1⟩

def forward (n : Nat) (c : Cursor) : Cursor :=
  match n with
  | 0 => c
  | n + 1 => forward n c.next

/-- The characters for which `p` holds, and the cursor after them. -/
def takeWhile (c : Cursor) (p : Char → Bool) : List Char × Cursor :=
  let taken := c.rest.takeWhile p
  (taken, c.forward taken.length)

def skipWhile (c : Cursor) (p : Char → Bool) : Cursor := (c.takeWhile p).2

def skipSpaces (c : Cursor) : Cursor := c.skipWhile (· == ' ')

/-- To the end of the line. -/
def skipLine (c : Cursor) : Cursor := c.skipWhile fun ch => !isBreak ch

/-- A line break as text, empty when there is none: all but two separators become a newline. -/
def lineBreak (c : Cursor) : List Char × Cursor :=
  let ch := c.peek
  if ch == '\r' && c.peekAt 1 == '\n' then (['\n'], c.forward 2)
  else if ch == '\r' || ch == '\n' || ch == '\x85' then (['\n'], c.next)
  else if ch == '\u2028' || ch == '\u2029' then ([ch], c.next)
  else ([], c)

/-- Whether `---` or `...` stands here on its own. -/
def atSeparator (c : Cursor) : Bool :=
  let start := c.rest.take 3
  (start == ['-', '-', '-'] || start == ['.', '.', '.']) && isBlankOrEnd (c.peekAt 3)

end Cursor

end SecurityScan.Yaml
