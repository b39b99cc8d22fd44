import SecurityScan.Text.Letter

/-!
# Wrapping text

A text cut into chunks, at blanks and maybe after hyphens, and the chunks put into lines of a
width. A chunk that is wider than a line may be broken.
-/

namespace SecurityScan.Text.Wrap

/-! ## Chunks -/

/-- The blanks at which lines may end. -/
def isSpace (c : Char) : Bool := ['\t', '\n', '\x0b', '\x0c', '\r', ' '].contains c

/-- A character of a word, letters of any script included, that a dash may follow. -/
def isWordMark (c : Char) : Bool :=
  isWordChar c || ['!', '"', '\'', '&', '.', ',', '?'].contains c

def isWordLetter (c : Char) : Bool := isWordChar c && (digitValue? c).isNone

/-- Whether dashes come next, two or more, and then a word. -/
def isDashAhead (cs : List Char) : Bool :=
  let dashes := cs.takeWhile (· == '-')
  2 ≤ dashes.length && match cs.drop dashes.length with
    | c :: _ => isWordChar c
    | [] => false

/-- Whether a hyphen that is the last one of the text `before`, reversed, joins two words: two
letters stand before it, maybe with a hyphen between them, and two after it. -/
def joinsWords (before after : List Char) : Bool :=
  let fromLeft := match before with
    | '-' :: a :: '-' :: b :: _ | '-' :: a :: b :: _ => isWordLetter a && isWordLetter b
    | _ => false
  let toRight := match after with
    | a :: '-' :: b :: _ | a :: b :: _ => isWordLetter a && isWordLetter b
    | _ => false
  fromLeft && toRight

/-- Whether a word ends between what is before, reversed, and what is after. -/
def isWordEnd (before after : List Char) : Bool :=
  (before.head? == some '-' && joinsWords before after) ||
    (match after with
      | [] => true
      | c :: _ => isSpace c) ||
    (before.head?.any isWordMark && isDashAhead after)

/-- The rest of a word. -/
def wordRest (before : List Char) : List Char → List Char
  | [] => []
  | c :: cs =>
    if isWordEnd before (c :: cs) then [] else c :: wordRest (c :: before) cs

/-- The first chunk of a text that is not empty: blanks, a dash between words, or a word. -/
def firstChunk (before : List Char) (cs : List Char) : List Char :=
  match cs with
  | [] => []
  | c :: rest =>
    if isSpace c then cs.takeWhile isSpace
    else if before.head?.any isWordMark && isDashAhead cs then cs.takeWhile (· == '-')
    else c :: wordRest (c :: before) rest

def chunksFrom (before : List Char) : Nat → List Char → List (List Char)
  | _, [] | 0, _ => []
  | fuel + 1, cs =>
    let chunk := firstChunk before cs
    chunk :: chunksFrom (chunk.reverse ++ before) fuel (cs.drop chunk.length)

/-- The chunks of a text, which may end at hyphens. -/
def hyphenChunks (cs : List Char) : List (List Char) := chunksFrom [] cs.length cs

/-- The chunks of a text: runs of blanks and runs of what is no blank. -/
def plainChunks (cs : List Char) : List (List Char) :=
  cs.splitBy fun a b => isSpace a == isSpace b

/-! ## Lines -/

structure Style where
  width : Nat
  /-- Whether what is wider than a line is broken. -/
  breaks : Bool
  /-- Whether it is rather broken after a hyphen. -/
  atHyphens : Bool

def isBlankChunk (cs : List Char) : Bool := cs.all isBlank

/-- The chunks that fit into a width, and those that do not. -/
def fitting (width : Nat) : List (List Char) → List (List Char) × List (List Char)
  | [] => ([], [])
  | c :: cs =>
    if c.length ≤ width then
      let (here, rest) := fitting (width - c.length) cs
      (c :: here, rest)
    else ([], c :: cs)

/-- Where a chunk is broken that has more than `room` characters. -/
def breakPlace (s : Style) (room : Nat) (chunk : List Char) : Nat :=
  let start := chunk.take room
  let head := (start.reverse.dropWhile (· != '-')).drop 1
  if s.atHyphens && room < chunk.length && start.contains '-' && head.any (· != '-') then
    head.length + 1
  else room

/-- One line, its chunks reversed, and the chunks that are left. -/
def lineOf (s : Style) (chunks : List (List Char)) : List (List Char) × List (List Char) :=
  let (here, rest) := fitting s.width chunks
  let line := here.reverse
  match rest with
  | [] => (line, [])
  | chunk :: more =>
    if chunk.length ≤ s.width then (line, rest)
    else if s.breaks then
      let place := breakPlace s (s.width - here.flatten.length) chunk
      (chunk.take place :: line, chunk.drop place :: more)
    else if line.isEmpty then ([chunk], more)
    else (line, rest)

/-- Lines made of chunks. Blanks at the end of a line go, and those that would start one but the
first. -/
def linesOf (s : Style) (isFirst : Bool) : Nat → List (List Char) → List (List Char)
  | 0, _ | _, [] => []
  | fuel + 1, chunk :: more =>
    let chunks := if isBlankChunk chunk && !isFirst then more else chunk :: more
    let (line, rest) := lineOf s chunks
    let kept := match line with
      | last :: before => if isBlankChunk last then before else line
      | [] => []
    if kept.isEmpty then linesOf s isFirst fuel rest
    else kept.reverse.flatten :: linesOf s false fuel rest

/-- The lines of a text; `hyphens` where it may be cut at hyphens. -/
def lines (s : Style) (hyphens : Bool) (cs : List Char) : List (List Char) :=
  linesOf s true (2 * cs.length + 2) (if hyphens then hyphenChunks cs else plainChunks cs)

end SecurityScan.Text.Wrap
