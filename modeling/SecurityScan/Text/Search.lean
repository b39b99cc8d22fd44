import SecurityScan.Text.CharClass

/-!
# Searching in text

Where a piece occurs in a text, and the text cut or changed at these places. Occurrences are
counted without overlaps, from the front or from the back. A limit on their number is none when
there is no limit.
-/

namespace SecurityScan.Text

/-- The first place at which `piece` occurs. -/
def findIn? (piece : List Char) : List Char → Option Nat
  | [] => if piece.isEmpty then some 0 else none
  | c :: cs => if piece.isPrefixOf (c :: cs) then some 0 else (findIn? piece cs).map (· + 1)

/-- The last place at which `piece` occurs. -/
def findLastIn? (piece cs : List Char) : Option Nat :=
  (findIn? piece.reverse cs.reverse).map (cs.length - piece.length - ·)

def occursIn (piece cs : List Char) : Bool := (findIn? piece cs).isSome

/-- How often a piece occurs; an empty one stands around every character. -/
def countIn (piece cs : List Char) : Nat :=
  if piece.isEmpty then cs.length + 1 else go 0 cs
where
  go (skip : Nat) : List Char → Nat
    | [] => 0
    | c :: cs =>
      match skip with
      | n + 1 => go n cs
      | 0 => if piece.isPrefixOf (c :: cs) then 1 + go (piece.length - 1) cs else go 0 cs

/-- One less of a limit. -/
def lessOne : Option Nat → Option Nat := Option.map (· - 1)

/-- The text with the first occurrences of `old` made `new`, `skip` characters being dropped. -/
def replaceIn (old new : List Char) (skip : Nat) (left : Option Nat) : List Char → List Char
  | [] => if old.isEmpty && left != some 0 then new else []
  | c :: cs =>
    match skip with
    | n + 1 => replaceIn old new n left cs
    | 0 =>
      if left == some 0 || !old.isPrefixOf (c :: cs) then c :: replaceIn old new 0 left cs
      else if old.isEmpty then new ++ c :: replaceIn old new 0 (lessOne left) cs
      else new ++ replaceIn old new (old.length - 1) (lessOne left) cs

/-! ## Pieces between separators -/

/-- The pieces between occurrences of a separator, which is not empty; `piece` is the reversed
start of the first one. -/
def piecesFrom (sep piece : List Char) (skip : Nat) (left : Option Nat) :
    List Char → List (List Char)
  | [] => [piece.reverse]
  | c :: cs =>
    match skip with
    | n + 1 => piecesFrom sep piece n left cs
    | 0 =>
      if left != some 0 && sep.isPrefixOf (c :: cs) then
        piece.reverse :: piecesFrom sep [] (sep.length - 1) (lessOne left) cs
      else piecesFrom sep (c :: piece) 0 left cs

def piecesBetween (sep : List Char) (left : Option Nat) (cs : List Char) : List (List Char) :=
  piecesFrom sep [] 0 left cs

/-- Pieces that are found from the back. -/
def fromBack (pieces : List Char → List (List Char)) (cs : List Char) : List (List Char) :=
  ((pieces cs.reverse).map List.reverse).reverse

/-- The words of a text, as many as the limit says; what is left is one more piece. -/
def wordsFrom (fuel : Nat) (left : Option Nat) (cs : List Char) : List (List Char) :=
  match fuel, trimLeftBy isBlank cs with
  | 0, _ | _, [] => []
  | fuel + 1, cs =>
    if left == some 0 then [trimRightBy isBlank cs]
    else
      let word := cs.takeWhile fun c => !isBlank c
      word :: wordsFrom fuel (lessOne left) (cs.drop word.length)

def words (left : Option Nat) (cs : List Char) : List (List Char) :=
  wordsFrom (cs.length + 1) left cs

/-! ## Parts around a separator -/

/-- The text before, at and after the first separator. -/
def partsAround (sep cs : List Char) : List Char × List Char × List Char :=
  match findIn? sep cs with
  | some n => (cs.take n, sep, cs.drop (n + sep.length))
  | none => (cs, [], [])

/-- The text before, at and after the last separator. -/
def partsAroundLast (sep cs : List Char) : List Char × List Char × List Char :=
  match findLastIn? sep cs with
  | some n => (cs.take n, sep, cs.drop (n + sep.length))
  | none => ([], [], cs)

/-! ## Lines -/

/-- The lines of a text with what ends them; `line` is the reversed start of the first one. -/
def fullLinesFrom (isEnd : Char → Bool) (line : List Char) : List Char → List (List Char)
  | [] => if line.isEmpty then [] else [line.reverse]
  | '\r' :: '\n' :: cs => ('\n' :: '\r' :: line).reverse :: fullLinesFrom isEnd [] cs
  | c :: cs =>
    if isEnd c then (c :: line).reverse :: fullLinesFrom isEnd [] cs
    else fullLinesFrom isEnd (c :: line) cs

def fullLines (cs : List Char) : List (List Char) := fullLinesFrom isLineBoundary [] cs

/-! ## Columns -/

/-- Tabs made blanks, up to the next place that `width` divides; `column` is where a line is. -/
def tabsExpanded (width column : Nat) : List Char → List Char
  | [] => []
  | '\t' :: cs =>
    let room := if width = 0 then 0 else width - column % width
    List.replicate room ' ' ++ tabsExpanded width (column + room) cs
  | c :: cs => c :: tabsExpanded width (if c == '\n' || c == '\r' then 0 else column + 1) cs

/-- Text in the middle of a width, an odd place being left where the width is odd. -/
def centered (width : Nat) (fill : Char) (cs : List Char) : List Char :=
  let room := width - cs.length
  let left := room / 2 + (if room % 2 == 1 && width % 2 == 1 then 1 else 0)
  List.replicate left fill ++ cs ++ List.replicate (room - left) fill

def paddedLeft (width : Nat) (fill : Char) (cs : List Char) : List Char :=
  List.replicate (width - cs.length) fill ++ cs

def paddedRight (width : Nat) (fill : Char) (cs : List Char) : List Char :=
  cs ++ List.replicate (width - cs.length) fill

/-- Zeros in front of a text, after its sign. -/
def zeroFilled (width : Nat) (cs : List Char) : List Char :=
  let zeros := List.replicate (width - cs.length) '0'
  match cs with
  | '-' :: ds => '-' :: zeros ++ ds
  | '+' :: ds => '+' :: zeros ++ ds
  | ds => zeros ++ ds

end SecurityScan.Text
