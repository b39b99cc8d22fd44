import SecurityScan.Text.Split

/-!
# Glob patterns

`*` stands for any run of characters, `?` for any one character and `[…]` for one character of a
set. Matching goes from the end of the pattern: one row of answers for every suffix of the text.
-/

namespace SecurityScan.Glob

/-- Characters and ranges, or all but those. -/
structure CharSet where
  negated : Bool
  chars : List Char
  spans : List (Char × Char)
deriving DecidableEq

def CharSet.has (s : CharSet) (c : Char) : Bool :=
  (s.chars.contains c || s.spans.any fun r => r.1 ≤ c && c ≤ r.2) != s.negated

inductive Piece
  | exactly (c : Char)
  | any
  | oneOf (set : CharSet)
  | never
  | run
deriving DecidableEq

/-! ## Brackets -/

/-- The number of characters between `[` and the `]` that closes it, which may not come first. -/
def bracketLength (cs : List Char) : Option Nat :=
  let bang := if cs.head? == some '!' then 1 else 0
  let first := if (cs.drop bang).head? == some ']' then bang + 1 else bang
  ((cs.drop first).findIdx? (· == ']')).map (first + ·)

/--
The characters of a set between the hyphens that make ranges. A hyphen among the first `lead`
characters makes none, and one at the end is a character.
-/
def hyphenPieces (fuel lead : Nat) (cs : List Char) : List (List Char) :=
  match fuel with
  | 0 => [cs]
  | fuel + 1 =>
    match (cs.drop lead).findIdx? (· == '-') with
    | none => [cs]
    | some k =>
      match cs.drop (lead + k + 1) with
      | [] => [cs.take (lead + k) ++ ['-']]
      | more => cs.take (lead + k) :: hyphenPieces fuel 2 more

/-- A range that ends before it starts is taken out, together with its two ends. -/
def dropEmptySpans : List (List Char) → List (List Char)
  | [] => []
  | p :: ps =>
    match dropEmptySpans ps with
    | [] => [p]
    | q :: qs =>
      match p.getLast?, q.head? with
      | some a, some b => if b < a then (p.dropLast ++ q.tail) :: qs else p :: q :: qs
      | _, _ => p :: q :: qs

/-- The ranges between neighbours. -/
def spansOf : List (List Char) → List (Char × Char)
  | p :: q :: ps =>
    match p.getLast?, q.head? with
    | some a, some b => (a, b) :: spansOf (q :: ps)
    | _, _ => spansOf (q :: ps)
  | _ => []

/-- The piece that the text between the brackets stands for. -/
def bracketPiece (text : List Char) : Piece :=
  let pieces :=
    match text with
    | '!' :: rest =>
      match hyphenPieces rest.length 1 rest with
      | [] => [['!']]
      | p :: ps => ('!' :: p) :: ps
    | _ => hyphenPieces text.length 1 text
  match dropEmptySpans pieces with
  | [] | [[]] => .never
  | [['!']] => .any
  | ('!' :: p) :: ps =>
    -- a negation sign in front of a hyphen leaves the hyphen as a character of its own
    let hyphen := if p.isEmpty && !ps.isEmpty then ['-'] else []
    .oneOf ⟨true, hyphen ++ (p :: ps).flatten, spansOf (p :: ps)⟩
  | ps => .oneOf ⟨false, ps.flatten, spansOf ps⟩

/-! ## Patterns -/

/-- The pieces of a pattern whose first `skip` characters are already read. -/
def piecesAfter (skip : Nat) : List Char → List Piece
  | [] => []
  | c :: cs =>
    match skip with
    | n + 1 => piecesAfter n cs
    | 0 =>
      if c == '*' then .run :: piecesAfter 0 cs
      else if c == '?' then .any :: piecesAfter 0 cs
      else if c == '[' then
        match bracketLength cs with
        | some n => bracketPiece (cs.take n) :: piecesAfter (n + 1) cs
        | none => .exactly '[' :: piecesAfter 0 cs
      else .exactly c :: piecesAfter 0 cs

def pieces (pattern : List Char) : List Piece := piecesAfter 0 pattern

/-- Whether a piece other than a run takes a character. -/
def Piece.takes : Piece → Char → Bool
  | .exactly d, c => c == d
  | .any, _ => true
  | .oneOf s, c => s.has c
  | .never, _ => false
  | .run, _ => false

/-- The rule of matching: a run takes any characters, every other piece takes one. -/
inductive Matches : List Piece → List Char → Prop
  | nil : Matches [] []
  | stop {ps cs} : Matches ps cs → Matches (.run :: ps) cs
  | more {ps c cs} : Matches (.run :: ps) cs → Matches (.run :: ps) (c :: cs)
  | one {p ps c cs} : p.takes c = true → Matches ps cs → Matches (p :: ps) (c :: cs)

/-- For each place, whether some answer from there on is yes. -/
def orFromRight : List Bool → List Bool
  | [] => []
  | b :: bs =>
    let later := orFromRight bs
    (b || later.headD false) :: later

/-- A character is taken where the answer at the next place is yes; the last place takes none. -/
def shiftBy (takes : Char → Bool) : List Char → List Bool → List Bool
  | c :: cs, _ :: bs => (takes c && bs.headD false) :: shiftBy takes cs bs
  | _, _ => [false]

/-- Whether `ps` matches `cs`, the text without its first character, and so on to the empty text. -/
def row : List Piece → List Char → List Bool
  | [], cs => cs.map (fun _ => false) ++ [true]
  | .run :: ps, cs => orFromRight (row ps cs)
  | p :: ps, cs => shiftBy p.takes cs (row ps cs)

def matchPieces (ps : List Piece) (cs : List Char) : Bool := (row ps cs).headD false

/-- Whether a name matches a pattern; a run crosses any character. -/
def matchName (pattern name : String) : Bool := matchPieces (pieces pattern.toList) name.toList

/-- Component by component, so that nothing but a slash matches a slash. -/
def matchPath (pattern path : String) : Bool :=
  let ps := Text.splitOn '/' pattern
  let cs := Text.splitOn '/' path
  ps.length == cs.length && (ps.zip cs).all fun pc => matchName pc.1 pc.2

end SecurityScan.Glob
