import SecurityScan.Text.CharClass

/-!
# Patterns

What a text is to look like, and the ways in which it can start so. A pattern is followed in all
ways at once, so what it asks for last can still fail what it found first.
-/

namespace SecurityScan.Text

inductive Pattern
  /-- One character of a class. -/
  | one (p : Char → Bool)
  | then (a b : Pattern)
  | either (a b : Pattern)
  /-- Between `least` and `least + more` times. -/
  | times (least more : Nat) (p : Pattern)
  /-- As often as wanted. -/
  | many (p : Pattern)

namespace Pattern

def nothing : Pattern := .times 0 0 (.one fun _ => false)

/-- One after the other. -/
def all (ps : List Pattern) : Pattern := ps.foldr .then nothing

/-- One of several, at least one of which is there. -/
def anyOf (p : Pattern) (ps : List Pattern) : Pattern := ps.foldl .either p

def optional (p : Pattern) : Pattern := .times 0 1 p

def atLeastOne (p : Pattern) : Pattern := .then p (.many p)

/-- The characters of a word, as `same` compares them. -/
def word (same : Char → Char → Bool) (s : String) : Pattern :=
  all (s.toList.map fun c => .one (same c))

/-- Rests of a text, those of one length once. -/
def distinct (rests : List (List Char)) : List (List Char) :=
  rests.foldr (fun r found => if found.any (·.length == r.length) then found else r :: found) []

/-- The rests after so many steps more, the ones reached before being kept. -/
def reached (step : List Char → List (List Char)) : Nat → List (List Char) → List (List Char)
  | 0, rests => rests
  | n + 1, rests =>
    if rests.isEmpty then [] else distinct (rests ++ reached step n (distinct (rests.flatMap step)))

/-- The rests after exactly so many steps. -/
def stepped (step : List Char → List (List Char)) : Nat → List (List Char) → List (List Char)
  | 0, rests => rests
  | n + 1, rests => stepped step n (distinct (rests.flatMap step))

/-- What can be left of a text whose start looks like a pattern. -/
def rests : Pattern → List Char → List (List Char)
  | .one p, c :: cs => if p c then [cs] else []
  | .one _, [] => []
  | .then a b, cs => distinct ((a.rests cs).flatMap b.rests)
  | .either a b, cs => distinct (a.rests cs ++ b.rests cs)
  | .times least more p, cs => reached p.rests more (stepped p.rests least [cs])
  | .many p, cs => reached p.rests cs.length [cs]

/-- Whether a whole text looks like a pattern. -/
def fits (p : Pattern) (cs : List Char) : Bool := (p.rests cs).any (·.isEmpty)

end Pattern

end SecurityScan.Text
