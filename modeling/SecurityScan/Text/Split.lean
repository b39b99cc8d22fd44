/-!
# Splitting and joining

A text cut at every occurrence of one character, and pieces put together again.
-/

namespace SecurityScan.Text

/-- The pieces of `cs` between the occurrences of `sep`; there is always one. -/
def splitOnChar (sep : Char) : List Char → List (List Char)
  | [] => [[]]
  | c :: cs =>
    if c = sep then [] :: splitOnChar sep cs
    else
      match splitOnChar sep cs with
      | [] => [[c]]
      | p :: ps => (c :: p) :: ps

/-- The pieces with `sep` between them. -/
def joinWithChar (sep : Char) : List (List Char) → List Char
  | [] => []
  | [p] => p
  | p :: ps => p ++ sep :: joinWithChar sep ps

theorem splitOnChar_ne_nil (sep : Char) (cs : List Char) : splitOnChar sep cs ≠ [] := by
  cases cs with
  | nil => simp [splitOnChar]
  | cons c cs =>
    simp only [splitOnChar]
    split
    · simp
    · split <;> simp

theorem joinWithChar_splitOnChar (sep : Char) (cs : List Char) :
    joinWithChar sep (splitOnChar sep cs) = cs := by
  induction cs with
  | nil => rfl
  | cons c cs ih =>
    simp only [splitOnChar]
    cases h : splitOnChar sep cs with
    | nil => exact absurd h (splitOnChar_ne_nil sep cs)
    | cons p ps =>
      rw [h] at ih
      by_cases hc : c = sep
      · simp [hc, joinWithChar, ih]
      · cases ps with
        | nil => simp only [joinWithChar] at ih; simp [hc, joinWithChar, ih]
        | cons q qs => simp only [joinWithChar] at ih; simp [hc, joinWithChar, ← ih]

def splitOn (sep : Char) (s : String) : List String :=
  (splitOnChar sep s.toList).map String.ofList

def joinWith (sep : Char) (ps : List String) : String :=
  String.ofList (joinWithChar sep (ps.map String.toList))

/-- The last piece. -/
def afterLast (sep : Char) (s : String) : String := (splitOn sep s).getLast?.getD ""

/-- Whether `cs` starts with `p`. -/
def startsWith (s p : String) : Bool := p.toList.isPrefixOf s.toList

def endsWith (s p : String) : Bool := p.toList.isSuffixOf s.toList

end SecurityScan.Text
