import SecurityScan.Text.CharClass

/-!
# Lines

A text cut at its line boundaries, and the one kind of newline that reading a text file leaves.
-/

namespace SecurityScan.Text

/-- The lines of `cs` without their boundaries; `line` is the reversed start of the first one. -/
def linesFrom (line : List Char) : List Char → List (List Char)
  | [] => if line.isEmpty then [] else [line.reverse]
  | '\r' :: '\n' :: cs => line.reverse :: linesFrom [] cs
  | c :: cs =>
    if isLineBoundary c then line.reverse :: linesFrom [] cs else linesFrom (c :: line) cs

/-- The lines of a text; a boundary at the very end opens no further line. -/
def splitLines (s : String) : List String := (linesFrom [] s.toList).map String.ofList

/-- `"\r\n"` and a lone `"\r"` become `"\n"`. -/
def newlinesUnified : List Char → List Char
  | [] => []
  | '\r' :: '\n' :: cs => '\n' :: newlinesUnified cs
  | c :: cs => (if c = '\r' then '\n' else c) :: newlinesUnified cs

theorem not_mem_newlinesUnified (cs : List Char) : '\r' ∉ newlinesUnified cs := by
  fun_induction newlinesUnified cs with
  | case1 => simp
  | case2 cs ih => simp [ih]
  | case3 c cs _ ih => by_cases h : c = '\r' <;> simp [h, ih, Ne.symm]

end SecurityScan.Text
