import Mathlib.Data.List.Forall2
import SecurityScan.Proofs.Path

/-!
# Wildcards

Matching is told by rows, one answer for each suffix of a name, and the rows follow the rule of
matching. A pattern without brackets is then read character by character: a star is any run, a
question mark any character, and everything else itself. A slash in such a pattern is matched by a
slash alone, so that a rule with one speaks of whole paths, piece by piece, and a rule without one of
the last piece.
-/

namespace SecurityScan

open Text (splitOn trimLeftBy)

namespace Glob

/-! ## Rows -/

section
variable (ps : List Piece) (c : Char) (cs : List Char)

theorem row_one {p : Piece} (hp : p ≠ .run) :
    row (p :: ps) cs = shiftBy p.takes cs (row ps cs) := by
  cases p with
  | run => exact absurd rfl hp
  | _ => rfl

theorem row_nil : ∃ b, row ps [] = [b] := by
  induction ps with
  | nil => exact ⟨true, rfl⟩
  | cons p ps ih =>
    obtain ⟨b, hb⟩ := ih
    by_cases hp : p = .run
    · exact ⟨b || false, by rw [hp, row, hb]; rfl⟩
    · exact ⟨false, by rw [row_one ps [] hp, hb]; rfl⟩

/-- A row goes on with the row of the text without its first character. -/
theorem row_cons : ∃ b, row ps (c :: cs) = b :: row ps cs := by
  induction ps with
  | nil => exact ⟨false, rfl⟩
  | cons p ps ih =>
    obtain ⟨b, hb⟩ := ih
    by_cases hp : p = .run
    · exact ⟨b || (orFromRight (row ps cs)).headD false, by rw [hp, row, hb]; rfl⟩
    · exact ⟨p.takes c && (row ps cs).headD false, by rw [row_one ps _ hp, row_one ps _ hp, hb]; rfl⟩

theorem matchPieces_run_nil : matchPieces (.run :: ps) [] = matchPieces ps [] := by
  obtain ⟨b, hb⟩ := row_nil ps
  simp [matchPieces, row, hb, orFromRight]

theorem matchPieces_run_cons : matchPieces (.run :: ps) (c :: cs) =
    (matchPieces ps (c :: cs) || matchPieces (.run :: ps) cs) := by
  obtain ⟨b, hb⟩ := row_cons ps c cs
  simp [matchPieces, row, hb, orFromRight]

variable {p : Piece} (hp : p ≠ .run)
include hp

theorem matchPieces_one_nil : matchPieces (p :: ps) [] = false := by
  simp [matchPieces, row_one ps [] hp, shiftBy]

theorem matchPieces_one_cons :
    matchPieces (p :: ps) (c :: cs) = (p.takes c && matchPieces ps cs) := by
  obtain ⟨b, hb⟩ := row_cons ps c cs
  simp [matchPieces, row_one ps _ hp, hb, shiftBy]

end

theorem matchPieces_iff {ps : List Piece} {cs : List Char} :
    matchPieces ps cs = true ↔ Matches ps cs := by
  induction ps generalizing cs with
  | nil =>
    cases cs with
    | nil => exact iff_of_true rfl .nil
    | cons c cs => exact iff_of_false Bool.false_ne_true (by rintro ⟨⟩)
  | cons p ps ih =>
    by_cases hp : p = .run
    · subst hp
      induction cs with
      | nil =>
        rw [matchPieces_run_nil, ih]
        exact ⟨.stop, fun h => by cases h; assumption⟩
      | cons c cs ihc =>
        rw [matchPieces_run_cons, Bool.or_eq_true, ih, ihc]
        constructor
        · rintro (h | h)
          · exact .stop h
          · exact .more h
        · intro h
          cases h with
          | stop h => exact Or.inl h
          | more h => exact Or.inr h
          | one ht => cases ht
    · cases cs with
      | nil =>
        rw [matchPieces_one_nil ps hp]
        refine iff_of_false Bool.false_ne_true fun h => ?_
        cases h
        exact hp rfl
      | cons c cs =>
        rw [matchPieces_one_cons ps c cs hp, Bool.and_eq_true, ih]
        constructor
        · rintro ⟨ht, h⟩
          exact .one ht h
        · intro h
          cases h with
          | stop => exact absurd rfl hp
          | more => exact absurd rfl hp
          | one ht h => exact ⟨ht, h⟩

/-! ## Patterns without brackets -/

/-- What a pattern without brackets matches. -/
inductive Fits : List Char → List Char → Prop
  | nil : Fits [] []
  | run {ps cs : List Char} (run : List Char) : Fits ps cs → Fits ('*' :: ps) (run ++ cs)
  | any {ps cs : List Char} (c : Char) : Fits ps cs → Fits ('?' :: ps) (c :: cs)
  | same {ps cs : List Char} {c : Char} : c ≠ '*' → c ≠ '?' → Fits ps cs → Fits (c :: ps) (c :: cs)

/-- The piece that a character stands for outside brackets. -/
def pieceOf (c : Char) : Piece := if c = '*' then .run else if c = '?' then .any else .exactly c

theorem pieces_eq_map {cs : List Char} (h : '[' ∉ cs) : pieces cs = cs.map pieceOf := by
  induction cs with
  | nil => rfl
  | cons c cs ih =>
    obtain ⟨hc, hcs⟩ := not_or.mp (mt List.mem_cons.mpr h)
    have ih : piecesAfter 0 cs = cs.map pieceOf := ih hcs
    rw [pieces, piecesAfter, ih, List.map_cons, pieceOf]
    by_cases hstar : c = '*'
    · simp [hstar]
    · by_cases hany : c = '?'
      · simp [hany]
      · simp [hstar, hany, Ne.symm hc]

theorem exists_run {ps : List Piece} {cs : List Char} (h : Matches (.run :: ps) cs) :
    ∃ run rest, cs = run ++ rest ∧ Matches ps rest := by
  generalize hq : Piece.run :: ps = qs at h
  induction h with
  | nil => cases hq
  | @stop qs cs h =>
    cases hq
    exact ⟨[], cs, rfl, h⟩
  | @more qs c cs h ih =>
    obtain ⟨run, rest, rfl, hrest⟩ := ih hq
    exact ⟨c :: run, rest, rfl, hrest⟩
  | one ht =>
    cases hq
    cases ht

theorem matches_run {ps : List Piece} {cs : List Char} (h : Matches ps cs) (run : List Char) :
    Matches (.run :: ps) (run ++ cs) := by
  induction run with
  | nil => exact .stop h
  | cons c run ih => exact .more ih

theorem fits_iff_matches {ps cs : List Char} : Fits ps cs ↔ Matches (ps.map pieceOf) cs := by
  constructor
  · intro h
    induction h with
    | nil => exact .nil
    | run run _ ih => exact matches_run ih run
    | any c _ ih => exact .one rfl ih
    | same hstar hany _ ih =>
      refine .one ?_ ih
      simp [pieceOf, hstar, hany, Piece.takes]
  · intro h
    induction ps generalizing cs with
    | nil =>
      cases h
      exact .nil
    | cons c ps ih =>
      rw [List.map_cons] at h
      by_cases hstar : c = '*'
      · subst hstar
        obtain ⟨run, rest, rfl, hrest⟩ := exists_run h
        exact .run run (ih hrest)
      · rw [pieceOf, if_neg hstar] at h
        by_cases hany : c = '?'
        · subst hany
          cases h with
          | one _ h => exact .any _ (ih h)
        · rw [if_neg hany] at h
          cases h with
          | one ht h =>
            obtain rfl := eq_of_beq ht
            exact .same hstar hany (ih h)

section
variable {ps cs : List Char}

/-- A character that is no wildcard is found in all that the pattern matches. -/
theorem mem_of_fits (h : Fits ps cs) {c : Char} (hstar : c ≠ '*') (hany : c ≠ '?') (hc : c ∈ ps) :
    c ∈ cs := by
  induction h with
  | nil => cases hc
  | run run _ ih => exact List.mem_append_right run (ih ((List.mem_cons.mp hc).resolve_left hstar))
  | any d _ ih => exact List.mem_cons_of_mem d (ih ((List.mem_cons.mp hc).resolve_left hany))
  | same _ _ _ ih =>
    obtain rfl | hc := List.mem_cons.mp hc
    · exact List.mem_cons_self
    · exact List.mem_cons_of_mem _ (ih hc)

end

theorem matchName_iff {pattern : String} (h : '[' ∉ pattern.toList) (name : String) :
    matchName pattern name = true ↔ Fits pattern.toList name.toList := by
  rw [matchName, matchPieces_iff, pieces_eq_map h, fits_iff_matches]

/-- Both have as many pieces between slashes, and they match one by one. -/
theorem matchPath_iff {pattern : String} (h : '[' ∉ pattern.toList) (path : String) :
    matchPath pattern path = true ↔ List.Forall₂ (fun p s : String => Fits p.toList s.toList)
      (splitOn '/' pattern) (splitOn '/' path) := by
  have hpiece : ∀ p ∈ splitOn '/' pattern, '[' ∉ p.toList := by
    intro p hp hb
    obtain ⟨cs, hcs, rfl⟩ := List.mem_map.mp hp
    exact h (Text.mem_of_mem_splitOnChar hcs (by simpa using hb))
  simp only [matchPath, Bool.and_eq_true, beq_iff_eq, List.all_eq_true, Prod.forall,
    List.forall₂_iff_zip]
  refine and_congr_right fun _ => forall_congr' fun p => forall_congr' fun s => ?_
  exact imp_congr_right fun hmem => matchName_iff (hpiece p (List.of_mem_zip hmem).1) s

end Glob

/-! ## Rules -/

namespace Path

theorem getLast?_pieces (p : String) : (splitOn '/' p).getLast? = some (baseName p) := by
  obtain ⟨last, hlast⟩ : ∃ last, (splitOn '/' p).getLast? = some last := by
    have hne : splitOn '/' p ≠ [] := by simpa [splitOn] using Text.splitOnChar_ne_nil '/' p.toList
    exact ⟨_, List.getLast?_eq_some_getLast hne⟩
  rw [baseName, Text.afterLast, hlast, Option.getD_some]

theorem slash_not_mem_baseName (p : String) : '/' ∉ (baseName p).toList := by
  obtain ⟨cs, hcs, hbase⟩ := List.mem_map.mp (List.mem_of_getLast? (getLast?_pieces p))
  rw [← hbase, String.toList_ofList]
  exact Text.not_mem_of_mem_splitOnChar hcs

end Path

namespace IgnoreRule

/-- **Wildcards keep to the pieces between slashes.** A rule whose pattern has no slash speaks of the
paths whose last piece matches the pattern, however deep they lie. A rule whose pattern has one speaks
of the paths with as many pieces as the pattern that match it piece by piece; the last piece of a path
never matches such a pattern as a whole. -/
theorem wildcards_keep_to_pieces {rule : IgnoreRule} (hd : rule.directoryScoped = false)
    (hb : '[' ∉ rule.pattern.toList) (rel : String) :
    let pattern := String.ofList (trimLeftBy (· == '/') rule.pattern.toList)
    ('/' ∉ pattern.toList → (rule.applies rel = true ↔
      ∃ last ∈ (splitOn '/' rel).getLast?, Glob.Fits pattern.toList last.toList)) ∧
    ('/' ∈ pattern.toList →
      (rule.applies rel = true ↔ List.Forall₂ (fun p s : String => Glob.Fits p.toList s.toList)
        (splitOn '/' pattern) (splitOn '/' rel)) ∧
      Glob.matchName pattern (Path.baseName rel) = false) := by
  intro pattern
  have hpattern : '[' ∉ pattern.toList := by
    rw [String.toList_ofList]
    exact fun h => hb ((List.dropWhile_suffix _).subset h)
  have happlies : rule.applies rel = true ↔
      Glob.matchPath pattern rel = true ∨ Glob.matchName pattern (Path.baseName rel) = true := by
    rw [applies, if_neg (by simp [hd]), Bool.or_eq_true]
  rw [happlies, Glob.matchPath_iff hpattern, Path.getLast?_pieces]
  constructor
  · intro hslash
    rw [Text.splitOn_of_not_mem hslash, Glob.matchName_iff hpattern]
    constructor
    · rintro (h | h)
      · -- a path of one piece is its own last piece
        obtain ⟨s, ss, hfit, hnil, hs⟩ := List.forall₂_cons_left_iff.mp h
        have hlast := Path.getLast?_pieces rel
        rw [hs, List.forall₂_nil_left_iff.mp hnil] at hlast
        exact ⟨s, hlast.symm, hfit⟩
      · exact ⟨_, rfl, h⟩
    · rintro ⟨last, hlast, h⟩
      obtain rfl := Option.some.inj hlast
      exact Or.inr h
  · intro hslash
    have hname : ¬Glob.matchName pattern (Path.baseName rel) = true := by
      intro h
      exact Path.slash_not_mem_baseName rel (Glob.mem_of_fits
        ((Glob.matchName_iff hpattern _).mp h) (by decide) (by decide) hslash)
    exact ⟨or_iff_left hname, Bool.eq_false_iff.mpr hname⟩

/-- A pattern with a slash is not looked for in the last piece, and one without is looked for at every
depth. -/
theorem wildcards_keep_to_pieces_partials :
    let rooted : IgnoreRule := ⟨"/app/*/_?.erb", false, false⟩
    let anywhere : IgnoreRule := ⟨"/_*.erb", true, false⟩
    rooted.directoryScoped = false ∧ '[' ∉ rooted.pattern.toList ∧
    rooted.applies "app/views/_a.erb" = true ∧ rooted.applies "app/views/x/_a.erb" = false ∧
    anywhere.directoryScoped = false ∧ '[' ∉ anywhere.pattern.toList ∧
    anywhere.applies "app/views/x/_row.erb" = true := by
  intro rooted anywhere
  have hd : rooted.directoryScoped = false := rfl
  have hb : '[' ∉ rooted.pattern.toList := by decide
  have hd' : anywhere.directoryScoped = false := rfl
  have hb' : '[' ∉ anywhere.pattern.toList := by decide
  have hin : rooted.applies "app/views/_a.erb" = true := by
    refine ((wildcards_keep_to_pieces hd hb _).2 (by decide)).1.mpr ?_
    have hpattern : splitOn '/' (String.ofList (trimLeftBy (· == '/') rooted.pattern.toList)) =
        ["app", "*", "_?.erb"] := by decide
    have hrel : splitOn '/' "app/views/_a.erb" = ["app", "views", "_a.erb"] := by decide
    have hfits : ∀ p s : String, '[' ∉ p.toList → Glob.matchName p s = true →
        Glob.Fits p.toList s.toList := fun p s hp => (Glob.matchName_iff hp s).mp
    rw [hpattern, hrel]
    exact .cons (hfits _ _ (by decide) (by decide)) (.cons (hfits _ _ (by decide) (by decide))
      (.cons (hfits _ _ (by decide) (by decide)) .nil))
  have hout : ¬rooted.applies "app/views/x/_a.erb" = true := by
    rw [((wildcards_keep_to_pieces hd hb _).2 (by decide)).1]
    intro h
    exact absurd h.length_eq (by decide)
  have hdeep : anywhere.applies "app/views/x/_row.erb" = true :=
    ((wildcards_keep_to_pieces hd' hb' _).1 (by decide)).mpr
      ⟨"_row.erb", by decide, (Glob.matchName_iff (by decide) "_row.erb").mp (by decide)⟩
  exact ⟨hd, hb, hin, Bool.eq_false_iff.mpr hout, hd', hb', hdeep⟩

end IgnoreRule

end SecurityScan
