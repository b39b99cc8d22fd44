import SecurityScan.Proofs.Path
import SecurityScan.Proofs.RuleLine

/-!
# Directory rules

A directory rule speaks of a path when the pieces of its directory, between the slashes, are the
first pieces of the path. So it speaks of all that is beneath such a path and of nothing beside it,
and its directory is all there is to tell about what it speaks of.
-/

namespace SecurityScan

namespace Text

/-! ## Pieces in front -/

theorem splitOnChar_prefix_iff {sep : Char} {ds cs : List Char} :
    splitOnChar sep ds <+: splitOnChar sep cs ↔ cs = ds ∨ ds ++ [sep] <+: cs := by
  constructor
  · rintro ⟨rest, hrest⟩
    have hjoin := joinWithChar_splitOnChar sep cs
    rw [← hrest] at hjoin
    by_cases hne : rest = []
    · rw [hne, List.append_nil, joinWithChar_splitOnChar] at hjoin
      exact Or.inl hjoin.symm
    · rw [joinWithChar_append (splitOnChar_ne_nil sep ds) hne, joinWithChar_splitOnChar] at hjoin
      exact Or.inr ⟨joinWithChar sep rest, by rw [← hjoin]; simp⟩
  · rintro (rfl | ⟨rest, rfl⟩)
    · exact List.prefix_rfl
    · rw [List.append_assoc, List.singleton_append, splitOnChar_append]
      exact List.prefix_append ..

theorem splitOn_prefix_iff {d s : String} :
    splitOn '/' d <+: splitOn '/' s ↔ s = d ∨ startsWith s (d ++ "/") = true := by
  rw [splitOn, splitOn, List.prefix_map_iff_of_injective fun _ _ => String.ofList_injective,
    splitOnChar_prefix_iff, String.toList_inj, startsWith, List.isPrefixOf_iff_prefix,
    String.toList_append]
  rfl

theorem splitOn_injective {sep : Char} {s t : String} (h : splitOn sep s = splitOn sep t) : s = t := by
  have hchars : splitOnChar sep s.toList = splitOnChar sep t.toList :=
    (List.map_inj_right fun _ _ => String.ofList_injective).mp h
  rw [← String.toList_inj, ← joinWithChar_splitOnChar sep s.toList, hchars,
    joinWithChar_splitOnChar]

end Text

namespace IgnoreRule

open Text (splitOn startsWith trimBy trimLeftBy)

/-! ## The directory of a rule -/

/-- What a directory rule names: its pattern without the slashes in front. -/
def directory (rule : IgnoreRule) : String :=
  String.ofList (trimLeftBy (· == '/') rule.pattern.toList)

section
variable {line : String} {rule : IgnoreRule} (h : ofLine? line = some rule)
include h

/-- A rule is compared without slashes at either end, but those in front are all there are. -/
theorem trimmed_eq_directory :
    String.ofList (trimBy (· == '/') rule.pattern.toList) = rule.directory := by
  rw [directory, Text.trimBy_of_getLast? fun _ => (isNormal_of_ofLine? h).not_slash_of_getLast?]

variable (hd : rule.directoryScoped = true)
include hd

theorem applies_directory_eq (rel : String) :
    rule.applies rel = (rel == rule.directory || startsWith rel (rule.directory ++ "/")) := by
  rw [applies, if_pos hd, trimmed_eq_directory h]

theorem applies_iff_pieces (rel : String) :
    rule.applies rel = true ↔ splitOn '/' rule.directory <+: splitOn '/' rel := by
  rw [applies_directory_eq h hd, Bool.or_eq_true, beq_iff_eq, Text.splitOn_prefix_iff]

theorem applies_directory : rule.applies rule.directory = true :=
  (applies_iff_pieces h hd _).mpr List.prefix_rfl

theorem applies_append_iff (more : String) :
    rule.applies (rule.directory ++ more) = true ↔ more = "" ∨ startsWith more "/" = true := by
  rw [applies_directory_eq h hd, Bool.or_eq_true, beq_iff_eq]
  refine or_congr ?_ ?_
  · simp
  · simp [startsWith, List.isPrefixOf_iff_prefix]

end

/-- **A directory rule speaks of a subtree.** It speaks of the paths of which its directory makes up
the first pieces. With a path it speaks of all that is beneath it; of the paths that only begin with
the text of the directory it speaks of none, and two directory rules speak of the same paths when
they have one directory. -/
theorem directory_speaks_of_subtree {line : String} {rule : IgnoreRule}
    (h : ofLine? line = some rule) (hd : rule.directoryScoped = true) :
    String.ofList (trimBy (· == '/') rule.pattern.toList) = rule.directory ∧
    (∀ rel, rule.applies rel = true ↔ splitOn '/' rule.directory <+: splitOn '/' rel) ∧
    (∀ rel more, rule.applies rel = true → rule.applies (rel ++ "/" ++ more) = true) ∧
    (∀ more, rule.applies (rule.directory ++ more) = true ↔
      more = "" ∨ startsWith more "/" = true) ∧
    ∀ other line', ofLine? line' = some other → other.directoryScoped = true →
      ((∀ rel, rule.applies rel = other.applies rel) ↔ rule.directory = other.directory) := by
  refine ⟨trimmed_eq_directory h, applies_iff_pieces h hd, fun rel more ha => ?_,
    applies_append_iff h hd, fun other line' h' hd' => ⟨fun hsame => ?_, fun hsame rel => ?_⟩⟩
  · rw [applies_iff_pieces h hd] at ha ⊢
    refine ha.trans (Text.splitOn_prefix_iff.mpr (Or.inr ?_))
    simp [startsWith, List.isPrefixOf_iff_prefix]
  · -- each of them speaks of the directory of the other
    have hle := (applies_iff_pieces h hd _).mp ((hsame _).trans (applies_directory h' hd'))
    have hge := (applies_iff_pieces h' hd' _).mp ((hsame _).symm.trans (applies_directory h hd))
    exact Text.splitOn_injective
      (hle.eq_of_length (Nat.le_antisymm hle.length_le hge.length_le))
  · rw [applies_directory_eq h hd, applies_directory_eq h' hd', hsame]

/-- Slashes within the directory count, those around it do not. -/
theorem directory_speaks_of_subtree_lib :
    let rule : IgnoreRule := ⟨"//lib//core", true, true⟩
    let other : IgnoreRule := ⟨"/lib//core", false, true⟩
    ofLine? " !//lib//core/// " = some rule ∧ rule.directoryScoped = true ∧
    rule.directory = "lib//core" ∧ rule.applies "lib//core/a.py" = true ∧
    rule.applies ("lib//core/a.py" ++ "/" ++ "b") = true ∧
    rule.applies (rule.directory ++ "s/a.py") = false ∧ rule.applies "lib/core/a.py" = false ∧
    ∀ rel, rule.applies rel = other.applies rel := by
  intro rule other
  have h : ofLine? " !//lib//core/// " = some rule := by decide
  have h' : ofLine? "/lib//core/" = some other := by decide
  have hd : rule.directoryScoped = true := rfl
  obtain ⟨-, hpieces, hbeneath, hmore, hsame⟩ := directory_speaks_of_subtree h hd
  have hfile : rule.applies "lib//core/a.py" = true := (hpieces _).mpr (by decide)
  have hbeside : ¬rule.applies (rule.directory ++ "s/a.py") = true := by
    rw [hmore]
    decide
  have hsingle : ¬rule.applies "lib/core/a.py" = true := by
    rw [hpieces]
    decide
  exact ⟨h, hd, by decide, hfile, hbeneath _ "b" hfile, Bool.eq_false_iff.mpr hbeside,
    Bool.eq_false_iff.mpr hsingle, (hsame other "/lib//core/" h' rfl).mpr (by decide)⟩

end IgnoreRule

end SecurityScan
