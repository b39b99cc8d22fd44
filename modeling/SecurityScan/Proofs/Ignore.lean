import SecurityScan.Ignore.Rule
import SecurityScan.Proofs.Trim

/-!
# The first rule decides

The rules of a file are asked in the order of its lines, and the first that speaks of a path decides
about it. A file put before another one is therefore asked first, and a rule is asked in vain behind
one with the same pattern and scope. Without negated rules any rule that speaks of a path leaves it
out, and the order of the lines does not matter.
-/

namespace SecurityScan

/-! ## Lines without a rule -/

/-- A line of white space alone, or one with `#` as its first other character. -/
def IsIdleLine (line : String) : Prop :=
  ∃ blanks rest, line.toList = blanks ++ rest ∧ (∀ c ∈ blanks, Text.isBlank c = true) ∧
    (rest = [] ∨ rest.head? = some '#')

namespace IgnoreRule

theorem ofLine?_of_isIdleLine {line : String} (h : IsIdleLine line) : ofLine? line = none := by
  obtain ⟨blanks, rest, hline, hb, hrest⟩ := h
  rw [ofLine?, hline, Text.trimBy_append hb]
  obtain rfl | hhash := hrest
  · rfl
  · obtain ⟨cs, rfl⟩ := List.head?_eq_some_iff.mp hhash
    have hp : Text.isBlank '#' = false := by decide
    obtain ⟨tail, ht⟩ := Text.trimRightBy_cons hp cs
    rw [Text.trimBy, Text.trimLeftBy, List.dropWhile_cons_of_neg (by simp [hp]), ht]
    rfl

theorem ofLines_append (A B : List String) : ofLines (A ++ B) = ofLines A ++ ofLines B :=
  List.filterMap_append

theorem mem_ofLines {lines : List String} {r : IgnoreRule} :
    r ∈ ofLines lines ↔ ∃ l ∈ lines, ofLine? l = some r :=
  List.mem_filterMap

/-! ## Rules in their order -/

section
variable {rel : String}

theorem excludes_nil : excludes [] rel = false := rfl

theorem excludes_cons (r : IgnoreRule) (rs : List IgnoreRule) :
    excludes (r :: rs) rel = if r.applies rel = true then !r.negated else excludes rs rel := by
  by_cases h : r.applies rel = true
  · simp [excludes, h]
  · simp [excludes, h]

/-- A rule that speaks of no path that is asked for may stand anywhere. -/
theorem excludes_append_of_none {A : List IgnoreRule} (h : ∀ r ∈ A, r.applies rel = false)
    (B : List IgnoreRule) : excludes (A ++ B) rel = excludes B rel := by
  induction A with
  | nil => rfl
  | cons r rs ih =>
    obtain ⟨hr, hrs⟩ := List.forall_mem_cons.mp h
    rw [List.cons_append, excludes_cons, hr, if_neg Bool.false_ne_true, ih hrs]

/-- What stands behind a rule that speaks of the path is not asked. -/
theorem excludes_append_of_mem {A : List IgnoreRule} {r : IgnoreRule} (hr : r ∈ A)
    (ha : r.applies rel = true) (B : List IgnoreRule) :
    excludes (A ++ B) rel = excludes A rel := by
  induction A with
  | nil => cases hr
  | cons q qs ih =>
    rw [List.cons_append, excludes_cons, excludes_cons]
    by_cases hq : q.applies rel = true
    · rw [if_pos hq, if_pos hq]
    · have hne : r ≠ q := by rintro rfl; exact hq ha
      rw [if_neg hq, if_neg hq, ih ((List.mem_cons.mp hr).resolve_left hne)]

/-- Whether a rule speaks of a path is told by its pattern and its scope. -/
theorem applies_congr {q r : IgnoreRule} (hp : q.pattern = r.pattern)
    (hs : q.directoryScoped = r.directoryScoped) : q.applies rel = r.applies rel := by
  simp only [applies, hp, hs]

/-- A rule behind one that speaks of the same paths is never the first. -/
theorem excludes_shadowed {A B C : List IgnoreRule} {q r : IgnoreRule}
    (h : q.applies rel = r.applies rel) :
    excludes (A ++ q :: B ++ r :: C) rel = excludes (A ++ q :: B ++ C) rel := by
  by_cases hq : q.applies rel = true
  · have hm : q ∈ A ++ q :: B := by simp
    rw [excludes_append_of_mem hm hq, excludes_append_of_mem hm hq]
  · have hr : r.applies rel = false := by rw [← h]; exact Bool.not_eq_true _ ▸ hq
    induction A ++ q :: B with
    | nil => rw [List.nil_append, List.nil_append, excludes_cons, hr, if_neg Bool.false_ne_true]
    | cons p ps ih => rw [List.cons_append, List.cons_append, excludes_cons, excludes_cons, ih]

/-- Without negated rules a path is left out by any rule that speaks of it. -/
theorem excludes_iff_of_plain {rs : List IgnoreRule} (h : ∀ r ∈ rs, r.negated = false) :
    excludes rs rel = true ↔ ∃ r ∈ rs, r.applies rel = true := by
  induction rs with
  | nil => simp [excludes_nil]
  | cons r rs ih =>
    obtain ⟨hr, hrs⟩ := List.forall_mem_cons.mp h
    rw [excludes_cons]
    simp only [List.mem_cons, exists_eq_or_imp]
    by_cases ha : r.applies rel = true
    · simp [ha, hr]
    · simp [ha, ih hrs]

end

/-! ## Files of rules -/

/-- The first line whose rule speaks of a path has this rule. -/
def FirstOf (lines : List String) (rel : String) (r : IgnoreRule) : Prop :=
  ∃ front line back, lines = front ++ line :: back ∧ ofLine? line = some r ∧
    r.applies rel = true ∧ ∀ l ∈ front, ∀ q, ofLine? l = some q → q.applies rel = false

theorem not_firstOf_nil {rel : String} {r : IgnoreRule} : ¬FirstOf [] rel r := by
  rintro ⟨front, line, back, h, -⟩
  simp at h

theorem firstOf_cons {rel line : String} {lines : List String} {r : IgnoreRule} :
    FirstOf (line :: lines) rel r ↔ (ofLine? line = some r ∧ r.applies rel = true) ∨
      (∀ q, ofLine? line = some q → q.applies rel = false) ∧ FirstOf lines rel r := by
  constructor
  · rintro ⟨front, l, back, h, hl, ha, hf⟩
    cases front with
    | nil =>
      obtain ⟨rfl, -⟩ := List.cons.inj h
      exact Or.inl ⟨hl, ha⟩
    | cons k front =>
      obtain ⟨rfl, rfl⟩ := List.cons.inj h
      obtain ⟨hk, hf⟩ := List.forall_mem_cons.mp hf
      exact Or.inr ⟨hk, front, l, back, rfl, hl, ha, hf⟩
  · rintro (⟨hl, ha⟩ | ⟨hk, front, l, back, rfl, hl, ha, hf⟩)
    · exact ⟨[], line, lines, rfl, hl, ha, by simp⟩
    · exact ⟨line :: front, l, back, rfl, hl, ha, List.forall_mem_cons.mpr ⟨hk, hf⟩⟩

/-- The rule that decides is that of the first line whose rule speaks of the path. -/
theorem excludes_ofLines_iff {rel : String} {lines : List String} :
    excludes (ofLines lines) rel = true ↔ ∃ r, FirstOf lines rel r ∧ r.negated = false := by
  induction lines with
  | nil => exact iff_of_false Bool.false_ne_true fun ⟨r, h, _⟩ => not_firstOf_nil h
  | cons line lines ih =>
    simp only [firstOf_cons]
    cases hl : ofLine? line with
    | none =>
      rw [show ofLines (line :: lines) = ofLines lines from List.filterMap_cons_none hl, ih]
      simp
    | some q =>
      rw [show ofLines (line :: lines) = q :: ofLines lines from List.filterMap_cons_some hl,
        excludes_cons]
      by_cases ha : q.applies rel = true
      · rw [if_pos ha]
        constructor
        · intro hn
          exact ⟨q, Or.inl ⟨rfl, ha⟩, by simpa using hn⟩
        · rintro ⟨r, ⟨hr, -⟩ | ⟨hr, -⟩, hn⟩
          · obtain rfl := Option.some.inj hr
            simpa using hn
          · exact absurd ha (by simp [hr q rfl])
      · rw [if_neg ha, ih]
        refine exists_congr fun r => and_congr_left fun _ => ?_
        constructor
        · intro hr
          refine Or.inr ⟨?_, hr⟩
          rintro p hp
          obtain rfl := Option.some.inj hp
          simpa using ha
        · rintro (⟨hr, hra⟩ | ⟨-, hr⟩)
          · obtain rfl := Option.some.inj hr
            exact absurd hra ha
          · exact hr

theorem ofLines_of_idle {idle : List String} (h : ∀ l ∈ idle, IsIdleLine l) : ofLines idle = [] :=
  List.filterMap_eq_nil_iff.mpr fun l hl => ofLine?_of_isIdleLine (h l hl)

/-- Some rule of a file speaks of a path. -/
def Speaks (lines : List String) (rel : String) : Prop :=
  ∃ r ∈ ofLines lines, r.applies rel = true

/-- No rule of a file is negated. -/
def IsPlain (lines : List String) : Prop := ∀ r ∈ ofLines lines, r.negated = false

theorem Speaks.mono {A B : List String} {rel : String} (h : Speaks A rel) (hs : A ⊆ B) :
    Speaks B rel := by
  obtain ⟨r, hr, ha⟩ := h
  obtain ⟨l, hl, hlr⟩ := mem_ofLines.mp hr
  exact ⟨r, mem_ofLines.mpr ⟨l, hs hl, hlr⟩, ha⟩

theorem IsPlain.anti {A B : List String} (h : IsPlain B) (hs : A ⊆ B) : IsPlain A := by
  intro r hr
  obtain ⟨l, hl, hlr⟩ := mem_ofLines.mp hr
  exact h r (mem_ofLines.mpr ⟨l, hs hl, hlr⟩)

end IgnoreRule

namespace Project

open IgnoreRule

/-- **The first rule that speaks of a path decides about it.** It leaves the path out unless it is
negated. So the rules of a file that stands before another decide whenever one of them speaks of the
path; lines without a rule may be put in anywhere, and a rule behind one with the same pattern and
scope may be taken out. In a file without negated rules the order of the lines does not matter, and
what it leaves out it still leaves out with more lines of that kind. -/
theorem excludes_by_first_rule (p : Project) (path : String) :
    let rel := p.relativePath path
    let leavesOut (lines : List String) : Bool := p.excludes (ofLines lines) false path
    (∀ lines, leavesOut lines = true ↔ ∃ r, FirstOf lines rel r ∧ r.negated = false) ∧
    (∀ A B, (Speaks A rel → leavesOut (A ++ B) = leavesOut A) ∧
      (¬Speaks A rel → leavesOut (A ++ B) = leavesOut B)) ∧
    (∀ A idle B, (∀ l ∈ idle, IsIdleLine l) → leavesOut (A ++ idle ++ B) = leavesOut (A ++ B)) ∧
    (∀ A line B later C q r, ofLine? line = some q → ofLine? later = some r →
      q.pattern = r.pattern → q.directoryScoped = r.directoryScoped →
      leavesOut (A ++ line :: B ++ later :: C) = leavesOut (A ++ line :: B ++ C)) ∧
    (∀ A B, IsPlain A → A.Perm B → leavesOut A = leavesOut B) ∧
    ∀ A B, IsPlain B → A ⊆ B → leavesOut A = true → leavesOut B = true := by
  intro rel leavesOut
  have hdef : ∀ lines, leavesOut lines = IgnoreRule.excludes (ofLines lines) rel := fun _ => rfl
  -- a plain file leaves out what one of its rules speaks of
  have hplain : ∀ lines, IsPlain lines → (leavesOut lines = true ↔ Speaks lines rel) :=
    fun lines h => excludes_iff_of_plain h
  refine ⟨fun lines => excludes_ofLines_iff, ?_, ?_, ?_, ?_, ?_⟩
  · intro A B
    rw [hdef, hdef, hdef, ofLines_append]
    constructor
    · rintro ⟨r, hr, ha⟩
      exact excludes_append_of_mem hr ha _
    · intro h
      refine excludes_append_of_none (fun r hr => ?_) _
      exact Bool.eq_false_iff.mpr fun ha => h ⟨r, hr, ha⟩
  · intro A idle B h
    rw [hdef, hdef, ofLines_append, ofLines_append, ofLines_append, ofLines_of_idle h,
      List.append_nil]
  · intro A line B later C q r hq hr hp hs
    have hline : ∀ {l s} (ls : List String), ofLine? l = some s → ofLines (l :: ls) = s :: ofLines ls :=
      fun _ h => List.filterMap_cons_some h
    rw [hdef, hdef, ofLines_append, ofLines_append, ofLines_append, ofLines_append, hline B hq,
      hline C hr]
    exact excludes_shadowed (applies_congr hp hs)
  · intro A B hA hAB
    rw [Bool.eq_iff_iff, hplain A hA, hplain B (hA.anti hAB.symm.subset)]
    exact ⟨fun h => h.mono hAB.subset, fun h => h.mono hAB.symm.subset⟩
  · intro A B hB hAB hA
    rw [hplain A (hB.anti hAB)] at hA
    rw [hplain B hB]
    exact hA.mono hAB

end Project

end SecurityScan
