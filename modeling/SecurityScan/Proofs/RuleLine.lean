import SecurityScan.Ignore.Rule
import SecurityScan.Proofs.Trim

/-!
# Lines of rules in normal form

A rule is written as a line from its fields. The lines that have a rule are this line of it, with white
space around it and further slashes behind the one that names a directory. The rules that lines have
are those whose pattern would lose nothing when their line is trimmed and read.
-/

namespace SecurityScan

theorem Text.endsWith_slash_iff {s : String} :
    endsWith s "/" = true ↔ s.toList.getLast? = some '/' := by
  rw [endsWith, List.isSuffixOf_iff_suffix, List.getLast?_eq_some_iff]
  exact exists_congr fun _ => eq_comm

namespace IgnoreRule

open Text (endsWith isBlank trimBy trimRightBy)

/-- What a line has of a rule behind its `!`. -/
def body (rule : IgnoreRule) : List Char :=
  rule.pattern.toList ++ if rule.directoryScoped then ['/'] else []

/-- The line of a rule. -/
def line (rule : IgnoreRule) : String :=
  (if rule.negated then "!" else "") ++ rule.pattern ++ (if rule.directoryScoped then "/" else "")

theorem toList_line (rule : IgnoreRule) :
    rule.line.toList = (if rule.negated then ['!'] else []) ++ rule.body := by
  rw [line, body]
  cases rule.negated <;> cases rule.directoryScoped <;> simp

/-- Nothing of the pattern is taken for anything else when the line of the rule is read. -/
structure IsNormal (rule : IgnoreRule) : Prop where
  nonempty : rule.pattern.toList ≠ []
  no_slash : rule.pattern.toList.getLast? ≠ some '/'
  front : rule.negated = false → ∀ c, rule.pattern.toList.head? = some c →
    isBlank c = false ∧ c ≠ '#' ∧ c ≠ '!'
  back : rule.directoryScoped = false → ∀ c, rule.pattern.toList.getLast? = some c →
    isBlank c = false

theorem IsNormal.not_slash_of_getLast? {rule : IgnoreRule} (h : rule.IsNormal) {c : Char}
    (hc : rule.pattern.toList.getLast? = some c) : (c == '/') = false := by
  refine beq_false_of_ne ?_
  rintro rfl
  exact h.no_slash hc

/-! ## What stands behind the mark -/

/-- The rule of what stands behind the `!`, or of the whole text where there is none. -/
def ofBody? (negated : Bool) (cs : List Char) : Option IgnoreRule :=
  let pattern := trimRightBy (· == '/') cs
  if pattern.isEmpty then none else some ⟨String.ofList pattern, negated, cs.getLast? == some '/'⟩

theorem ofTrimmed?_eq (cs : List Char) : ofTrimmed? cs =
    if cs.head? = some '#' then none
    else if cs.head? = some '!' then ofBody? true cs.tail else ofBody? false cs := by
  -- slashes that are not there may be taken off all the same
  have hslash : ∀ body : List Char,
      (if body.getLast? = some '/' then trimRightBy (· == '/') body else body) =
        trimRightBy (· == '/') body := by
    intro body
    split
    · rfl
    · rename_i hlast
      refine (Text.trimRightBy_eq_self fun c hc => ?_).symm
      rw [hc] at hlast
      simpa using hlast
  cases cs with
  | nil => rfl
  | cons c cs =>
    by_cases hcomment : c = '#'
    · subst hcomment
      rfl
    · by_cases hnot : c = '!'
      · subst hnot
        simp [ofTrimmed?, ofBody?, hslash]
      · simp [ofTrimmed?, ofBody?, hslash, hcomment, hnot, beq_false_of_ne hnot]

section
variable {cs slashes : List Char} (hs : ∀ c ∈ slashes, c = '/')
include hs

theorem getLast?_append_slashes (h : cs.getLast? = some '/') :
    (cs ++ slashes).getLast? = some '/' := by
  rw [List.getLast?_append, h]
  cases hlast : slashes.getLast? with
  | none => rfl
  | some c => rw [hs c (List.mem_of_getLast? hlast), Option.some_or]

theorem ofBody?_append (negated : Bool) (h : cs.getLast? = some '/') :
    ofBody? negated (cs ++ slashes) = ofBody? negated cs := by
  have htrim : trimRightBy (· == '/') (cs ++ slashes) = trimRightBy (· == '/') cs :=
    Text.trimRightBy_append (fun c hc => by simp [hs c hc]) cs
  rw [ofBody?, ofBody?, htrim, getLast?_append_slashes hs h, h]

theorem ofTrimmed?_append (h : cs.getLast? = some '/') :
    ofTrimmed? (cs ++ slashes) = ofTrimmed? cs := by
  rw [ofTrimmed?_eq, ofTrimmed?_eq]
  cases cs with
  | nil => cases h
  | cons c cs =>
    rw [List.cons_append, List.head?_cons, List.head?_cons, List.tail_cons, List.tail_cons]
    refine if_congr Iff.rfl rfl ?_
    split
    · rename_i hnot
      have hrest : cs.getLast? = some '/' := by
        cases cs with
        | nil =>
          obtain rfl := Option.some.inj hnot
          cases h
        | cons d cs => rwa [List.getLast?_cons_cons] at h
      exact ofBody?_append hs true hrest
    · exact ofBody?_append hs false h

end

/-! ## Spaces and slashes that change nothing -/

theorem ofLine?_between {before after : String} (hbefore : ∀ c ∈ before.toList, isBlank c = true)
    (hafter : ∀ c ∈ after.toList, isBlank c = true) (line : String) :
    ofLine? (before ++ line ++ after) = ofLine? line := by
  rw [ofLine?, String.toList_append, Text.trimBy_append_right hafter, String.toList_append,
    Text.trimBy_append hbefore, ofLine?]

theorem ofLine?_append_slashes {line slashes : String} (h : endsWith line "/" = true)
    (hs : ∀ c ∈ slashes.toList, c = '/') : ofLine? (line ++ slashes) = ofLine? line := by
  have hend : line.toList.getLast? = some '/' := Text.endsWith_slash_iff.mp h
  have hslash : isBlank '/' = false := by decide
  have hkept : trimRightBy isBlank slashes.toList = slashes.toList :=
    Text.trimRightBy_eq_self fun c hc => by rwa [hs c (List.mem_of_getLast? hc)]
  -- a slash stops the trimming, so that the line still ends with it
  have htrim : ∀ more, trimBy isBlank (line.toList ++ more) =
      trimBy isBlank line.toList ++ trimRightBy isBlank more :=
    Text.trimBy_append_of_getLast? ⟨_, hend, hslash⟩
  have hlast : (trimBy isBlank line.toList).getLast? = some '/' := by
    rw [Text.getLast?_trimBy ⟨_, hend, hslash⟩, hend]
  rw [ofLine?, String.toList_append, htrim, hkept, ofTrimmed?_append hs hlast, ofLine?]

/-! ## What a line with a rule is made of -/

theorem ofBody?_eq_some {negated : Bool} {cs : List Char} {rule : IgnoreRule}
    (h : ofBody? negated cs = some rule) :
    rule.negated = negated ∧ rule.pattern.toList ≠ [] ∧
    rule.pattern.toList.getLast? ≠ some '/' ∧
    ∃ slashes, (∀ c ∈ slashes, c = '/') ∧ (rule.directoryScoped = false → slashes = []) ∧
      cs = rule.body ++ slashes := by
  obtain ⟨slashes, hslashes, hcs⟩ := Text.exists_trimRightBy (· == '/') cs
  have hslash : ∀ c ∈ slashes, c = '/' := fun c hc => eq_of_beq (hslashes c hc)
  have hend : (trimRightBy (· == '/') cs).getLast? ≠ some '/' := fun hlast => by
    simpa using Text.not_of_getLast?_trimRightBy hlast
  obtain ⟨hne, hrule⟩ := Option.ite_none_left_eq_some.mp h
  obtain rfl := Option.some.inj hrule
  refine ⟨rfl, ?_⟩
  simp only [body, String.toList_ofList]
  refine ⟨by simpa using hne, hend, ?_⟩
  by_cases hdir : cs.getLast? = some '/'
  · -- the first of the slashes that were taken off is that of the directory
    cases slashes with
    | nil =>
      rw [List.append_nil] at hcs
      rw [← hcs] at hend
      exact absurd hdir hend
    | cons c slashes =>
      obtain ⟨rfl, hrest⟩ := List.forall_mem_cons.mp hslash
      refine ⟨slashes, hrest, by simp [hdir], ?_⟩
      simpa [hdir] using hcs
  · have hnone : slashes = [] := by
      rcases List.eq_nil_or_concat slashes with hnil | ⟨init, c, rfl⟩
      · exact hnil
      · refine absurd ?_ hdir
        rw [hcs, hslash c (by simp)]
        simp
    refine ⟨[], by simp, fun _ => rfl, ?_⟩
    rw [hnone] at hcs
    simpa [hdir] using hcs

theorem ofTrimmed?_eq_some {cs : List Char} {rule : IgnoreRule} (h : ofTrimmed? cs = some rule) :
    rule.pattern.toList ≠ [] ∧ rule.pattern.toList.getLast? ≠ some '/' ∧
    cs.head? ≠ some '#' ∧ (rule.negated = false → cs.head? ≠ some '!') ∧
    ∃ slashes, (∀ c ∈ slashes, c = '/') ∧ (rule.directoryScoped = false → slashes = []) ∧
      cs = rule.line.toList ++ slashes := by
  rw [ofTrimmed?_eq] at h
  obtain ⟨hcomment, h⟩ := Option.ite_none_left_eq_some.mp h
  split at h
  · rename_i hnot
    obtain ⟨hneg, hne, hend, slashes, hslash, hnone, hcs⟩ := ofBody?_eq_some h
    refine ⟨hne, hend, hcomment, by simp [hneg], slashes, hslash, hnone, ?_⟩
    obtain ⟨rest, rfl⟩ := List.head?_eq_some_iff.mp hnot
    rw [List.tail_cons] at hcs
    simp [toList_line, hneg, hcs]
  · rename_i hnot
    obtain ⟨hneg, hne, hend, slashes, hslash, hnone, hcs⟩ := ofBody?_eq_some h
    refine ⟨hne, hend, hcomment, fun _ => hnot, slashes, hslash, hnone, ?_⟩
    simp [toList_line, hneg, hcs]

theorem isNormal_of_ofLine? {l : String} {rule : IgnoreRule} (h : ofLine? l = some rule) :
    rule.IsNormal := by
  obtain ⟨hne, hend, hcomment, hnot, slashes, hslash, hnone, hcs⟩ := ofTrimmed?_eq_some h
  refine ⟨hne, hend, fun hneg c hc => ?_, fun hdir c hc => ?_⟩
  · have hhead : (trimBy isBlank l.toList).head? = some c := by
      simp [hcs, toList_line, hneg, body, hc]
    refine ⟨Text.not_of_head?_trimBy hhead, ?_, ?_⟩
    · rintro rfl
      exact hcomment hhead
    · rintro rfl
      exact hnot hneg hhead
  · have hlast : (trimBy isBlank l.toList).getLast? = some c := by
      simp [hcs, hnone hdir, toList_line, body, hdir, hc]
    exact Text.not_of_getLast?_trimBy hlast

theorem exists_spaces_slashes {l : String} {rule : IgnoreRule} (h : ofLine? l = some rule) :
    ∃ before slashes after : String, (∀ c ∈ before.toList, isBlank c = true) ∧
      (∀ c ∈ after.toList, isBlank c = true) ∧ (∀ c ∈ slashes.toList, c = '/') ∧
      (rule.directoryScoped = false → slashes = "") ∧
      l = before ++ (rule.line ++ slashes) ++ after := by
  obtain ⟨-, -, -, -, slashes, hslash, hnone, hcs⟩ := ofTrimmed?_eq_some h
  obtain ⟨before, after, hbefore, hafter, hl⟩ := Text.exists_trimBy isBlank l.toList
  refine ⟨String.ofList before, String.ofList slashes, String.ofList after, by simpa using hbefore,
    by simpa using hafter, by simpa using hslash, fun hdir => by simp [hnone hdir], ?_⟩
  rw [← String.toList_inj, hl, hcs]
  simp

/-! ## The line of a rule -/

section
variable {rule : IgnoreRule} (h : rule.IsNormal)
include h

theorem ofBody?_body : ofBody? rule.negated rule.body = some rule := by
  have hkept : trimRightBy (· == '/') rule.pattern.toList = rule.pattern.toList :=
    Text.trimRightBy_eq_self fun _ => h.not_slash_of_getLast?
  have htrim : trimRightBy (· == '/') rule.body = rule.pattern.toList := by
    rw [body]
    split
    · rw [Text.trimRightBy_append (by simp), hkept]
    · rw [List.append_nil, hkept]
  have hlast : (rule.body.getLast? == some '/') = rule.directoryScoped := by
    rw [body]
    cases rule.directoryScoped with
    | true => simp
    | false => simpa using h.no_slash
  rw [ofBody?, htrim, hlast, if_neg (by simpa using h.nonempty), String.ofList_toList]

theorem ofTrimmed?_line : ofTrimmed? rule.line.toList = some rule := by
  have hbody := ofBody?_body h
  rw [ofTrimmed?_eq, toList_line]
  cases hneg : rule.negated with
  | true =>
    rw [hneg] at hbody
    simpa using hbody
  | false =>
    rw [hneg] at hbody
    -- the body begins as the pattern does
    obtain ⟨c, cs, hpattern⟩ := List.exists_cons_of_ne_nil h.nonempty
    obtain ⟨-, hcomment, hnot⟩ := h.front hneg c (by rw [hpattern]; rfl)
    have hhead : rule.body.head? = some c := by simp [body, hpattern]
    simpa [hhead, hcomment, hnot] using hbody

theorem not_blank_of_head?_line {c : Char} (hc : rule.line.toList.head? = some c) :
    isBlank c = false := by
  rw [toList_line] at hc
  cases hneg : rule.negated with
  | true =>
    obtain rfl : '!' = c := by simpa [hneg] using hc
    decide
  | false =>
    obtain ⟨d, ds, hpattern⟩ := List.exists_cons_of_ne_nil h.nonempty
    obtain rfl : d = c := by simpa [hneg, body, hpattern] using hc
    exact (h.front hneg d (by rw [hpattern]; rfl)).1

theorem not_blank_of_getLast?_line {c : Char} (hc : rule.line.toList.getLast? = some c) :
    isBlank c = false := by
  rw [toList_line, body] at hc
  cases hdir : rule.directoryScoped with
  | true =>
    obtain rfl : '/' = c := by simpa [hdir] using hc
    decide
  | false =>
    obtain ⟨init, d, hpattern⟩ := List.eq_nil_or_concat rule.pattern.toList |>.resolve_left h.nonempty
    obtain rfl : d = c := by simpa [hdir, hpattern] using hc
    exact h.back hdir d (by rw [hpattern]; simp)

theorem ofLine?_line : ofLine? rule.line = some rule := by
  have htrim : trimBy isBlank rule.line.toList = rule.line.toList :=
    Text.trimBy_eq_self (fun _ => not_blank_of_head?_line h) fun _ => not_blank_of_getLast?_line h
  rw [ofLine?, htrim, ofTrimmed?_line h]

end

/-- **Lines have a normal form.** A rule that a line has is the rule of the line that is written from
its fields. White space around a line and further slashes behind one that ends with a slash never
change its rule, and these are all that two lines with one rule can differ in. -/
theorem lines_have_normal_form :
    (∀ l rule, ofLine? l = some rule → rule.pattern ≠ "" ∧ endsWith rule.pattern "/" = false ∧
      ofLine? rule.line = some rule) ∧
    (∀ before l after : String, (∀ c ∈ before.toList, isBlank c = true) →
      (∀ c ∈ after.toList, isBlank c = true) → ofLine? (before ++ l ++ after) = ofLine? l) ∧
    (∀ l slashes : String, endsWith l "/" = true → (∀ c ∈ slashes.toList, c = '/') →
      ofLine? (l ++ slashes) = ofLine? l) ∧
    ∀ l rule, ofLine? l = some rule ↔ rule.IsNormal ∧ ∃ before slashes after : String,
      (∀ c ∈ before.toList, isBlank c = true) ∧ (∀ c ∈ after.toList, isBlank c = true) ∧
      (∀ c ∈ slashes.toList, c = '/') ∧ (rule.directoryScoped = false → slashes = "") ∧
      l = before ++ (rule.line ++ slashes) ++ after := by
  refine ⟨fun l rule h => ?_, fun before l after hbefore hafter => ofLine?_between hbefore hafter l,
    fun l slashes hend hs => ofLine?_append_slashes hend hs, fun l rule => ⟨fun h => ?_, ?_⟩⟩
  · have hnormal := isNormal_of_ofLine? h
    refine ⟨?_, ?_, ofLine?_line hnormal⟩
    · intro hempty
      exact hnormal.nonempty (by rw [hempty]; rfl)
    · exact Bool.eq_false_iff.mpr fun hend => hnormal.no_slash (Text.endsWith_slash_iff.mp hend)
  · exact ⟨isNormal_of_ofLine? h, exists_spaces_slashes h⟩
  · rintro ⟨hnormal, before, slashes, after, hbefore, hafter, hs, hnone, rfl⟩
    rw [ofLine?_between hbefore hafter]
    cases hdir : rule.directoryScoped with
    | false => rw [hnone hdir, String.append_empty, ofLine?_line hnormal]
    | true =>
      have hend : endsWith rule.line "/" = true :=
        Text.endsWith_slash_iff.mpr (by simp [toList_line, body, hdir])
      rw [ofLine?_append_slashes hend hs, ofLine?_line hnormal]

/-- The pattern may begin and end with white space, and with `!` or `#`, between its two marks. -/
theorem lines_have_normal_form_marked :
    let rule : IgnoreRule := ⟨" !#x\t", true, true⟩
    ofLine? "\t! !#x\t//\n" = some rule ∧ rule.line = "! !#x\t/" ∧ ofLine? rule.line = some rule ∧
    ofLine? (" " ++ rule.line ++ "\u3000") = some rule ∧
    ofLine? (rule.line ++ "//") = some rule ∧ rule.IsNormal ∧ ofLine? "" ≠ some rule := by
  intro rule
  have h : ofLine? "\t! !#x\t//\n" = some rule := by decide
  obtain ⟨hline, hspaces, hslashes, hmade⟩ := lines_have_normal_form
  have hrule : ofLine? rule.line = some rule := (hline _ _ h).2.2
  have hbetween : ofLine? (" " ++ rule.line ++ "\u3000") = ofLine? rule.line :=
    hspaces _ _ _ (List.forall_mem_singleton.mpr (by decide))
      (List.forall_mem_singleton.mpr (by decide))
  have hmore : ofLine? (rule.line ++ "//") = ofLine? rule.line :=
    hslashes _ _ (by decide) (by simp)
  exact ⟨h, by decide, hrule, hbetween.trans hrule, hmore.trans hrule, ((hmade _ _).mp h).1, by decide⟩

end IgnoreRule

end SecurityScan
