import Mathlib.Data.List.TakeWhile
import SecurityScan.Text.CharClass

/-!
# Trimmed ends

What trimming takes off at either end of a text, and where it stops.
-/

namespace SecurityScan.Text

section
variable {p : Char → Bool}

/-! ## What is taken off -/

section
variable {blanks : List Char} (h : ∀ c ∈ blanks, p c = true)
include h

theorem trimBy_append (rest : List Char) : trimBy p (blanks ++ rest) = trimBy p rest := by
  rw [trimBy, trimLeftBy, List.dropWhile_append_of_pos h]
  rfl

theorem trimRightBy_append (cs : List Char) : trimRightBy p (cs ++ blanks) = trimRightBy p cs := by
  have hreverse : ∀ c ∈ blanks.reverse, p c = true := fun c hc => h c (List.mem_reverse.mp hc)
  rw [trimRightBy, List.reverse_append, List.dropWhile_append_of_pos hreverse, trimRightBy]

theorem trimBy_append_right (cs : List Char) : trimBy p (cs ++ blanks) = trimBy p cs := by
  rw [trimBy, trimLeftBy, List.dropWhile_append]
  split
  · rename_i hempty
    have hall : blanks.dropWhile p = [] := List.dropWhile_eq_nil_iff.mpr h
    rw [trimBy, trimLeftBy, List.isEmpty_iff.mp hempty, hall]
  · exact trimRightBy_append h _

end

theorem exists_trimRightBy (p : Char → Bool) (cs : List Char) :
    ∃ after, (∀ c ∈ after, p c = true) ∧ cs = trimRightBy p cs ++ after := by
  refine ⟨(cs.reverse.takeWhile p).reverse, fun c hc => ?_, ?_⟩
  · exact List.all_eq_true.mp List.all_takeWhile c (List.mem_reverse.mp hc)
  · rw [trimRightBy, ← List.reverse_append, List.takeWhile_append_dropWhile, List.reverse_reverse]

theorem exists_trimBy (p : Char → Bool) (cs : List Char) :
    ∃ before after, (∀ c ∈ before, p c = true) ∧ (∀ c ∈ after, p c = true) ∧
      cs = before ++ (trimBy p cs ++ after) := by
  obtain ⟨after, hafter, hright⟩ := exists_trimRightBy p (trimLeftBy p cs)
  refine ⟨cs.takeWhile p, after, List.all_eq_true.mp List.all_takeWhile, hafter, ?_⟩
  rw [trimBy, ← hright, trimLeftBy, List.takeWhile_append_dropWhile]

theorem trimBy_infix (p : Char → Bool) (cs : List Char) : trimBy p cs <:+: cs := by
  obtain ⟨before, after, -, -, hcs⟩ := exists_trimBy p cs
  exact ⟨before, after, by rw [List.append_assoc, ← hcs]⟩

/-! ## Where trimming stops -/

variable {cs : List Char}

theorem not_of_getLast?_trimRightBy {c : Char} (h : (trimRightBy p cs).getLast? = some c) :
    p c = false := by
  rw [trimRightBy, List.getLast?_reverse] at h
  have hhead := List.head?_dropWhile_not p cs.reverse
  rwa [h] at hhead

theorem not_of_getLast?_trimBy {c : Char} (h : (trimBy p cs).getLast? = some c) : p c = false :=
  not_of_getLast?_trimRightBy h

theorem not_of_head?_trimBy {c : Char} (h : (trimBy p cs).head? = some c) : p c = false := by
  have hhead := List.head?_dropWhile_not p cs
  -- what is trimmed begins as before its end was cut
  obtain ⟨after, -, hleft⟩ := exists_trimRightBy p (trimLeftBy p cs)
  rw [← trimBy, trimLeftBy] at hleft
  rw [hleft, List.head?_append, h] at hhead
  exact hhead

theorem trimRightBy_cons {c : Char} (h : p c = false) (cs : List Char) :
    ∃ rest, trimRightBy p (c :: cs) = c :: rest := by
  simp only [trimRightBy, List.reverse_cons, List.dropWhile_append]
  split
  · exact ⟨[], by simp [h]⟩
  · exact ⟨_, by rw [List.reverse_append]; rfl⟩

theorem trimRightBy_eq_self (h : ∀ c, cs.getLast? = some c → p c = false) :
    trimRightBy p cs = cs := by
  rcases List.eq_nil_or_concat cs with rfl | ⟨ds, c, rfl⟩
  · rfl
  · have hc : p c = false := h c (by simp)
    simp [trimRightBy, hc]

theorem trimBy_of_getLast? (h : ∀ c, cs.getLast? = some c → p c = false) :
    trimBy p cs = trimLeftBy p cs := by
  refine trimRightBy_eq_self fun c hc => h c ?_
  -- what is left is the end of `cs`
  obtain ⟨before, hbefore⟩ : trimLeftBy p cs <:+ cs := List.dropWhile_suffix p
  rw [← hbefore, List.getLast?_append, hc]
  rfl

theorem trimBy_eq_self (hhead : ∀ c, cs.head? = some c → p c = false)
    (hlast : ∀ c, cs.getLast? = some c → p c = false) : trimBy p cs = cs := by
  rw [trimBy_of_getLast? hlast]
  cases cs with
  | nil => rfl
  | cons c cs => exact List.dropWhile_cons_of_neg (by simp [hhead c rfl])

/-- A character that is kept keeps all that stands behind it from being taken off in front. -/
theorem exists_trimLeftBy_append {c : Char} (hc : p c = false) (init : List Char) :
    ∃ front, ∀ more, trimLeftBy p (init ++ c :: more) = front ++ c :: more := by
  induction init with
  | nil => exact ⟨[], fun more => List.dropWhile_cons_of_neg (by simp [hc])⟩
  | cons d init ih =>
    by_cases hd : p d = true
    · obtain ⟨front, hfront⟩ := ih
      exact ⟨front, fun more => by rw [← hfront, trimLeftBy, List.cons_append,
        List.dropWhile_cons_of_pos hd, trimLeftBy]⟩
    · exact ⟨d :: init, fun more => List.dropWhile_cons_of_neg hd⟩

section
variable (h : ∃ c ∈ cs.getLast?, p c = false)
include h

/-- What ends with another character is where trimming stops. -/
theorem trimRightBy_append_of_getLast? (more : List Char) :
    trimRightBy p (cs ++ more) = cs ++ trimRightBy p more := by
  obtain ⟨c, hc, hpc⟩ := h
  obtain ⟨init, rfl⟩ := List.getLast?_eq_some_iff.mp hc
  have hstop : (List.reverse (init ++ [c])).dropWhile p = List.reverse (init ++ [c]) := by
    rw [List.reverse_append]
    exact List.dropWhile_cons_of_neg (by simp [hpc])
  rw [trimRightBy, trimRightBy, List.reverse_append, List.dropWhile_append]
  split
  · rename_i hempty
    rw [hstop, List.isEmpty_iff.mp hempty, List.reverse_reverse, List.reverse_nil, List.append_nil]
  · rw [List.reverse_append, List.reverse_reverse]

theorem trimBy_append_of_getLast? (more : List Char) :
    trimBy p (cs ++ more) = trimBy p cs ++ trimRightBy p more := by
  obtain ⟨c, hc, hpc⟩ := h
  obtain ⟨init, rfl⟩ := List.getLast?_eq_some_iff.mp hc
  obtain ⟨front, hfront⟩ := exists_trimLeftBy_append hpc init
  have hlast : ∃ d ∈ (front ++ [c]).getLast?, p d = false := ⟨c, by simp, hpc⟩
  have hself : trimRightBy p (front ++ [c]) = front ++ [c] := trimRightBy_eq_self (by simp [hpc])
  rw [trimBy, trimBy, List.append_assoc, List.singleton_append, hfront, hfront, hself,
    List.append_cons, trimRightBy_append_of_getLast? hlast]

theorem getLast?_trimBy : (trimBy p cs).getLast? = cs.getLast? := by
  obtain ⟨c, hc, hpc⟩ := h
  obtain ⟨init, rfl⟩ := List.getLast?_eq_some_iff.mp hc
  obtain ⟨front, hfront⟩ := exists_trimLeftBy_append hpc init
  rw [trimBy, hfront, trimRightBy_eq_self (by simp [hpc]), List.getLast?_concat,
    List.getLast?_concat]

end

theorem trimBy_between {before after : List Char} (hbefore : ∀ c ∈ before, p c = true)
    (hafter : ∀ c ∈ after, p c = true) (hhead : ∃ c ∈ cs.head?, p c = false)
    (hlast : ∃ c ∈ cs.getLast?, p c = false) : trimBy p (before ++ (cs ++ after)) = cs := by
  rw [trimBy_append hbefore, trimBy_append_right hafter]
  refine trimBy_eq_self (fun c hc => ?_) fun c hc => ?_
  · obtain ⟨d, hd, hpd⟩ := hhead
    rwa [← Option.some.inj (hd.symm.trans hc)]
  · obtain ⟨d, hd, hpd⟩ := hlast
    rwa [← Option.some.inj (hd.symm.trans hc)]

end

end SecurityScan.Text
