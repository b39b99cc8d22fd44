import Mathlib.Data.List.Chain
import SecurityScan.Chunk

/-!
# Cutting a text into pieces

Packing puts the lines of a text into groups. No group is empty, one that is over the limit is a
single line, and no group could take the first line of the next one. A newline ends its line, so a
text is cut behind newlines only, and the pieces put together are the text.
-/

namespace SecurityScan.Chunk

/-! ## Lines -/

/-- No newline stands before the last character. -/
def IsLine (cs : List Char) : Prop := '\n' ∉ cs.dropLast

/-- The last character is a newline. -/
def EndsLine (cs : List Char) : Prop := cs.getLast? = some '\n'

theorem linesOf_newline (cs : List Char) : linesOf ('\n' :: cs) = ['\n'] :: linesOf cs := by
  simp [linesOf]

/-- A character that is no newline begins the first line, or is a line when nothing follows. -/
theorem linesOf_cons {c : Char} (h : c ≠ '\n') (cs : List Char) :
    linesOf (c :: cs) = (c :: (linesOf cs).headD []) :: (linesOf cs).tail := by
  simp only [linesOf, h, ite_false]
  cases linesOf cs <;> rfl

@[simp] theorem flatten_linesOf (cs : List Char) : (linesOf cs).flatten = cs := by
  induction cs with
  | nil => rfl
  | cons c cs ih =>
    by_cases h : c = '\n'
    · subst h; simp [linesOf_newline, ih]
    · rw [linesOf_cons h]
      cases hl : linesOf cs with
      | nil => rw [hl] at ih; simp [← ih]
      | cons l ls => rw [hl] at ih; simp [← ih]

theorem ne_nil_of_mem_linesOf {cs l : List Char} (hl : l ∈ linesOf cs) : l ≠ [] := by
  induction cs generalizing l with
  | nil => cases hl
  | cons c cs ih =>
    by_cases h : c = '\n'
    · subst h
      rw [linesOf_newline] at hl
      rcases List.mem_cons.mp hl with rfl | hl
      · simp
      · exact ih hl
    · rw [linesOf_cons h] at hl
      rcases List.mem_cons.mp hl with rfl | hl
      · simp
      · exact ih (List.mem_of_mem_tail hl)

theorem isLine_of_mem_linesOf {cs l : List Char} (hl : l ∈ linesOf cs) : IsLine l := by
  induction cs generalizing l with
  | nil => cases hl
  | cons c cs ih =>
    by_cases h : c = '\n'
    · subst h
      rw [linesOf_newline] at hl
      rcases List.mem_cons.mp hl with rfl | hl
      · simp [IsLine]
      · exact ih hl
    · rw [linesOf_cons h] at hl
      rcases List.mem_cons.mp hl with rfl | hl
      · cases hc : linesOf cs with
        | nil => simp [IsLine]
        | cons k ks =>
          have hk : k ∈ linesOf cs := by simp [hc]
          have := ih hk
          simp only [IsLine, List.headD_cons, List.dropLast_cons_of_ne_nil (ne_nil_of_mem_linesOf hk),
            List.mem_cons, not_or] at this ⊢
          exact ⟨Ne.symm h, this⟩
      · exact ih (List.mem_of_mem_tail hl)

/-- Only the last line may lack its newline. -/
theorem endsLine_of_linesOf_eq {cs l : List Char} (front : List (List Char)) {back : List (List Char)}
    (h : linesOf cs = front ++ l :: back) (hb : back ≠ []) : EndsLine l := by
  induction cs generalizing front l with
  | nil => simp [linesOf] at h
  | cons c cs ih =>
    by_cases hc : c = '\n'
    · subst hc
      rw [linesOf_newline] at h
      cases front with
      | nil =>
        obtain ⟨rfl, -⟩ := List.cons.inj h
        rfl
      | cons k front => exact ih front (List.cons.inj h).2
    · rw [linesOf_cons hc] at h
      cases front with
      | nil =>
        obtain ⟨rfl, ht⟩ := List.cons.inj h
        cases hl : linesOf cs with
        | nil => rw [hl] at ht; exact absurd ht.symm hb
        | cons k ks =>
          rw [hl] at ht
          have hk : EndsLine k := ih [] (by rw [hl, ← ht]; rfl)
          have hm : k ∈ linesOf cs := by simp [hl]
          have hne : k ≠ [] := ne_nil_of_mem_linesOf hm
          obtain ⟨d, ds, rfl⟩ := List.exists_cons_of_ne_nil hne
          simpa [EndsLine] using hk
      | cons k front =>
        have ht : (linesOf cs).tail = front ++ l :: back := (List.cons.inj h).2
        cases hl : linesOf cs with
        | nil => simp [hl] at ht
        | cons k ks =>
          rw [hl] at ht
          exact ih (k :: front) (by rw [hl]; exact congrArg (k :: ·) ht)

/-! ## Groups of lines -/

/-- Lines put into groups: no group is empty, and one that is over the limit is a single line. -/
structure Grouping (limit : Nat) (ls : List (List Char)) (gs : List (List (List Char))) : Prop where
  lines : gs.flatten = ls
  filled : ∀ g ∈ gs, g ≠ []
  fits : ∀ g ∈ gs, g.flatten.length ≤ limit ∨ ∃ l, g = [l]

theorem flatten_ne_nil {g : List (List Char)} (hg : g ≠ []) (hl : ∀ l ∈ g, l ≠ []) :
    g.flatten ≠ [] := by
  obtain ⟨l, g, rfl⟩ := List.exists_cons_of_ne_nil hg
  simp [hl l (by simp)]

/-- Closing the open group `g`, of which `pack` knows the text alone. -/
theorem closed_eq {g : List (List Char)} (hl : ∀ l ∈ g, l ≠ []) :
    closed g.flatten = (if g = [] then [] else [g]).map List.flatten := by
  by_cases hg : g = []
  · simp [hg, closed]
  · simp [hg, closed, flatten_ne_nil hg hl]

theorem grouping_closed {limit : Nat} {g : List (List Char)}
    (hg : g.flatten.length ≤ limit ∨ ∃ l, g = [l]) :
    Grouping limit g (if g = [] then [] else [g]) := by
  by_cases h : g = []
  · subst h; exact ⟨rfl, by simp, by simp⟩
  · simp only [h, ite_false]
    exact ⟨by simp, by simpa using h, by simpa using hg⟩

/-- The first line of a group is too long for the group before it. -/
def Tight (limit : Nat) (gs : List (List (List Char))) : Prop :=
  gs.IsChain fun g h => limit < g.flatten.length + (h.headD []).length

theorem Grouping.append {limit : Nat} {ls ms : List (List Char)} {gs hs : List (List (List Char))}
    (hg : Grouping limit ls gs) (hh : Grouping limit ms hs) : Grouping limit (ls ++ ms) (gs ++ hs) where
  lines := by rw [List.flatten_append, hg.lines, hh.lines]
  filled g h := (List.mem_append.mp h).elim (hg.filled g) (hh.filled g)
  fits g h := (List.mem_append.mp h).elim (hg.fits g) (hh.fits g)

/-- The first group begins with the first line. -/
theorem Grouping.headD_eq {limit : Nat} {l : List Char} {ls : List (List Char)}
    {g : List (List Char)} {gs : List (List (List Char))} (h : Grouping limit (l :: ls) (g :: gs)) :
    g.headD [] = l := by
  obtain ⟨k, g, rfl⟩ := List.exists_cons_of_ne_nil (h.filled g (List.mem_cons_self ..))
  exact (List.cons.inj h.lines).1

/-- A group is closed before a line that does not go in. -/
theorem tight_closed {limit : Nat} {l : List Char} {ls g : List (List Char)}
    {gs : List (List (List Char))} (hgs : Grouping limit (l :: ls) gs) (ht : Tight limit gs)
    (hn : limit < g.flatten.length + l.length) :
    Tight limit ((if g = [] then [] else [g]) ++ gs) := by
  split
  · exact ht
  · refine List.IsChain.cons ht fun h hh => ?_
    obtain ⟨gs, rfl⟩ : ∃ hs, gs = h :: hs := List.head?_eq_some_iff.mp hh
    rwa [hgs.headD_eq]

/-- **Packing groups the lines.** The open group takes the next line while it stays within the
limit, and is closed before one that does not go in. -/
theorem pack_grouping (limit : Nat) : ∀ (ls g : List (List Char)), (∀ l ∈ g ++ ls, l ≠ []) →
    (g.flatten.length ≤ limit ∨ ∃ l, g = [l]) →
    ∃ gs, pack limit g.flatten g.flatten.length ls = gs.map List.flatten ∧
      Grouping limit (g ++ ls) gs ∧ Tight limit gs
  | [], g, hl, hg => by
    rw [List.append_nil] at hl ⊢
    refine ⟨_, closed_eq hl, grouping_closed hg, ?_⟩
    split
    · exact .nil
    · exact .singleton g
  | l :: ls, g, hl, hg => by
    have hl₁ : ∀ k ∈ g, k ≠ [] := fun k hk => hl k (List.mem_append_left _ hk)
    have hl₂ : ∀ k ∈ [l] ++ ls, k ≠ [] := fun k hk => hl k (List.mem_append_right _ hk)
    by_cases hn : limit < g.flatten.length + l.length
    · obtain ⟨gs, hp, hgs, ht⟩ := pack_grouping limit ls [l] hl₂ (Or.inr ⟨l, rfl⟩)
      refine ⟨_, ?_, (grouping_closed hg).append hgs, tight_closed hgs ht hn⟩
      rw [List.map_append, ← closed_eq hl₁, ← hp, pack, if_pos hn]
      simp only [List.flatten_cons, List.flatten_nil, List.append_nil]
    · have hf : (g ++ [l]).flatten = g.flatten ++ l := by simp
      obtain ⟨gs, hp, hgs, ht⟩ := pack_grouping limit ls (g ++ [l]) (by simpa using hl)
        (Or.inl (by rw [hf, List.length_append]; omega))
      refine ⟨gs, ?_, by simpa using hgs, ht⟩
      rw [← hp, hf, List.length_append, pack, if_neg hn]

theorem split_tight (limit : Nat) (s : String) :
    ∃ gs, split limit s = gs.map (fun g => String.ofList g.flatten) ∧
      Grouping limit (linesOf s.toList) gs ∧ Tight limit gs := by
  obtain ⟨gs, hp, hgs⟩ := pack_grouping limit (linesOf s.toList) []
    (fun l hl => ne_nil_of_mem_linesOf hl) (Or.inl (Nat.zero_le _))
  refine ⟨gs, ?_, hgs⟩
  have hp : pack limit [] 0 (linesOf s.toList) = gs.map List.flatten := hp
  simp [split, hp]

theorem split_grouping (limit : Nat) (s : String) :
    ∃ gs, split limit s = gs.map (fun g => String.ofList g.flatten) ∧
      Grouping limit (linesOf s.toList) gs := by
  obtain ⟨gs, hs, hg, -⟩ := split_tight limit s
  exact ⟨gs, hs, hg⟩

/-! ## Pieces -/

section
variable {limit : Nat} {cs : List Char} {gs : List (List (List Char))}
  (hg : Grouping limit (linesOf cs) gs)
include hg

theorem ne_nil_of_mem_group {g : List (List Char)} (h : g ∈ gs) : ∀ l ∈ g, l ≠ [] := by
  intro l hl
  have hm : l ∈ linesOf cs := by
    rw [← hg.lines]
    exact List.mem_flatten_of_mem h hl
  exact ne_nil_of_mem_linesOf hm

theorem Grouping.text : (gs.map List.flatten).flatten = cs := by
  rw [← List.flatten_flatten, hg.lines, flatten_linesOf]

theorem Grouping.piece_ne_nil {g : List (List Char)} (h : g ∈ gs) : g.flatten ≠ [] :=
  flatten_ne_nil (hg.filled g h) (ne_nil_of_mem_group hg h)

/-- A group that another one follows ends with a line that has its newline. -/
theorem Grouping.endsLine {front back : List (List (List Char))} {g : List (List Char)}
    (h : gs = front ++ g :: back) (hb : back ≠ []) : EndsLine g.flatten := by
  subst h
  obtain ⟨ls, l, rfl⟩ : ∃ ls l, g = ls ++ [l] := by
    simpa using List.eq_nil_or_concat g |>.resolve_left (hg.filled g (by simp))
  have hne : l ≠ [] := ne_nil_of_mem_group hg (g := ls ++ [l]) (by simp) l (by simp)
  obtain ⟨k, back, rfl⟩ := List.exists_cons_of_ne_nil hb
  have hk : k ≠ [] := hg.filled k (by simp)
  have hs : linesOf cs = (front.flatten ++ ls) ++ l :: (k ++ back.flatten) := by
    rw [← hg.lines]; simp
  have hl : EndsLine l := endsLine_of_linesOf_eq _ hs (by simp [hk])
  simpa [EndsLine, List.getLast?_append, List.getLast?_eq_some_getLast hne] using hl

theorem Grouping.isLine {g : List (List Char)} (h : g ∈ gs) (hn : limit < g.flatten.length) :
    IsLine g.flatten := by
  obtain ⟨l, rfl⟩ := (hg.fits g h).resolve_left (Nat.not_le.mpr hn)
  have hl : l ∈ linesOf cs := by
    rw [← hg.lines]
    exact List.mem_flatten_of_mem h (by simp)
  simpa using isLine_of_mem_linesOf hl

end

theorem join_split (limit : Nat) (s : String) : String.join (split limit s) = s := by
  obtain ⟨gs, hps, hg⟩ := split_grouping limit s
  rw [← String.toList_inj, String.toList_join, hps]
  simpa [List.flatMap_map, List.flatMap_def, Function.comp_def] using hg.text

/-- **A text is cut behind newlines.** Its pieces are not empty and put together they are the text.
Every piece but the last ends with a newline, as does all that stands before a cut, so that a piece
is made of whole lines; one that is over the limit is a single line. -/
theorem split_partition (limit : Nat) (s : String) :
    let ps := split limit s
    String.join ps = s ∧ (∀ p ∈ ps, p ≠ "") ∧ (∀ p ∈ ps.dropLast, EndsLine p.toList) ∧
      (∀ front back, ps = front ++ back → front ≠ [] → back ≠ [] →
        EndsLine (String.join front).toList) ∧
      (∃ gs : List (List (List Char)), gs.flatten = linesOf s.toList ∧
        ps = gs.map fun g => String.ofList g.flatten) ∧
      ∀ p ∈ ps, limit < p.length → IsLine p.toList := by
  intro ps
  obtain ⟨gs, hps, hg⟩ := split_grouping limit s
  have hps : ps = gs.map fun g => String.ofList g.flatten := hps
  have hmem : ∀ p ∈ ps, ∃ g ∈ gs, p = String.ofList g.flatten := by
    intro p hp
    rw [hps] at hp
    obtain ⟨g, h, rfl⟩ := List.mem_map.mp hp
    exact ⟨g, h, rfl⟩
  -- a piece with others behind it is a group with others behind it
  have hends : ∀ front p back, ps = front ++ p :: back → back ≠ [] → EndsLine p.toList := by
    intro front p back h hb
    obtain ⟨fs, hs, rfl, rfl, hh⟩ := List.map_eq_append_iff.mp (hps.symm.trans h)
    obtain ⟨g, bs, rfl, rfl, rfl⟩ := List.map_eq_cons_iff.mp hh
    rw [String.toList_ofList]
    exact hg.endsLine rfl (by simpa using hb)
  refine ⟨join_split limit s, ?_, ?_, ?_, ⟨gs, hg.lines, hps⟩, ?_⟩
  · intro p hp
    obtain ⟨g, h, rfl⟩ := hmem p hp
    simpa using hg.piece_ne_nil h
  · intro p hp
    obtain ⟨front, mid, h⟩ := List.append_of_mem hp
    have hne : ps ≠ [] := by rintro h; simp [h] at hp
    refine hends front p (mid ++ [ps.getLast hne]) ?_ (by simp)
    calc ps = ps.dropLast ++ [ps.getLast hne] := (List.dropLast_concat_getLast hne).symm
      _ = front ++ p :: (mid ++ [ps.getLast hne]) := by rw [h]; simp
  · intro front back h hf hb
    obtain ⟨fs, p, rfl⟩ : ∃ fs p, front = fs ++ [p] := by
      simpa using List.eq_nil_or_concat front |>.resolve_left hf
    have hp : EndsLine p.toList := hends fs p back (by simpa using h) hb
    simp [EndsLine, String.toList_join, List.getLast?_append] at hp ⊢
    simp [hp]
  · intro p hp hn
    obtain ⟨g, h, rfl⟩ := hmem p hp
    rw [← String.length_toList, String.toList_ofList] at hn
    rw [String.toList_ofList]
    exact hg.isLine h hn

end SecurityScan.Chunk
