import SecurityScan.Proofs.Packing

/-!
# Pieces that stay

The pieces of a text are settled from its front: with more text behind it, only the last one can
change. Neighbouring pieces are the pieces of the text that they make up, so that no piece is cut
again. A text within the limit is its own only piece, and analyzing it whole is analyzing its chunks.
-/

namespace SecurityScan

namespace Chunk

/-! ## First lines -/

theorem headD_linesOf_append (cs ds : List Char) :
    (linesOf cs).headD [] <+: (linesOf (cs ++ ds)).headD [] := by
  induction cs with
  | nil => exact List.nil_prefix
  | cons c cs ih =>
    by_cases hc : c = '\n'
    · subst hc
      rw [List.cons_append, linesOf_newline, linesOf_newline]
      exact List.prefix_rfl
    · rw [List.cons_append, linesOf_cons hc, linesOf_cons hc]
      exact List.cons_prefix_cons.mpr ⟨rfl, ih⟩

/-- More text can make the first line longer only. -/
theorem length_firstLine_le (s t : String) : (firstLine s).length ≤ (firstLine (s ++ t)).length := by
  simp only [firstLine, String.length_ofList, String.toList_append]
  exact (headD_linesOf_append s.toList t.toList).length_le

section
variable {limit : Nat} {s : String}

/-- A text begins with the first line of its first piece. -/
theorem IsCutting.firstLine_eq {p : String} {ps : List String} (h : IsCutting limit s (p :: ps)) :
    firstLine p = firstLine s := by
  have hp : linesOf p.toList ≠ [] := linesOf_ne_nil (by simpa using h.filled p (by simp))
  obtain ⟨l, ls, hl⟩ := List.exists_cons_of_ne_nil hp
  have hlines : linesOf p.toList ++ (groupsOf ps).flatten = linesOf s.toList := h.grouping.lines
  rw [firstLine, firstLine, ← hlines, hl]
  rfl

/-! ## Parts of a cutting -/

theorem isPacked_split (limit : Nat) (s : String) : IsPacked limit (split limit s) :=
  isPacked_iff.mpr (tight_split limit s)

theorem split_eq_iff {ps : List String} :
    split limit s = ps ↔ IsCutting limit s ps ∧ IsPacked limit ps := by
  constructor
  · rintro rfl
    exact ⟨isCutting_split limit s, isPacked_split limit s⟩
  · intro ⟨hcut, hpacked⟩
    exact ((isPacked_iff_eq_split hcut).mp hpacked).symm

theorem IsCutting.append {t : String} {ps qs : List String} (hs : IsCutting limit s ps)
    (ht : IsCutting limit t qs) (hends : ∀ p ∈ ps, EndsLine p.toList) :
    IsCutting limit (s ++ t) (ps ++ qs) where
  text := by rw [String.join_append, hs.text, ht.text]
  filled p hp := (List.mem_append.mp hp).elim (hs.filled p) (ht.filled p)
  ends p hp := by
    by_cases hqs : qs = []
    · rw [hqs, List.append_nil] at hp
      exact hs.ends p hp
    · rw [List.dropLast_append_of_ne_nil hqs] at hp
      exact (List.mem_append.mp hp).elim (hends p) (ht.ends p)
  fits p hp := (List.mem_append.mp hp).elim (hs.fits p) (ht.fits p)

/-- Neighbouring pieces are a cutting of the text that they make up. -/
theorem IsCutting.part {ps mid : List String} (h : IsCutting limit s ps) (hmid : mid <:+: ps) :
    IsCutting limit (String.join mid) mid where
  text := rfl
  filled p hp := h.filled p (hmid.subset hp)
  ends p hp := by
    obtain ⟨front, back, rfl⟩ := hmid
    have hp' : p ∈ mid := List.dropLast_subset mid hp
    refine h.ends p ?_
    by_cases hback : back = []
    · rw [hback, List.append_nil, List.dropLast_append_of_ne_nil (List.ne_nil_of_mem hp')]
      exact List.mem_append_right _ hp
    · rw [List.dropLast_append_of_ne_nil hback]
      exact List.mem_append_left _ (List.mem_append_right _ hp')
  fits p hp := h.fits p (hmid.subset hp)

/-- Neighbouring pieces are the pieces of the text that they make up. -/
theorem split_join_part {mid : List String} (hmid : mid <:+: split limit s) :
    split limit (String.join mid) = mid := by
  refine split_eq_iff.mpr ⟨(isCutting_split limit s).part hmid, ?_⟩
  obtain ⟨front, back, hsplit⟩ := hmid
  have hpacked := isPacked_split limit s
  rw [← hsplit] at hpacked
  exact hpacked.left_of_append.right_of_append

theorem split_piece {p : String} (hp : p ∈ split limit s) : split limit p = [p] := by
  obtain ⟨front, back, hsplit⟩ := List.append_of_mem hp
  have hone : split limit (String.join [p]) = [p] :=
    split_join_part ⟨front, back, by rw [hsplit]; simp⟩
  simpa using hone

/-! ## More text behind -/

/-- **Pieces with others behind them are settled.** With more text, the first line that did not go
into a piece is no shorter than before and still does not go in. -/
theorem split_append {front back : List String} (h : split limit s = front ++ back)
    (hback : back ≠ []) (t : String) :
    split limit (s ++ t) = front ++ split limit (String.join back ++ t) := by
  obtain ⟨hcut, hpacked⟩ := split_eq_iff.mp h
  have hrest := isCutting_split limit (String.join back ++ t)
  obtain ⟨hfront, -, hbetween⟩ := List.isChain_append.mp hpacked
  have hends : ∀ p ∈ front, EndsLine p.toList := by
    intro p hp
    refine hcut.ends p ?_
    rw [List.dropLast_append_of_ne_nil hback]
    exact List.mem_append_left _ hp
  have htext : s ++ t = String.join front ++ (String.join back ++ t) := by
    rw [← hcut.text, String.join_append, String.append_assoc]
  refine split_eq_iff.mpr ⟨?_, List.isChain_append.mpr ⟨hfront, ?_, ?_⟩⟩
  · rw [htext]
    exact (hcut.part ⟨[], back, rfl⟩).append hrest hends
  · exact isPacked_split limit _
  · -- both what followed before and what follows now begin with the first line of `back`
    intro p hp q hq
    obtain ⟨b, bs, rfl⟩ := List.exists_cons_of_ne_nil hback
    obtain ⟨qs, hqs⟩ := List.head?_eq_some_iff.mp hq
    have hover : limit < p.length + (firstLine b).length := hbetween p hp b rfl
    have hb : firstLine b = firstLine (String.join (b :: bs)) :=
      (hcut.part ⟨front, [], by simp⟩).firstLine_eq
    have hq : firstLine q = firstLine (String.join (b :: bs) ++ t) := by
      rw [hqs] at hrest
      exact hrest.firstLine_eq
    have hle := length_firstLine_le (String.join (b :: bs)) t
    rw [hq]
    rw [hb] at hover
    omega

/-- **Text behind a text changes its last piece at most.** The pieces before that one stay, also when
the text breaks off within a line. After them come the pieces of the last one with the new text. -/
theorem split_appended {kept : List String} {last : String} (h : split limit s = kept ++ [last])
    (t : String) :
    kept <+: split limit (s ++ t) ∧ split limit (s ++ t) = kept ++ split limit (last ++ t) := by
  have hsplit : split limit (s ++ t) = kept ++ split limit (last ++ t) := by
    simpa using split_append h (List.cons_ne_nil last []) t
  exact ⟨hsplit ▸ List.prefix_append kept _, hsplit⟩

/-- The line that the new text goes on with does not stay in its piece. -/
theorem split_appended_within_line :
    split 4 "ab\ncd\nx" = ["ab\n"] ++ ["cd\nx"] ∧
      ["ab\n"] <+: split 4 ("ab\ncd\nx" ++ "yz\n") ∧
      split 4 ("ab\ncd\nx" ++ "yz\n") = ["ab\n", "cd\n", "xyz\n"] := by
  have h : split 4 "ab\ncd\nx" = ["ab\n"] ++ ["cd\nx"] := by decide
  have hlast : split 4 ("cd\nx" ++ "yz\n") = ["cd\n", "xyz\n"] := by decide
  obtain ⟨hkept, hsplit⟩ := split_appended h "yz\n"
  refine ⟨h, hkept, ?_⟩
  rw [hsplit, hlast]
  rfl

end

end Chunk

/-! ## Whole or in chunks -/

namespace AnalysisUnit

/-- The units of the chunks of a text, be it within the limit or not. -/
def ofChunks (limit : Nat) (content : String) (label : Option String) : List AnalysisUnit :=
  (Chunk.ofText limit content label).map fun c => ⟨c.content, c.label⟩

theorem chunks_of_fits {limit : Nat} {content : String} (hc : content ≠ "")
    (hfits : content.length ≤ limit) (label : Option String) :
    Chunk.ofText limit content label = [⟨content, 1, 1, label⟩] := by
  have hone : Chunk.split limit content = [content] :=
    Chunk.split_eq_iff.mpr ⟨Chunk.isCutting_singleton hc hfits, .singleton content⟩
  rw [Chunk.ofText, hone]
  rfl

theorem ofText_eq_ofChunks {content : String} (hc : content ≠ "") (limit : Nat)
    (label : Option String) : ofText limit content label = ofChunks limit content label := by
  unfold ofText
  split
  · rename_i hfits
    rw [ofChunks, chunks_of_fits hc hfits]
    rfl
  · rfl

theorem ofText_eq_ofChunks_iff (limit : Nat) (content : String) (label : Option String) :
    ofText limit content label = ofChunks limit content label ↔ content ≠ "" := by
  constructor
  · rintro h rfl
    exact ofText_ne_nil limit "" label h
  · exact fun hc => ofText_eq_ofChunks hc limit label

/-- A text within the limit is analyzed without a note that it was split. -/
theorem analyzeText_of_fits {σ : Type} (call : Analyze σ) {limit : Nat} {content : String}
    (hfits : content.length ≤ limit) (label : Option String) :
    analyzeText call limit content label = analyzeAll call (ofText limit content label) := by
  unfold analyzeText
  rw [if_neg (Nat.not_lt.mpr hfits)]

/-- **Analyzing a text whole is analyzing its chunks.** Every text but the empty one has the units of
its chunks, so that the same calls are made, with the same results. One within the limit is its only
chunk, under the label of the text, and is analyzed as its chunks are, with the same notes too. No
piece is cut again. -/
theorem whole_as_chunks (limit : Nat) (content : String) (label : Option String) :
    (ofText limit content label = ofChunks limit content label ↔ content ≠ "") ∧
    (content ≠ "" → content.length ≤ limit →
      Chunk.ofText limit content label = [⟨content, 1, 1, label⟩] ∧
      ∀ (σ : Type) (call : Analyze σ),
        analyzeText call limit content label = analyzeAll call (ofChunks limit content label)) ∧
    (content ≠ "" → ∀ (σ : Type) (call : Analyze σ) (w : σ),
      calls call limit content label w =
        (analyzeAll (Session.recorded call) (ofChunks limit content label) (w, [])).value.2.2 ∧
      results call limit content label w =
        (analyzeAll call (ofChunks limit content label) w).value.1) ∧
    ∀ p ∈ Chunk.split limit content, Chunk.split limit p = [p] := by
  refine ⟨ofText_eq_ofChunks_iff limit content label, fun hc hfits => ?_, fun hc σ call w => ?_,
    fun p hp => Chunk.split_piece hp⟩
  · refine ⟨chunks_of_fits hc hfits label, fun σ call => ?_⟩
    rw [analyzeText_of_fits call hfits, ofText_eq_ofChunks hc]
  · rw [calls, results, value_analyzeText, value_analyzeText, ofText_eq_ofChunks hc]
    exact ⟨rfl, rfl⟩

end AnalysisUnit

end SecurityScan
