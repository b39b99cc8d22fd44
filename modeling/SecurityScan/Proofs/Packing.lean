import SecurityScan.Proofs.Dispatch

/-!
# Packing is optimal

A text can be cut behind newlines in many ways into pieces that are within the limit or single
lines. The pieces that packing makes are the fewest, and they are the only ones of which none could
take the first line of the next. Any two of them that follow one another are over the limit together,
which bounds their number by the length of the text.
-/

namespace SecurityScan

namespace Chunk

/-! ## The lines of a part of a text -/

theorem linesOf_ne_nil {cs : List Char} (h : cs ≠ []) : linesOf cs ≠ [] := by
  intro hn
  rw [← flatten_linesOf cs, hn] at h
  exact h rfl

/-- Text behind a newline adds its own lines. -/
theorem linesOf_append {a : List Char} (ha : EndsLine a) (b : List Char) :
    linesOf (a ++ b) = linesOf a ++ linesOf b := by
  induction a with
  | nil => cases ha
  | cons c a ih =>
    by_cases hnil : a = []
    · subst hnil
      obtain rfl : c = '\n' := by simpa [EndsLine] using ha
      rw [List.singleton_append, linesOf_newline, linesOf_newline]
      rfl
    · have ih := ih
        (by simpa [EndsLine, List.getLast?_cons, List.getLast?_eq_some_getLast hnil] using ha)
      by_cases hc : c = '\n'
      · subst hc
        rw [List.cons_append, linesOf_newline, linesOf_newline, ih, List.cons_append]
      · obtain ⟨l, ls, hl⟩ := List.exists_cons_of_ne_nil (linesOf_ne_nil hnil)
        rw [List.cons_append, linesOf_cons hc, linesOf_cons hc, ih, hl]
        rfl

theorem linesOf_line {l : List Char} (hne : l ≠ []) (hl : IsLine l) : linesOf l = [l] := by
  induction l with
  | nil => exact absurd rfl hne
  | cons c cs ih =>
    by_cases hnil : cs = []
    · subst hnil
      by_cases hc : c = '\n'
      · subst hc; rfl
      · rw [linesOf_cons hc]; rfl
    · rw [IsLine, List.dropLast_cons_of_ne_nil hnil, List.mem_cons, not_or] at hl
      rw [linesOf_cons (Ne.symm hl.1), ih hnil hl.2]
      rfl

/-- Lines that follow one another in a text are the lines of what they make up. -/
theorem linesOf_flatten {cs : List Char} : ∀ {g : List (List Char)} (front back : List (List Char)),
    linesOf cs = front ++ (g ++ back) → linesOf g.flatten = g
  | [], _, _, _ => rfl
  | l :: g, front, back, h => by
    have hl : l ∈ linesOf cs := by rw [h]; simp
    have hline : linesOf l = [l] :=
      linesOf_line (ne_nil_of_mem_linesOf hl) (isLine_of_mem_linesOf hl)
    by_cases hg : g = []
    · rw [hg, List.flatten_cons, List.flatten_nil, List.append_nil, hline]
    · have hends : EndsLine l := endsLine_of_linesOf_eq front h (by simp [hg])
      have ih := linesOf_flatten (g := g) (front ++ [l]) back (by rw [h]; simp)
      rw [List.flatten_cons, linesOf_append hends, hline, ih]
      rfl

theorem Grouping.linesOf_group {limit : Nat} {cs : List Char} {gs : List (List (List Char))}
    (h : Grouping limit (linesOf cs) gs) {g : List (List Char)} (hg : g ∈ gs) :
    linesOf g.flatten = g := by
  obtain ⟨front, back, rfl⟩ := List.append_of_mem hg
  exact linesOf_flatten front.flatten back.flatten (by rw [← h.lines]; simp)

/-! ## Ways to cut a text -/

/-- A text cut behind newlines into pieces that are within the limit or single lines. -/
structure IsCutting (limit : Nat) (s : String) (ps : List String) : Prop where
  text : String.join ps = s
  filled : ∀ p ∈ ps, p ≠ ""
  ends : ∀ p ∈ ps.dropLast, EndsLine p.toList
  fits : ∀ p ∈ ps, p.length ≤ limit ∨ IsLine p.toList

/-- A text up to its first newline, and with it. -/
def firstLine (s : String) : String := String.ofList ((linesOf s.toList).headD [])

/-- The first line of a piece is too long for the piece before it. -/
def IsPacked (limit : Nat) (ps : List String) : Prop :=
  ps.IsChain fun p q => limit < p.length + (firstLine q).length

/-- The pieces of a text as groups of lines. -/
def groupsOf (ps : List String) : List (List (List Char)) := ps.map fun p => linesOf p.toList

theorem isPacked_iff {limit : Nat} {ps : List String} :
    IsPacked limit ps ↔ Tight limit (groupsOf ps) := by
  simp only [IsPacked, Tight, groupsOf, List.isChain_map, flatten_linesOf, firstLine,
    String.length_ofList, String.length_toList]

theorem texts_groupsOf (ps : List String) :
    ((groupsOf ps).map fun g => String.ofList g.flatten) = ps := by
  simp [groupsOf, Function.comp_def]

theorem flatten_groupsOf : ∀ {ps : List String}, (∀ p ∈ ps.dropLast, EndsLine p.toList) →
    (groupsOf ps).flatten = linesOf (String.join ps).toList
  | [], _ => by simp [groupsOf, linesOf]
  | [p], _ => by simp [groupsOf]
  | p :: q :: ps, h => by
    rw [List.dropLast_cons_of_ne_nil (List.cons_ne_nil _ _), List.forall_mem_cons] at h
    have ih : (groupsOf (q :: ps)).flatten = linesOf (String.join (q :: ps)).toList :=
      flatten_groupsOf h.2
    have hjoin : (String.join (p :: q :: ps)).toList =
        p.toList ++ (String.join (q :: ps)).toList := by
      simp [String.toList_join]
    rw [hjoin, linesOf_append h.1, ← ih]
    rfl

section
variable {limit : Nat} {s : String}

theorem IsCutting.grouping {ps : List String} (h : IsCutting limit s ps) :
    Grouping limit (linesOf s.toList) (groupsOf ps) where
  lines := by rw [flatten_groupsOf h.ends, h.text]
  filled g hg := by
    obtain ⟨p, hp, rfl⟩ := List.mem_map.mp hg
    exact linesOf_ne_nil (by simpa using h.filled p hp)
  fits g hg := by
    obtain ⟨p, hp, rfl⟩ := List.mem_map.mp hg
    rw [flatten_linesOf, String.length_toList]
    refine (h.fits p hp).imp_right fun hl => ?_
    exact ⟨_, linesOf_line (by simpa using h.filled p hp) hl⟩

theorem groupsOf_texts {gs : List (List (List Char))} (h : Grouping limit (linesOf s.toList) gs) :
    groupsOf (gs.map fun g => String.ofList g.flatten) = gs := by
  rw [groupsOf, List.map_map]
  refine (List.map_congr_left fun g hg => ?_).trans (List.map_id gs)
  rw [Function.comp_apply, String.toList_ofList, h.linesOf_group hg, id]

/-- The texts of groups of lines are a cutting. -/
theorem Grouping.isCutting {gs : List (List (List Char))}
    (h : Grouping limit (linesOf s.toList) gs) :
    IsCutting limit s (gs.map fun g => String.ofList g.flatten) where
  text := by
    rw [← String.toList_inj]
    simpa [String.toList_join, List.flatMap_map, List.flatMap_def, Function.comp_def] using h.text
  filled p hp := by
    obtain ⟨g, hg, rfl⟩ := List.mem_map.mp hp
    simpa using h.piece_ne_nil hg
  ends p hp := by
    rw [← List.map_dropLast] at hp
    obtain ⟨g, hg, rfl⟩ := List.mem_map.mp hp
    obtain ⟨front, mid, hmid⟩ := List.append_of_mem hg
    have hne : gs ≠ [] := by rintro rfl; cases hg
    have hgs : gs = front ++ g :: (mid ++ [gs.getLast hne]) := by
      rw [← List.cons_append, ← List.append_assoc, ← hmid, List.dropLast_concat_getLast]
    rw [String.toList_ofList]
    exact h.endsLine hgs (by simp)
  fits p hp := by
    obtain ⟨g, hg, rfl⟩ := List.mem_map.mp hp
    rw [String.length_ofList, String.toList_ofList]
    exact (Nat.lt_or_ge limit g.flatten.length).symm.imp_right (h.isLine hg)

end

/-! ## Tight groupings -/

section
variable {limit : Nat} {ls g : List (List Char)} {gs : List (List (List Char))}

theorem Grouping.tail (h : Grouping limit ls (g :: gs)) : Grouping limit gs.flatten gs where
  lines := rfl
  filled k hk := h.filled k (List.mem_cons_of_mem _ hk)
  fits k hk := h.fits k (List.mem_cons_of_mem _ hk)

theorem Grouping.eq_nil_iff (h : Grouping limit ls gs) : gs = [] ↔ ls = [] := by
  constructor
  · rintro rfl
    exact h.lines.symm
  · rintro rfl
    refine List.eq_nil_iff_forall_not_mem.mpr fun g hg => h.filled g hg ?_
    exact List.flatten_eq_nil_iff.mp h.lines g hg

/-- A group that begins no later than one of a tight grouping does not end behind it: with the next
line it would be over the limit, and it is no single line. -/
theorem Tight.ends (hg : Grouping limit ls (g :: gs)) (ht : Tight limit (g :: gs))
    (front : List (List Char)) {more rest : List (List Char)}
    (hfits : (front ++ g ++ more).flatten.length ≤ limit ∨ ∃ l, front ++ g ++ more = [l])
    (hmore : gs.flatten = more ++ rest) : more = [] := by
  by_contra hne
  obtain ⟨l, more, rfl⟩ := List.exists_cons_of_ne_nil hne
  obtain ⟨k, gs, rfl⟩ : ∃ k ks, gs = k :: ks :=
    List.exists_cons_of_ne_nil fun hnil => by simp [hnil] at hmore
  have htail := hg.tail
  rw [hmore, List.cons_append] at htail
  have hover : limit < g.flatten.length + l.length := by
    rw [← htail.headD_eq]
    exact (List.isChain_cons_cons.mp ht).1
  obtain hfits | ⟨k, hk⟩ := hfits
  · simp only [List.flatten_append, List.flatten_cons, List.length_append] at hfits
    omega
  · have hlength := congrArg List.length hk
    have hpos := List.length_pos_iff.mpr (hg.filled g (List.mem_cons_self ..))
    simp only [List.length_append, List.length_cons, List.length_nil] at hlength
    omega

end

section
variable {limit : Nat}

/-- **A tight grouping has the fewest groups.** It stays ahead of any other: the groups of `hs`,
though they may begin further back, have not come beyond those of `gs`. -/
theorem Tight.length_le : ∀ {gs hs : List (List (List Char))} {ls : List (List Char)}
    (front : List (List Char)), Grouping limit ls gs → Tight limit gs →
      Grouping limit (front ++ ls) hs → gs.length ≤ hs.length
  | [], _, _, _, _, _, _ => Nat.zero_le _
  | g :: gs, hs, ls, front, hg, ht, hh => by
    have hls : ls = g ++ gs.flatten := hg.lines.symm
    have hgne : g ≠ [] := hg.filled g (List.mem_cons_self ..)
    obtain ⟨h, hs, rfl⟩ :=
      List.exists_cons_of_ne_nil (mt hh.eq_nil_iff.mp (by simp [hls, hgne]))
    have hlines : h ++ hs.flatten = (front ++ g) ++ gs.flatten := by
      rw [← List.flatten_cons, hh.lines, hls, List.append_assoc]
    obtain ⟨front', hrest⟩ : ∃ front', hs.flatten = front' ++ gs.flatten := by
      obtain ⟨as, -, hs'⟩ | ⟨more, hmore, hs'⟩ := List.append_eq_append_iff.mp hlines
      · exact ⟨as, hs'⟩
      · have hfits := hh.fits h (List.mem_cons_self ..)
        rw [hmore] at hfits
        rw [ht.ends hg front hfits hs'] at hs'
        exact ⟨[], hs'.symm⟩
    have hh' := hh.tail
    rw [hrest] at hh'
    have hle := Tight.length_le front' hg.tail (List.IsChain.tail ht) hh'
    exact Nat.succ_le_succ hle

/-- **There is one tight grouping.** -/
theorem Tight.eq : ∀ {gs hs : List (List (List Char))} {ls : List (List Char)},
    Grouping limit ls gs → Tight limit gs → Grouping limit ls hs → Tight limit hs → gs = hs
  | [], hs, _, hg, _, hh, _ => (hh.eq_nil_iff.mpr (hg.eq_nil_iff.mp rfl)).symm
  | g :: gs, hs, ls, hg, htg, hh, hth => by
    have hls : ls ≠ [] := mt hg.eq_nil_iff.mpr (List.cons_ne_nil g gs)
    obtain ⟨h, hs, rfl⟩ := List.exists_cons_of_ne_nil (mt hh.eq_nil_iff.mp hls)
    have hlines : g ++ gs.flatten = h ++ hs.flatten := hg.lines.trans hh.lines.symm
    have hsame : g = h := by
      obtain ⟨more, hmore, hrest⟩ | ⟨more, hmore, hrest⟩ := List.append_eq_append_iff.mp hlines
      · have hfits := hh.fits h (List.mem_cons_self ..)
        rw [hmore] at hfits
        rw [hmore, htg.ends hg [] hfits hrest, List.append_nil]
      · have hfits := hg.fits g (List.mem_cons_self ..)
        rw [hmore] at hfits
        rw [hmore, hth.ends hh [] hfits hrest, List.append_nil]
    subst hsame
    have hrest := List.append_cancel_left hlines
    have hh' := hh.tail
    rw [← hrest] at hh'
    rw [Tight.eq hg.tail (List.IsChain.tail htg) hh' (List.IsChain.tail hth)]

/-- Two groups that follow one another are over the limit together. -/
theorem Tight.pairs_le : ∀ {gs : List (List (List Char))}, Tight limit gs →
    gs.length / 2 * (limit + 1) ≤ (gs.map List.flatten).flatten.length
  | [], _ | [_], _ => by simp
  | g :: h :: gs, ht => by
    obtain ⟨hpair, htail⟩ := List.isChain_cons_cons.mp ht
    have ih : gs.length / 2 * (limit + 1) ≤ (gs.map List.flatten).flatten.length :=
      Tight.pairs_le htail.tail
    have hfirst : (h.headD []).length ≤ h.flatten.length := by
      cases h with
      | nil => exact Nat.zero_le _
      | cons l ls => simp
    have hcount : (g :: h :: gs).length / 2 = gs.length / 2 + 1 := by
      simp only [List.length_cons]
      omega
    rw [hcount, Nat.add_mul, Nat.one_mul]
    simp only [List.map_cons, List.flatten_cons, List.length_append] at ih ⊢
    omega

end

/-! ## The pieces of a text -/

section
variable {limit : Nat} {s : String}

theorem isCutting_split (limit : Nat) (s : String) : IsCutting limit s (split limit s) := by
  obtain ⟨gs, hs, hg, -⟩ := split_tight limit s
  rw [hs]
  exact hg.isCutting

theorem tight_split (limit : Nat) (s : String) : Tight limit (groupsOf (split limit s)) := by
  obtain ⟨gs, hs, hg, ht⟩ := split_tight limit s
  rwa [hs, groupsOf_texts hg]

theorem length_split_le {ps : List String} (h : IsCutting limit s ps) :
    (split limit s).length ≤ ps.length := by
  have hle := (tight_split limit s).length_le [] (isCutting_split limit s).grouping h.grouping
  simpa [groupsOf] using hle

theorem isPacked_iff_eq_split {ps : List String} (h : IsCutting limit s ps) :
    IsPacked limit ps ↔ ps = split limit s := by
  rw [isPacked_iff]
  constructor
  · intro ht
    have hgroups := ht.eq h.grouping (isCutting_split limit s).grouping (tight_split limit s)
    rw [← texts_groupsOf ps, hgroups, texts_groupsOf]
  · rintro rfl
    exact tight_split limit s

theorem pairs_split_le (limit : Nat) (s : String) :
    (split limit s).length / 2 * (limit + 1) ≤ s.length := by
  obtain ⟨gs, hs, hg, ht⟩ := split_tight limit s
  have hle := ht.pairs_le
  have hcount : (split limit s).length = gs.length := by rw [hs, List.length_map]
  rwa [hg.text, String.length_toList, ← hcount] at hle

theorem split_ne_nil (limit : Nat) (hs : s ≠ "") : split limit s ≠ [] := by
  intro hnil
  refine hs ?_
  rw [← join_split limit s, hnil]
  rfl

theorem isCutting_singleton (hs : s ≠ "") (hfits : s.length ≤ limit) : IsCutting limit s [s] where
  text := by simp
  filled := by simpa using hs
  ends := by simp
  fits := by simpa using Or.inl hfits

end

end Chunk

/-! ## The calls for a text -/

namespace AnalysisUnit

/-- A text is analyzed in as many units as it has pieces, an empty one in one. -/
theorem length_ofText (limit : Nat) (content : String) (label : Option String) :
    (ofText limit content label).length = max 1 (Chunk.split limit content).length := by
  by_cases hfits : content.length ≤ limit
  · have hunits : ofText limit content label = [⟨content, label⟩] := if_pos hfits
    have hone : (Chunk.split limit content).length ≤ 1 := by
      by_cases hempty : content = ""
      · subst hempty
        exact Nat.zero_le 1
      · exact Chunk.length_split_le (Chunk.isCutting_singleton hempty hfits)
    rw [hunits, Nat.max_eq_left hone]
    rfl
  · have hunits : ofText limit content label =
        (Chunk.ofText limit content label).map fun c => ⟨c.content, c.label⟩ := if_neg hfits
    have hne : content ≠ "" := by
      rintro rfl
      exact hfits (Nat.zero_le limit)
    rw [hunits, List.length_map, Chunk.ofText, List.length_mapIdx, Nat.max_eq_right]
    exact List.length_pos_iff.mpr (Chunk.split_ne_nil limit hne)

theorem length_calls {σ : Type} (call : Analyze σ) (limit : Nat) (content : String)
    (label : Option String) (w : σ) :
    (calls call limit content label w).length = max 1 (Chunk.split limit content).length := by
  rw [← length_ofText limit content label, ← (calls_and_results call limit content label w).1,
    List.length_map]

end AnalysisUnit

/-- **Packing is optimal.** A text is cut behind newlines into pieces that are within the limit or
single lines. No other such cutting has fewer pieces, so that none would be analyzed in fewer calls,
and in no other one each piece and the first line of the next are over the limit together. -/
theorem Chunk.split_fewest (limit : Nat) (s : String) :
    Chunk.IsCutting limit s (Chunk.split limit s) ∧
    (∀ ps, Chunk.IsCutting limit s ps → (Chunk.split limit s).length ≤ ps.length) ∧
    (∀ ps, Chunk.IsCutting limit s ps → (Chunk.IsPacked limit ps ↔ ps = Chunk.split limit s)) ∧
    ∀ (σ : Type) (call : Analyze σ) (label : Option String) (w : σ),
      (AnalysisUnit.calls call limit s label w).length = max 1 (Chunk.split limit s).length ∧
      ∀ ps, Chunk.IsCutting limit s ps →
        (AnalysisUnit.calls call limit s label w).length ≤ max 1 ps.length := by
  refine ⟨Chunk.isCutting_split limit s, fun ps h => Chunk.length_split_le h,
    fun ps h => Chunk.isPacked_iff_eq_split h, fun σ call label w => ?_⟩
  have hcalls := AnalysisUnit.length_calls call limit s label w
  refine ⟨hcalls, fun ps h => ?_⟩
  rw [hcalls]
  have hle := Chunk.length_split_le h
  omega

/-- **The number of calls is bounded by the length of the text.** Two pieces that follow one another
are longer than the limit together. -/
theorem AnalysisUnit.calls_bounded (limit : Nat) (s : String) :
    (Chunk.split limit s).length / 2 * (limit + 1) ≤ s.length ∧
    ∀ (σ : Type) (call : Analyze σ) (label : Option String) (w : σ),
      (calls call limit s label w).length ≤ 2 * s.length / (limit + 1) + 1 := by
  have hpairs := Chunk.pairs_split_le limit s
  refine ⟨hpairs, fun σ call label w => ?_⟩
  have hhalf : (Chunk.split limit s).length / 2 ≤ s.length / (limit + 1) :=
    (Nat.le_div_iff_mul_le (Nat.succ_pos limit)).mpr hpairs
  have hdouble : 2 * (s.length / (limit + 1)) ≤ 2 * s.length / (limit + 1) :=
    Nat.mul_div_le_mul_div_assoc ..
  rw [length_calls]
  omega

end SecurityScan
