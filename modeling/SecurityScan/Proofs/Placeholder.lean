import Mathlib.Data.List.Forall2
import SecurityScan.Prompt.Basic
import SecurityScan.Proofs.Attempt

/-!
# Templates read

A template is read from its front: doubled braces, other characters, and fields. A field is a name,
steps to a part of its value, a conversion and a layout between two braces. What is read is all of the
template, each piece from its own source.
-/

namespace SecurityScan.Prompt

def isBrace (c : Char) : Bool := c == '\x7b' || c == '\x7d'

def Braceless (cs : List Char) : Prop := ∀ c ∈ cs, isBrace c = false

instance (cs : List Char) : Decidable (Braceless cs) := List.decidableBAll _ cs

/-- A piece of a template with what it is read from. -/
structure Segment where
  source : List Char
  piece : Piece

/-- How a template is read. -/
inductive Reads : List Char → List Segment → Prop
  | nil : Reads [] []
  | brace {c : Char} {rest : List Char} {segs : List Segment} : isBrace c = true → Reads rest segs →
    Reads (c :: c :: rest) (⟨[c, c], .char c⟩ :: segs)
  | char {c : Char} {rest : List Char} {segs : List Segment} : isBrace c = false → Reads rest segs →
    Reads (c :: rest) (⟨[c], .char c⟩ :: segs)
  | field {body rest : List Char} {p : Placeholder} {segs : List Segment} :
    placeholder? (body ++ rest) = some (p, rest) → Reads rest segs →
    Reads ('\x7b' :: (body ++ rest)) (⟨'\x7b' :: body, .placeholder p⟩ :: segs)

/-! ## Fields -/

/-- What follows the name and the steps of a field. -/
inductive Tail : Option Char → List Char → List Char → Prop
  | plain : Tail none [] ['\x7d']
  | layout (layout : List Char) : Tail none layout (':' :: (layout ++ ['\x7d']))
  | conversion (c : Char) : Tail (some c) [] ['!', c, '\x7d']
  | both (c : Char) (layout : List Char) :
    Tail (some c) layout ('!' :: c :: ':' :: (layout ++ ['\x7d']))

theorem fieldName_eq_some {inBrackets : Bool} {cs written rest : List Char} {mark : Char}
    (h : fieldName inBrackets cs = some (written, mark, rest)) :
    cs = written ++ mark :: rest ∧ (mark = '\x7d' ∨ mark = ':' ∨ mark = '!') := by
  induction cs generalizing inBrackets written with
  | nil => cases h
  | cons c cs ih =>
    have hmore : ∀ {b}, (fieldName b cs).map (fun r => (c :: r.1, r.2)) = some (written, mark, rest) →
        c :: cs = written ++ mark :: rest ∧ (mark = '\x7d' ∨ mark = ':' ∨ mark = '!') := by
      intro b hb
      obtain ⟨⟨name, d, more⟩, hname, heq⟩ := Option.map_eq_some_iff.mp hb
      cases heq
      obtain ⟨rfl, hmark⟩ := ih hname
      exact ⟨rfl, hmark⟩
    rw [fieldName] at h
    split at h
    · exact hmore h
    · split at h
      · cases h
      · split at h
        · rename_i hend
          cases h
          exact ⟨rfl, by simpa only [Bool.or_eq_true, beq_iff_eq, or_assoc] using hend⟩
        · exact hmore h

/-- The name of a field holds no mark and no brace. -/
theorem name_of_fieldName {cs written rest : List Char} {mark : Char}
    (h : fieldName false cs = some (written, mark, rest)) {c : Char}
    (hc : c ∈ written.takeWhile fun c => !isStepMark c) :
    isBrace c = false ∧ c ≠ ':' ∧ c ≠ '!' := by
  induction cs generalizing written with
  | nil => cases h
  | cons d cs ih =>
    rw [fieldName, if_neg Bool.false_ne_true] at h
    split at h
    · cases h
    · rename_i hopen
      split at h
      · cases h
        cases hc
      · rename_i hend
        obtain ⟨⟨name, e, more⟩, hname, heq⟩ := Option.map_eq_some_iff.mp h
        cases heq
        rw [List.takeWhile_cons] at hc
        split at hc
        · rename_i hstep
          obtain rfl | hc := List.mem_cons.mp hc
          · simpa [isBrace, hopen, and_assoc] using hend
          · have hbracket : (d == '[') = false := by
              simp only [isStepMark, Bool.not_or, Bool.and_eq_true, Bool.not_eq_true'] at hstep
              exact hstep.2
            rw [hbracket] at hname
            exact ih hname hc
        · cases hc

theorem layoutText_eq_some {depth : Nat} {cs layout rest : List Char}
    (h : layoutText depth cs = some (layout, rest)) : cs = layout ++ '\x7d' :: rest := by
  induction cs generalizing depth layout with
  | nil => cases h
  | cons c cs ih =>
    have hmore : ∀ {d}, (layoutText d cs).map (fun r => (c :: r.1, r.2)) = some (layout, rest) →
        c :: cs = layout ++ '\x7d' :: rest := by
      intro d hd
      obtain ⟨⟨l, more⟩, hl, heq⟩ := Option.map_eq_some_iff.mp hd
      cases heq
      rw [ih hl]
      rfl
    rw [layoutText.eq_def] at h
    dsimp only at h
    split at h
    · exact hmore h
    · split at h
      · rename_i hclose
        split at h
        · cases h
          rw [eq_of_beq hclose]
          rfl
        · exact hmore h
      · exact hmore h

theorem ofName?_eq_some {written layout : List Char} {conversion : Option Char} {p : Placeholder}
    (h : ofName? written conversion layout = some p) :
    p.name = written.takeWhile (fun c => !isStepMark c) ∧ p.name ≠ [] ∧
    steps written.length (written.drop p.name.length) = some p.steps ∧ p.conversion = conversion ∧
    p.layout = layout ∧ p.nested = layout.contains '\x7b' := by
  unfold ofName? at h
  dsimp only at h
  obtain ⟨hname, h⟩ := Option.ite_none_left_eq_some.mp h
  obtain ⟨s, hs, h⟩ := Option.bind_eq_some_iff.mp h
  cases h
  refine ⟨rfl, ?_, hs, rfl, rfl, rfl⟩
  intro hempty
  exact hname (Bool.or_eq_true_iff.mpr (Or.inl (List.isEmpty_iff.mpr hempty)))

theorem drop_length_takeWhile (p : Char → Bool) (cs : List Char) :
    cs.drop (cs.takeWhile p).length = cs.dropWhile p := by
  conv => lhs; arg 2; rw [← @List.takeWhile_append_dropWhile _ p cs]
  exact List.drop_left

/-- The source of a field without its opening brace. -/
structure IsField (p : Placeholder) (body : List Char) : Prop where
  plain : ∀ c ∈ p.name, isBrace c = false ∧ c ≠ ':' ∧ c ≠ '!'
  named : p.name ≠ []
  nested : p.nested = p.layout.contains '\x7b'
  eq : ∃ fuel more tail, body = p.name ++ (more ++ tail) ∧ steps fuel more = some p.steps ∧
    (∀ c ∈ more.head?, isStepMark c = true) ∧ Tail p.conversion p.layout tail

theorem isField_of_written {cs written rest tail layout : List Char} {mark : Char}
    {conversion : Option Char} {p : Placeholder} (hname : fieldName false cs = some (written, mark, rest))
    (hp : ofName? written conversion layout = some p) (htail : Tail conversion layout tail) :
    IsField p (written ++ tail) := by
  obtain ⟨heq, hne, hsteps, rfl, rfl, hnested⟩ := ofName?_eq_some hp
  have hsplit : written = p.name ++ written.dropWhile fun c => !isStepMark c := by
    rw [heq, List.takeWhile_append_dropWhile]
  have hdrop : written.drop p.name.length = written.dropWhile fun c => !isStepMark c := by
    rw [heq, drop_length_takeWhile]
  refine ⟨fun c hc => name_of_fieldName hname (heq ▸ hc), hne, hnested, _, _, tail, ?_, hsteps,
    fun c hc => ?_, htail⟩
  · rw [hdrop, ← List.append_assoc, ← hsplit]
  · have hhead := List.head?_dropWhile_not (fun c => !isStepMark c) written
    rw [hdrop] at hc
    rw [hc] at hhead
    simpa using hhead

theorem IsField.exists_cons {p : Placeholder} {body : List Char} (h : IsField p body) :
    ∃ c cs, body = c :: cs ∧ isBrace c = false := by
  obtain ⟨fuel, more, tail, rfl, -⟩ := h.eq
  obtain ⟨c, cs, hname⟩ := List.exists_cons_of_ne_nil h.named
  exact ⟨c, cs ++ (more ++ tail), by rw [hname]; rfl, (h.plain c (by simp [hname])).1⟩

theorem placeholder?_eq_some {cs after : List Char} {p : Placeholder}
    (h : placeholder? cs = some (p, after)) : ∃ body, cs = body ++ after ∧ IsField p body := by
  obtain ⟨⟨written, mark, rest⟩, hname, hread⟩ := Option.bind_eq_some_iff.mp h
  clear h
  dsimp only at hread
  obtain ⟨rfl, hmark⟩ := fieldName_eq_some hname
  split at hread
  · rename_i hclose
    obtain ⟨p', hp, heq⟩ := Option.bind_eq_some_iff.mp hread
    cases heq
    exact ⟨_, by simp [eq_of_beq hclose], isField_of_written hname hp .plain⟩
  · split at hread
    · rename_i hlayout
      obtain ⟨⟨layout, more⟩, hl, hread⟩ := Option.bind_eq_some_iff.mp hread
      obtain ⟨p', hp, heq⟩ := Option.bind_eq_some_iff.mp hread
      cases heq
      exact ⟨_, by simp [eq_of_beq hlayout, layoutText_eq_some hl],
        isField_of_written hname hp (.layout layout)⟩
    · rename_i hclose hlayout
      obtain rfl : mark = '!' := by simp_all
      split at hread
      · obtain ⟨p', hp, heq⟩ := Option.bind_eq_some_iff.mp hread
        cases heq
        exact ⟨_, by simp, isField_of_written hname hp (.conversion _)⟩
      · obtain ⟨⟨layout, more⟩, hl, hread⟩ := Option.bind_eq_some_iff.mp hread
        obtain ⟨p', hp, heq⟩ := Option.bind_eq_some_iff.mp hread
        cases heq
        exact ⟨_, by simp [layoutText_eq_some hl], isField_of_written hname hp (.both _ layout)⟩
      · cases hread

/-! ## Templates -/

section
variable {cs : List Char} {segs : List Segment}

theorem Reads.pieces (h : Reads cs segs) : pieces? cs = some (segs.map Segment.piece) := by
  induction h with
  | nil => simp [pieces?]
  | @brace c rest segs hc h ih =>
    obtain rfl | rfl : c = '\x7b' ∨ c = '\x7d' := by simpa [isBrace] using hc
    · simp [pieces?, ih]
    · simp [pieces?, ih]
  | @char c rest segs hc h ih =>
    have hplain : c ≠ '\x7b' ∧ c ≠ '\x7d' := by simpa [isBrace] using hc
    rw [pieces?]
    all_goals simp_all
  | @field body rest p segs hp h ih =>
    obtain ⟨body', heq, hfield⟩ := placeholder?_eq_some hp
    obtain rfl := List.append_cancel_right heq
    obtain ⟨c, cs, rfl, hc⟩ := hfield.exists_cons
    have hshorter : rest.length < (c :: cs ++ rest).length := by
      rw [List.length_append, List.length_cons]
      omega
    rw [pieces?, hp]
    · simp only [hshorter, if_true, ih]
      rfl
    · rintro rest' hrest
      obtain rfl : c = '\x7b' := (List.cons.inj hrest).1
      cases hc

/-- All of a template is read, each piece from its own source. -/
theorem Reads.sources (h : Reads cs segs) : (segs.map Segment.source).flatten = cs := by
  induction h with
  | nil => rfl
  | brace _ _ ih => simp [ih]
  | char _ _ ih => simp [ih]
  | field _ _ ih => simp [ih]

theorem Reads.isField (h : Reads cs segs) : ∀ s ∈ segs, ∀ p, s.piece = .placeholder p →
    ∃ body, s.source = '\x7b' :: body ∧ IsField p body := by
  induction h with
  | nil => simp
  | brace _ _ ih => exact List.forall_mem_cons.mpr ⟨nofun, ih⟩
  | char _ _ ih => exact List.forall_mem_cons.mpr ⟨nofun, ih⟩
  | @field body rest p segs hp _ ih =>
    refine List.forall_mem_cons.mpr ⟨?_, ih⟩
    rintro _ ⟨⟩
    obtain ⟨body', heq, hfield⟩ := placeholder?_eq_some hp
    obtain rfl := List.append_cancel_right heq
    exact ⟨body, rfl, hfield⟩

theorem exists_reads {cs : List Char} {ps : List Piece} (h : pieces? cs = some ps) :
    ∃ segs, Reads cs segs ∧ segs.map Segment.piece = ps := by
  fun_induction pieces? cs generalizing ps with
  | case1 =>
    cases h
    exact ⟨[], .nil, rfl⟩
  | case2 rest ih =>
    obtain ⟨qs, hqs, rfl⟩ := Option.map_eq_some_iff.mp h
    obtain ⟨segs, hsegs, rfl⟩ := ih hqs
    exact ⟨_, .brace rfl hsegs, rfl⟩
  | case3 rest ih =>
    obtain ⟨qs, hqs, rfl⟩ := Option.map_eq_some_iff.mp h
    obtain ⟨segs, hsegs, rfl⟩ := ih hqs
    exact ⟨_, .brace rfl hsegs, rfl⟩
  | case4 => cases h
  | case5 => cases h
  | case6 rest hrest p after hp hshorter ih =>
    obtain ⟨qs, hqs, rfl⟩ := Option.map_eq_some_iff.mp h
    obtain ⟨segs, hsegs, rfl⟩ := ih hqs
    obtain ⟨body, rfl, -⟩ := placeholder?_eq_some hp
    exact ⟨_, .field hp hsegs, rfl⟩
  | case7 => cases h
  | case8 c rest hopen hclose h1 h2 ih =>
    obtain ⟨qs, hqs, rfl⟩ := Option.map_eq_some_iff.mp h
    obtain ⟨segs, hsegs, rfl⟩ := ih hqs
    exact ⟨_, .char (by simpa [isBrace] using ⟨h2, h1⟩) hsegs, rfl⟩

end

/-! ## Filling -/

/-- The layout of a placeholder, filled in where it holds placeholders of its own. -/
def filledLayout (values : List (String × String)) (depth : Nat) (p : Placeholder) :
    Filling (List Char) :=
  if p.nested then fillAt values depth p.layout else pure p.layout

theorem Filling.ofOption_eq_ok {α : Type} {x : Option α} {a : α} :
    Filling.ofOption x = .ok a ↔ x = some a := by
  cases x <;> simp [Filling.ofOption]

theorem mapM_eq_ok_iff {α β ε : Type} {f : α → Except ε β} {xs : List α} {ys : List β} :
    xs.mapM f = .ok ys ↔ List.Forall₂ (fun x y => f x = .ok y) xs ys := by
  constructor
  · intro h
    induction xs generalizing ys with
    | nil =>
      cases h
      exact .nil
    | cons x xs ih =>
      obtain ⟨y, rest, hy, hrest, rfl⟩ := exists_of_mapM_cons h
      exact .cons hy (ih hrest)
  · intro h
    induction h with
    | nil => rfl
    | cons hy _ ih =>
      rw [List.mapM_cons, hy, ih]
      rfl

theorem forall₂_of_mem {α β : Type} {R S : α → β → Prop} {xs : List α} {ys : List β}
    (h : List.Forall₂ R xs ys) (himp : ∀ x ∈ xs, ∀ y ∈ ys, R x y → S x y) : List.Forall₂ S xs ys := by
  obtain ⟨hlength, hzip⟩ := List.forall₂_iff_zip.mp h
  refine List.forall₂_iff_zip.mpr ⟨hlength, fun hmem => ?_⟩
  obtain ⟨hx, hy⟩ := List.of_mem_zip hmem
  exact himp _ hx _ hy (hzip hmem)

theorem fillAt_eq_ok_iff {values : List (String × String)} {depth : Nat} {cs out : List Char} :
    fillAt values (depth + 1) cs = .ok out ↔ ∃ segs texts, Reads cs segs ∧
      List.Forall₂ (fun s t => fillPiece values (filledLayout values depth) s.piece = .ok t) segs texts ∧
      texts.flatten = out := by
  constructor
  · intro h
    obtain ⟨ps, hps, h⟩ := exists_of_bind h
    obtain ⟨texts, htexts, h⟩ := exists_of_bind h
    cases h
    obtain ⟨segs, hsegs, rfl⟩ := exists_reads (Filling.ofOption_eq_ok.mp hps)
    exact ⟨segs, texts, hsegs, List.forall₂_map_left_iff.mp (mapM_eq_ok_iff.mp htexts), rfl⟩
  · rintro ⟨segs, texts, hsegs, htexts, rfl⟩
    have hps : (segs.map Segment.piece).mapM (fillPiece values (filledLayout values depth)) = .ok texts :=
      mapM_eq_ok_iff.mpr (List.forall₂_map_left_iff.mpr htexts)
    show (Filling.ofOption (pieces? cs) >>= fun ps =>
      ps.mapM (fillPiece values (filledLayout values depth)) >>= fun texts => pure texts.flatten) = _
    rw [hsegs.pieces]
    show ((segs.map Segment.piece).mapM (fillPiece values (filledLayout values depth)) >>=
      fun texts => pure texts.flatten) = _
    rw [hps]
    rfl

end SecurityScan.Prompt
