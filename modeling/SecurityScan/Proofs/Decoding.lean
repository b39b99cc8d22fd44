import SecurityScan.Proofs.Decoded
import SecurityScan.Proofs.Fence

/-!
# What stops the reading of JSON

A text that is malformed is said to be so. Other than that only two kinds of texts stop the reading:
those with a number of more digits than are read, and those with more opening brackets than containers
may nest.
-/

namespace SecurityScan

namespace Json

def isOpening (c : Char) : Bool := c == '[' || c == '\x7b'

/-- What a text has in it when its reading stops, unless it is malformed. -/
def Cause (depth : Nat) (cs : List Char) : Stop → Prop
  | .malformed .. => True
  | .tooManyDigits n => Number.maxDigits < n ∧ ∃ ds, ds <:+: cs ∧ ds.length = n ∧ AllDigits ds
  | .tooDeep => depth < cs.countP isOpening

theorem Cause.of_suffix {depth : Nat} {cs ds : List Char} {stop : Stop} (h : Cause depth cs stop)
    (hs : cs <:+ ds) : Cause depth ds stop := by
  cases stop with
  | malformed => trivial
  | tooManyDigits n =>
    obtain ⟨hn, es, hes, hrun⟩ := h
    exact ⟨hn, es, hes.trans hs.isInfix, hrun⟩
  | tooDeep => exact Nat.lt_of_lt_of_le h (hs.sublist.countP_le)

/-- One level down there is an opening bracket more. -/
theorem Cause.opening {depth : Nat} {c : Char} {cs : List Char} {stop : Stop}
    (hc : isOpening c = true) (h : Cause (depth - 1) cs stop) : Cause depth (c :: cs) stop := by
  cases stop with
  | malformed => trivial
  | tooManyDigits =>
    have h : Cause depth cs (.tooManyDigits _) := h
    exact h.of_suffix (List.suffix_cons ..)
  | tooDeep =>
    have h : depth - 1 < cs.countP isOpening := h
    show depth < (c :: cs).countP isOpening
    rw [List.countP_cons_of_pos hc]
    omega

/-- A reader leaves the end of its text, or stops for a cause that is in it. -/
def Reads {α : Type} (depth : Nat) (cs : List Char) (x : Except Stop (α × List Char)) : Prop :=
  (∀ a rest, x = .ok (a, rest) → rest <:+ cs) ∧ ∀ stop, x = .error stop → Cause depth cs stop

section
variable {α β : Type} {depth : Nat} {cs rest : List Char}

theorem reads_ok {a : α} (h : rest <:+ cs) : Reads depth cs (.ok (a, rest)) :=
  ⟨by rintro _ _ ⟨⟩; exact h, nofun⟩

theorem reads_error {stop : Stop} (h : Cause depth cs stop) :
    Reads depth cs (.error stop : Except Stop (α × List Char)) :=
  ⟨nofun, by rintro _ ⟨⟩; exact h⟩

theorem Reads.of_suffix {x : Except Stop (α × List Char)} (h : Reads depth rest x)
    (hs : rest <:+ cs) : Reads depth cs x :=
  ⟨fun a r hr => (h.1 a r hr).trans hs, fun stop hstop => (h.2 stop hstop).of_suffix hs⟩

theorem Reads.bind {x : Except Stop (α × List Char)} {f : α × List Char → Except Stop (β × List Char)}
    (hx : Reads depth cs x) (hf : ∀ a rest, rest <:+ cs → Reads depth cs (f (a, rest))) :
    Reads depth cs (x >>= f) := by
  cases x with
  | error stop => exact reads_error (hx.2 stop rfl)
  | ok r => exact hf r.1 r.2 (hx.1 r.1 r.2 rfl)

theorem Reads.opening {c : Char} {x : Except Stop (α × List Char)} (hc : isOpening c = true)
    (h : Reads (depth - 1) cs x) : Reads depth (c :: cs) x :=
  ⟨fun a r hr => (h.1 a r hr).trans (List.suffix_cons ..), fun stop hstop => (h.2 stop hstop).opening hc⟩

end

/-! ## Strings -/

theorem skipSpace_suffix (cs : List Char) : skipSpace cs <:+ cs := List.dropWhile_suffix _

section
variable (depth : Nat)

theorem reads_codeUnit (cs : List Char) : Reads depth cs (codeUnit cs) := by
  unfold codeUnit
  split
  · rename_i n c rest _ hdrop
    exact reads_ok (hdrop ▸ List.drop_suffix 4 cs)
  · exact reads_error trivial

theorem reads_readEscape (start : Nat) (cs : List Char) : Reads depth cs (readEscape start cs) := by
  unfold readEscape
  split
  · exact reads_error trivial
  · refine ((reads_codeUnit depth _).bind fun high rest hrest => ?_).of_suffix (List.suffix_cons ..)
    dsimp only
    split
    · split
      · rename_i more _
        have hmore : more <:+ '\\' :: 'u' :: more := (List.suffix_cons ..).trans (List.suffix_cons ..)
        refine (((reads_codeUnit depth _).of_suffix hmore).bind fun low rest' hrest' => ?_).of_suffix
          hrest
        dsimp only
        split
        · exact reads_ok hrest'
        · exact reads_ok List.suffix_rfl
      · exact reads_ok hrest
    · exact reads_ok hrest
  · split
    all_goals first | exact reads_ok (List.suffix_cons ..) | exact reads_error trivial

theorem reads_readString (fuel start : Nat) (cs : List Char) :
    Reads depth cs (readString fuel start cs) := by
  induction fuel generalizing cs with
  | zero => exact reads_error trivial
  | succ fuel ih =>
    unfold readString
    split
    · exact reads_error trivial
    · exact reads_ok (List.suffix_cons ..)
    · refine ((reads_readEscape depth start _).bind fun c rest hrest => ?_).of_suffix
        (List.suffix_cons ..)
      refine ((ih rest).bind fun text rest h => ?_).of_suffix hrest
      exact reads_ok h
    · split
      · exact reads_error trivial
      · refine ((ih _).bind fun text rest h => ?_).of_suffix (List.suffix_cons ..)
        exact reads_ok h

theorem reads_readText (cs : List Char) : Reads depth cs (readText cs) :=
  (reads_readString depth _ _ cs).bind fun _ _ h => reads_ok h

/-! ## Numbers -/

theorem suffix_of_span {p : Char → Bool} {cs front rest : List Char} (h : cs.span p = (front, rest)) :
    front <+: cs ∧ rest <:+ cs := by
  rw [List.span_eq_takeWhile_dropWhile] at h
  obtain ⟨rfl, rfl⟩ := Prod.mk.inj h
  exact ⟨List.takeWhile_prefix _, List.dropWhile_suffix _⟩

theorem suffix_of_wholePart {cs whole rest : List Char} (h : wholePart cs = (whole, rest)) :
    whole <+: cs ∧ rest <:+ cs := by
  unfold wholePart at h
  split at h
  · obtain ⟨rfl, rfl⟩ := Prod.mk.inj h
    exact ⟨List.prefix_append ['0'] _, List.suffix_cons ..⟩
  · exact suffix_of_span h

theorem suffix_of_fractionPart {cs fraction rest : List Char}
    (h : fractionPart cs = some (fraction, rest)) : rest <:+ cs := by
  unfold fractionPart at h
  split at h
  · rename_i digits
    split at h
    · cases h
    · exact (suffix_of_span (Option.some.inj h)).2.trans (List.suffix_cons ..)
  · cases h

theorem suffix_of_splitSign (cs : List Char) : (Number.splitSign cs).2 <:+ cs := by
  unfold Number.splitSign
  split
  exacts [List.suffix_cons .., List.suffix_cons .., List.suffix_rfl]

theorem suffix_of_exponentPart {cs rest : List Char} {e : Int}
    (h : exponentPart cs = some (e, rest)) : rest <:+ cs := by
  cases cs with
  | nil => cases h
  | cons c cs =>
    simp only [exponentPart] at h
    split at h
    · split at h
      · cases h
      · rename_i hspan
        obtain ⟨-, rfl⟩ := Prod.mk.inj (Option.some.inj h)
        exact ((suffix_of_span hspan).2.trans (suffix_of_splitSign _)).trans (List.suffix_cons ..)
    · cases h

theorem reads_readNumber (cs : List Char) : Reads depth cs (readNumber cs) := by
  unfold readNumber
  split
  rename_i neg unsigned hunsigned
  have hsign : unsigned <:+ cs := by
    split at hunsigned <;> obtain ⟨rfl, rfl⟩ := Prod.mk.inj hunsigned
    exacts [List.suffix_cons .., List.suffix_rfl]
  split
  · exact reads_error trivial
  · rename_i whole rest _ hwhole
    obtain ⟨hfront, hrest⟩ := suffix_of_wholePart hwhole
    have hdigits := isDigit_of_wholePart hwhole
    have hfraction : ((fractionPart rest).getD ([], rest)).2 <:+ rest := by
      cases h : fractionPart rest with
      | none => exact List.suffix_rfl
      | some p => exact suffix_of_fractionPart h
    have hrest₁ := hfraction.trans (hrest.trans hsign)
    dsimp only
    split
    · split
      · rename_i hlong
        exact reads_error ⟨hlong, whole, hfront.isInfix.trans hsign.isInfix, rfl, hdigits⟩
      · exact reads_ok hrest₁
    · refine reads_ok ?_
      cases h : exponentPart ((fractionPart rest).getD ([], rest)).2 with
      | none => exact hrest₁
      | some p => exact (suffix_of_exponentPart h).trans hrest₁

end

/-! ## Values -/

theorem length_lt_of_skipSpace {cs rest : List Char} {c : Char} (h : skipSpace cs = c :: rest) :
    rest <:+ cs ∧ rest.length < cs.length := by
  have hs : c :: rest <:+ cs := h ▸ skipSpace_suffix cs
  exact ⟨(List.suffix_cons ..).trans hs, hs.length_le⟩

/-- What stands in brackets is read a level deeper. -/
theorem Reads.inside {α : Type} {depth : Nat} {c : Char} {rest : List Char}
    {x : Except Stop (α × List Char)} (h : Reads (depth - 1) (skipSpace rest) x)
    (hc : isOpening c = true) (f : α → Value) :
    Reads depth (c :: rest) (x >>= fun r => pure (f r.1, r.2)) :=
  ((h.of_suffix (skipSpace_suffix rest)).opening hc).bind fun _ _ h => reads_ok h

/-- With two steps a character, and one or two more, a reader never runs out of steps. -/
structure ReadsAll (fuel : Nat) : Prop where
  value : ∀ depth cs, 2 * cs.length + 1 ≤ fuel → Reads depth cs (readValue fuel depth cs)
  members : ∀ depth es cs, 2 * cs.length + 2 ≤ fuel → Reads depth cs (readMembers fuel depth es cs)
  items : ∀ depth cs, 2 * cs.length + 2 ≤ fuel → Reads depth cs (readItems fuel depth cs)

section
variable {fuel : Nat} (ih : ReadsAll fuel)
include ih

theorem reads_readValue (depth : Nat) (cs : List Char) (hfuel : 2 * cs.length ≤ fuel) :
    Reads depth cs (readValue (fuel + 1) depth cs) := by
  have hnone : ∀ {c : Char} {rest : List Char}, isOpening c = true →
      Cause 0 (c :: rest) .tooDeep := by
    intro c rest hc
    show 0 < (c :: rest).countP isOpening
    rw [List.countP_cons_of_pos hc]
    omega
  unfold readValue
  split
  · refine ((reads_readText depth _).bind fun s rest h => ?_).of_suffix (List.suffix_cons ..)
    exact reads_ok h
  · rename_i rest
    rw [List.length_cons] at hfuel
    split
    · rename_i hdepth
      exact hdepth ▸ reads_error (hnone rfl)
    · split
      · rename_i h
        exact reads_ok ((length_lt_of_skipSpace h).1.trans (List.suffix_cons ..))
      · have hlength := (skipSpace_suffix rest).length_le
        exact (ih.members (depth - 1) [] _ (by omega)).inside rfl .map
  · rename_i rest
    rw [List.length_cons] at hfuel
    split
    · rename_i hdepth
      exact hdepth ▸ reads_error (hnone rfl)
    · split
      · rename_i h
        exact reads_ok ((length_lt_of_skipSpace h).1.trans (List.suffix_cons ..))
      · have hlength := (skipSpace_suffix rest).length_le
        exact (ih.items (depth - 1) _ (by omega)).inside rfl .list
  · exact reads_ok (List.suffix_append ['n', 'u', 'l', 'l'] _)
  · exact reads_ok (List.suffix_append ['t', 'r', 'u', 'e'] _)
  · exact reads_ok (List.suffix_append ['f', 'a', 'l', 's', 'e'] _)
  · exact reads_ok (List.suffix_append ['N', 'a', 'N'] _)
  · exact reads_ok (List.suffix_append ['I', 'n', 'f', 'i', 'n', 'i', 't', 'y'] _)
  · exact reads_ok (List.suffix_append ['-', 'I', 'n', 'f', 'i', 'n', 'i', 't', 'y'] _)
  · exact reads_readNumber depth _

theorem reads_readMembers (depth : Nat) (es : Entries) (cs : List Char)
    (hfuel : 2 * cs.length + 1 ≤ fuel) : Reads depth cs (readMembers (fuel + 1) depth es cs) := by
  unfold readMembers
  split
  · rename_i cs
    rw [List.length_cons] at hfuel
    refine ((reads_readText depth _).bind fun name rest hrest => ?_).of_suffix (List.suffix_cons ..)
    dsimp only
    split
    · rename_i after hcolon
      obtain ⟨hafter, hlength⟩ := length_lt_of_skipSpace hcolon
      have hskip := skipSpace_suffix after
      have hshort := hskip.length_le
      have hlong := hrest.length_le
      refine ((ih.value depth _ (by omega)).of_suffix (hskip.trans (hafter.trans hrest))).bind ?_
      intro v rest' hrest'
      dsimp only
      split
      · rename_i hclose
        exact reads_ok ((length_lt_of_skipSpace hclose).1.trans hrest')
      · rename_i next hcomma
        obtain ⟨hnext, hlength'⟩ := length_lt_of_skipSpace hcomma
        have hskip' := skipSpace_suffix next
        have hshort' := hskip'.length_le
        have hlong' := hrest'.length_le
        exact (ih.members depth _ _ (by omega)).of_suffix (hskip'.trans (hnext.trans hrest'))
      · exact reads_error trivial
    · exact reads_error trivial
  · exact reads_error trivial

theorem reads_readItems (depth : Nat) (cs : List Char) (hfuel : 2 * cs.length + 1 ≤ fuel) :
    Reads depth cs (readItems (fuel + 1) depth cs) := by
  unfold readItems
  refine (ih.value depth cs hfuel).bind fun x rest hrest => ?_
  dsimp only
  split
  · rename_i hclose
    exact reads_ok ((length_lt_of_skipSpace hclose).1.trans hrest)
  · rename_i next hcomma
    obtain ⟨hnext, hlength⟩ := length_lt_of_skipSpace hcomma
    have hskip := skipSpace_suffix next
    have hshort := hskip.length_le
    have hlong := hrest.length_le
    refine ((ih.items depth _ (by omega)).of_suffix (hskip.trans (hnext.trans hrest))).bind ?_
    exact fun xs rest h => reads_ok h
  · exact reads_error trivial

end

theorem readsAll (fuel : Nat) : ReadsAll fuel := by
  induction fuel with
  | zero =>
    exact {
      value := fun _ _ h => by omega
      members := fun _ _ _ h => by omega
      items := fun _ _ h => by omega }
  | succ fuel ih =>
    exact {
      value := fun depth cs h => reads_readValue ih depth cs (by omega)
      members := fun depth es cs h => reads_readMembers ih depth es cs (by omega)
      items := fun depth cs h => reads_readItems ih depth cs (by omega) }

/-- The causes for which the reading of a document stops. -/
theorem cause_of_readDocument {cs : List Char} {stop : Stop} (h : readDocument cs = .error stop) :
    Cause maxDepth cs stop := by
  unfold readDocument at h
  split at h
  · obtain rfl := Except.error.inj h
    trivial
  · have hskip := skipSpace_suffix cs
    have hlength := hskip.length_le
    have hreads : Reads maxDepth cs (readValue (2 * cs.length + 2) maxDepth (skipSpace cs)) :=
      ((readsAll _).value _ _ (by omega)).of_suffix hskip
    cases hv : readValue (2 * cs.length + 2) maxDepth (skipSpace cs) with
    | error e =>
      rw [hv] at h
      obtain rfl := Except.error.inj h
      exact hreads.2 _ hv
    | ok r =>
      rw [hv] at h
      dsimp only [bind, Except.bind] at h
      split at h
      · cases h
      · obtain rfl := Except.error.inj h
        trivial

theorem exists_readDocument {s : String} {e : Error} (h : read s = .error e) :
    ∃ stop, readDocument s.toList = .error stop ∧ stop.placed s.toList = e := by
  unfold read at h
  cases hd : readDocument s.toList with
  | ok v => rw [hd] at h; cases h
  | error stop =>
    rw [hd] at h
    exact ⟨stop, rfl, Except.error.inj h⟩

/-- A text in which too much is nested has too many opening brackets. -/
theorem countP_of_tooDeep {s : String} (h : read s = .error .tooDeep) :
    maxDepth < s.toList.countP isOpening := by
  obtain ⟨stop, hstop, hplaced⟩ := exists_readDocument h
  cases stop with
  | tooDeep => exact cause_of_readDocument hstop
  | _ => cases hplaced

/-- A text with a number of too many digits has them. -/
theorem exists_of_tooManyDigits {s : String} {n : Nat} (h : read s = .error (.tooManyDigits n)) :
    Number.maxDigits < n ∧ ∃ ds, ds <:+: s.toList ∧ ds.length = n ∧ AllDigits ds := by
  obtain ⟨stop, hstop, hplaced⟩ := exists_readDocument h
  cases stop with
  | tooManyDigits m =>
    obtain rfl : m = n := Error.tooManyDigits.inj hplaced
    exact cause_of_readDocument hstop
  | _ => cases hplaced

end Json

end SecurityScan
