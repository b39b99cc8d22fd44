import SecurityScan.Proofs.Entries
import SecurityScan.Proofs.Numeral

/-!
# JSON that reads back

What is written for a value is read as that value, as long as it does not nest deeper than the reader
follows; past that the reader gives up, whatever the rest of the text is.
-/

namespace SecurityScan

namespace Value

mutual

/-- Values that a JSON text holds whole: finite numbers, whole ones no longer than numbers may be, texts
of whole characters, and lists and maps of such values, the maps under such texts, none of them twice. -/
def IsDocument : Value → Prop
  | .null | .bool _ | .float (.finite ..) => True
  | .int i => i.natAbs < Number.digitLimit
  | .str s => Text.hasLoneHalf s = false
  | .list xs => AllDocuments xs
  | .map es => Entries.Distinct es ∧ EntryDocuments es
  | _ => False

def AllDocuments : List Value → Prop
  | [] => True
  | x :: xs => x.IsDocument ∧ AllDocuments xs

def EntryDocuments : List (Value × Value) → Prop
  | [] => True
  | (k, v) :: es => (∃ s, k = .str s ∧ Text.hasLoneHalf s = false) ∧ v.IsDocument ∧ EntryDocuments es

end

mutual

/-- How many lists and maps stand in one another. -/
def nesting : Value → Nat
  | .list xs => nestingAll xs + 1
  | .map es => nestingEntries es + 1
  | _ => 0

def nestingAll : List Value → Nat
  | [] => 0
  | x :: xs => max x.nesting (nestingAll xs)

def nestingEntries : List (Value × Value) → Nat
  | [] => 0
  | (_, v) :: es => max v.nesting (nestingEntries es)

end

end Value

namespace Json

open Text (hexDigit hexDigits hexValue? isHighHalf isLowHalf isHalf isLoneHalf codeOf charOfCode
  joinHalves)

/-! ## Escapes -/

theorem hexValue?_hexDigit {n : Nat} (h : n < 16) : hexValue? (hexDigit n) = some n := by
  have hall : ∀ n : Fin 16, hexValue? (hexDigit n.val) = some n.val := by decide
  exact hall ⟨n, h⟩

theorem hexDigits_four (n : Nat) : hexDigits 4 n = [hexDigit (n / 16 / 16 / 16 % 16),
    hexDigit (n / 16 / 16 % 16), hexDigit (n / 16 % 16), hexDigit (n % 16)] := rfl

theorem hex4?_hexDigits {n : Nat} (h : n < 0x10000) : hex4? (hexDigits 4 n) = some n := by
  have hvalue : ((n / 16 / 16 / 16 % 16 * 16 + n / 16 / 16 % 16) * 16 + n / 16 % 16) * 16 + n % 16 =
      n := by omega
  rw [hexDigits_four, hex4?, hexValue?_hexDigit (by omega), hexValue?_hexDigit (by omega),
    hexValue?_hexDigit (by omega), hexValue?_hexDigit (by omega)]
  exact congrArg some hvalue

theorem length_hexDigits (width n : Nat) : (hexDigits width n).length = width := by
  induction width generalizing n with
  | zero => rfl
  | succ width ih => rw [hexDigits, List.length_append, ih, List.length_singleton]

theorem codeUnit_hexDigits {n : Nat} (h : n < 0x10000) {cs : List Char} (hcs : cs ≠ []) :
    codeUnit (hexDigits 4 n ++ cs) = .ok (n, cs) := by
  obtain ⟨c, cs, rfl⟩ := List.exists_cons_of_ne_nil hcs
  have htake : (hexDigits 4 n ++ c :: cs).take 4 = hexDigits 4 n :=
    List.take_left' (length_hexDigits 4 n)
  have hdrop : (hexDigits 4 n ++ c :: cs).drop 4 = c :: cs := List.drop_left' (length_hexDigits 4 n)
  rw [codeUnit, htake, hdrop, hex4?_hexDigits h]

/-- A character outside the pairs' halves by its code. -/
theorem readEscape_unit {n : Nat} (h : n < 0x10000) (hhalf : isHalf n = false) {cs : List Char}
    (hcs : cs ≠ []) (start : Nat) :
    readEscape start ('u' :: (hexDigits 4 n ++ cs)) = .ok (Char.ofNat n, cs) := by
  have hhigh : isHighHalf n = false := by
    rw [isHalf, Bool.or_eq_false_iff] at hhalf
    exact hhalf.1
  have hchar : charOfCode n = Char.ofNat n := by
    simp [charOfCode, hhalf]
  rw [readEscape, codeUnit_hexDigits h hcs]
  simp only [bind, Except.bind]
  split
  · rw [hhigh, hchar]
    rfl
  · rw [hchar]
    rfl

/-- A character beyond the first plane by the codes of its halves. -/
theorem readEscape_pair {high low : Nat} (hhigh : isHighHalf high = true) (hlow : isLowHalf low = true)
    {cs : List Char} (hcs : cs ≠ []) (start : Nat) :
    readEscape start ('u' :: (hexDigits 4 high ++ '\\' :: 'u' :: (hexDigits 4 low ++ cs))) =
      .ok (Char.ofNat (joinHalves high low), cs) := by
  have hbounds : high < 0x10000 ∧ low < 0x10000 := by
    simp only [isHighHalf, isLowHalf, Bool.and_eq_true, decide_eq_true_eq] at hhigh hlow
    omega
  have hlong : 4 < (hexDigits 4 low ++ cs).length := by
    rw [List.length_append, length_hexDigits]
    have := List.length_pos_iff.mpr hcs
    omega
  rw [readEscape, codeUnit_hexDigits hbounds.1 (by simp)]
  simp only [bind, Except.bind]
  rw [hhigh, decide_eq_true hlong, Bool.and_self, if_pos rfl, codeUnit_hexDigits hbounds.2 hcs]
  simp only [hlow]
  rfl

theorem readString_escape {c : Char} {escape cs : List Char} {start : Nat}
    (h : readEscape start escape = .ok (c, cs)) (fuel : Nat) :
    readString (fuel + 1) start ('\\' :: escape) =
      (readString fuel start cs).map fun r => (c :: r.1, r.2) := by
  rw [readString, h]
  simp only [bind, Except.bind]
  cases readString fuel start cs <;> rfl

theorem readString_plain {c : Char} (hquote : c ≠ '"') (hslash : c ≠ '\\') (hcontrol : 0x1F < c.toNat)
    (fuel start : Nat) (cs : List Char) : readString (fuel + 1) start (c :: cs) =
      (readString fuel start cs).map fun r => (c :: r.1, r.2) := by
  rw [readString]
  · rw [if_neg (by omega)]
    cases readString fuel start cs <;> rfl
  · exact hquote
  · exact hslash

theorem readEscape_escapeCode {c : Char} (hc : isLoneHalf c = false) (start : Nat) {cs : List Char}
    (hcs : cs ≠ []) : ∃ escape, escapeCode c ++ cs = '\\' :: escape ∧
      readEscape start escape = .ok (c, cs) := by
  have hcode : codeOf c = c.toNat := by simp [codeOf, hc]
  have hofNat : Char.ofNat c.toNat = c := Char.ofNat_toNat c
  have hvalid : c.toNat < 0xD800 ∨ 0xDFFF < c.toNat ∧ c.toNat < 0x110000 := c.valid
  rw [escapeCode, hcode]
  by_cases hplane : c.toNat ≤ 0xFFFF
  · have hhalf : isHalf c.toNat = false := by
      rw [Bool.eq_false_iff, ne_eq, Text.isHalf_iff]
      omega
    refine ⟨'u' :: (hexDigits 4 c.toNat ++ cs), by simp [hplane, escapeUnit], ?_⟩
    rw [readEscape_unit (by omega) hhalf hcs, hofNat]
  · generalize hh : 0xD800 + (c.toNat - 0x10000) / 0x400 = high
    generalize hl : 0xDC00 + (c.toNat - 0x10000) % 0x400 = low
    have hhigh : isHighHalf high = true := by
      simp only [isHighHalf, Bool.and_eq_true, decide_eq_true_eq]
      omega
    have hlow : isLowHalf low = true := by
      simp only [isLowHalf, Bool.and_eq_true, decide_eq_true_eq]
      omega
    have hjoined : joinHalves high low = c.toNat := by
      unfold joinHalves
      omega
    refine ⟨'u' :: (hexDigits 4 high ++ '\\' :: 'u' :: (hexDigits 4 low ++ cs)),
      by simp [hplane, escapeUnit], ?_⟩
    rw [readEscape_pair hhigh hlow hcs, hjoined, hofNat]

/-- A character that is written is read, and then what follows it. -/
theorem readString_escapeChar {c : Char} (hc : isLoneHalf c = false) (ascii : Bool) (fuel start : Nat)
    {cs : List Char} (hcs : cs ≠ []) : readString (fuel + 1) start (escapeChar ascii c ++ cs) =
      (readString fuel start cs).map fun r => (c :: r.1, r.2) := by
  unfold escapeChar
  split
  · next h => 
    rw [Bool.or_eq_true, beq_iff_eq, beq_iff_eq] at h
    obtain rfl | rfl := h <;> exact readString_escape rfl fuel
  split
  · next h => rw [eq_of_beq h]; exact readString_escape rfl fuel
  split
  · next h => rw [eq_of_beq h]; exact readString_escape rfl fuel
  split
  · next h => rw [eq_of_beq h]; exact readString_escape rfl fuel
  split
  · next h => rw [eq_of_beq h]; exact readString_escape rfl fuel
  split
  · next h => rw [eq_of_beq h]; exact readString_escape rfl fuel
  split
  · obtain ⟨escape, happend, hread⟩ := readEscape_escapeCode hc start hcs
    rw [happend]
    exact readString_escape hread fuel
  · next hquoted _ _ _ _ _ hcoded =>
    rw [Bool.or_eq_true, not_or, beq_iff_eq, beq_iff_eq] at hquoted
    rw [Bool.or_eq_true, not_or, decide_eq_true_eq] at hcoded
    exact readString_plain hquoted.1 hquoted.2 (by omega) fuel start cs

/-- What is written between quotes is read up to the closing one. -/
theorem readString_stringText {cs : List Char} (hcs : ∀ c ∈ cs, isLoneHalf c = false) (ascii : Bool)
    {fuel : Nat} (hfuel : cs.length < fuel) (start : Nat) (rest : List Char) :
    readString fuel start (cs.flatMap (escapeChar ascii) ++ '"' :: rest) = .ok (cs, rest) := by
  induction cs generalizing fuel with
  | nil =>
    obtain ⟨fuel, rfl⟩ := Nat.exists_eq_succ_of_ne_zero (Nat.ne_of_gt hfuel)
    rfl
  | cons c cs ih =>
    obtain ⟨hc, hcs⟩ := List.forall_mem_cons.mp hcs
    obtain ⟨fuel, rfl⟩ := Nat.exists_eq_succ_of_ne_zero (Nat.ne_of_gt (Nat.zero_lt_of_lt hfuel))
    rw [List.length_cons] at hfuel
    rw [List.flatMap_cons, List.append_assoc, readString_escapeChar hc ascii fuel start (by simp),
      ih hcs (by omega)]
    rfl

theorem length_le_flatMap_escapeChar (ascii : Bool) (cs : List Char) :
    cs.length ≤ (cs.flatMap (escapeChar ascii)).length := by
  have hone : ∀ c, 0 < (escapeChar ascii c).length := by
    intro c
    have hcode : escapeCode c ≠ [] := by
      simp only [escapeCode, escapeUnit]
      split <;> simp
    refine List.length_pos_iff.mpr ?_
    unfold escapeChar
    repeat' split
    all_goals first | exact hcode | simp
  induction cs with
  | nil => exact Nat.le_refl _
  | cons c cs ih =>
    have := hone c
    rw [List.flatMap_cons, List.length_append, List.length_cons]
    omega

theorem readText_stringText {s : String} (hs : Text.hasLoneHalf s = false) (ascii : Bool)
    (rest : List Char) : readText (s.toList.flatMap (escapeChar ascii) ++ '"' :: rest) =
      .ok (s, rest) := by
  have hcs : ∀ c ∈ s.toList, isLoneHalf c = false := by
    intro c hc
    have := List.any_eq_false.mp hs c hc
    simpa using this
  have hlength := length_le_flatMap_escapeChar ascii s.toList
  have hfuel : s.toList.length <
      (s.toList.flatMap (escapeChar ascii) ++ '"' :: rest).length + 1 := by
    rw [List.length_append]
    omega
  rw [readText, readString_stringText hcs ascii hfuel]
  simp only [bind, Except.bind, String.ofList_toList]
  rfl

/-! ## What is written -/

mutual

theorem writable_of_isDocument : ∀ {v : Value}, v.IsDocument → writable v = true
  | .null, _ | .bool _, _ | .int _, _ | .float (.finite ..), _ | .str _, _ => by rw [writable]
  | .list xs, h => by
    rw [writable]
    exact writableItems_of_allDocuments h
  | .map es, h => by
    rw [writable]
    exact writableEntries_of_entryDocuments h.2

theorem writableItems_of_allDocuments : ∀ {xs : List Value}, Value.AllDocuments xs →
    writableItems xs = true
  | [], _ => rfl
  | x :: xs, h => by
    rw [writableItems, writable_of_isDocument h.1, writableItems_of_allDocuments h.2]
    rfl

theorem writableEntries_of_entryDocuments : ∀ {es : Entries}, Value.EntryDocuments es →
    writableEntries es = true
  | [], _ => rfl
  | (k, v) :: es, ⟨⟨name, hname, _⟩, hv, hes⟩ => by
    rw [writableEntries, hname, writable_of_isDocument hv, writableEntries_of_entryDocuments hes]
    rfl

end

theorem write?_document (style : Style) {v : Value} (h : v.IsDocument) :
    write? style v = some (String.ofList (valueText style 0 v)) := if_pos (writable_of_isDocument h)

theorem head?_mapText (style : Style) (k : Nat) (es : Entries) :
    (valueText style k (.map es)).head? = some '\x7b' := by
  cases es <;> (rw [valueText]; rfl)

theorem getLast?_mapText (style : Style) (k : Nat) (es : Entries) :
    (valueText style k (.map es)).getLast? = some '\x7d' := by
  cases es with
  | nil => rw [valueText]; rfl
  | cons e es => rw [valueText, List.getLast?_append]; rfl

/-! ## Space -/

def Starts (cs : List Char) : Prop := ∃ c ∈ cs.head?, isSpace c = false

theorem skipSpace_of_starts {cs : List Char} (h : Starts cs) : skipSpace cs = cs := by
  obtain ⟨c, hc, hspace⟩ := h
  obtain ⟨rest, rfl⟩ := List.head?_eq_some_iff.mp hc
  exact List.dropWhile_cons_of_neg (by simp [hspace])

theorem skipSpace_cons {c : Char} (h : isSpace c = false) (cs : List Char) :
    skipSpace (c :: cs) = c :: cs :=
  skipSpace_of_starts ⟨c, rfl, h⟩

theorem skipSpace_lineBreak (style : Style) (k : Nat) {cs : List Char} (h : Starts cs) :
    skipSpace (lineBreak style k ++ cs) = cs := by
  unfold lineBreak
  cases style.indent with
  | none => exact skipSpace_of_starts h
  | some width =>
    have hblank : ∀ c ∈ '\n' :: List.replicate (width * k) ' ', isSpace c = true := by
      intro c hc
      obtain rfl | hc := List.mem_cons.mp hc
      · decide
      · rw [List.eq_of_mem_replicate hc]
        decide
    rw [skipSpace, List.dropWhile_append_of_pos hblank]
    exact skipSpace_of_starts h

theorem exists_separator (style : Style) (k : Nat) : ∃ gap, separator style k = ',' :: gap ∧
    ∀ {cs : List Char}, Starts cs → skipSpace (gap ++ cs) = cs := by
  unfold separator
  cases hindent : style.indent with
  | none => exact ⟨[' '], rfl, fun h => skipSpace_of_starts h⟩
  | some width => exact ⟨lineBreak style k, rfl, fun h => skipSpace_lineBreak style k h⟩

/-- A further item stands behind a comma and a gap. -/
theorem exists_itemsText_cons (style : Style) (k : Nat) (y : Value) (ys : List Value) :
    ∃ gap, (∀ close, itemsText style k (y :: ys) ++ close =
        ',' :: (gap ++ (valueText style k y ++ (itemsText style k ys ++ close)))) ∧
      (itemsText style k (y :: ys)).length =
        gap.length + 1 + (valueText style k y).length + (itemsText style k ys).length ∧
      ∀ {cs : List Char}, Starts cs → skipSpace (gap ++ cs) = cs := by
  obtain ⟨gap, hseparator, hgap⟩ := exists_separator style k
  refine ⟨gap, fun close => ?_, ?_, hgap⟩
  · simp only [itemsText, hseparator, List.cons_append, List.append_assoc]
  · simp only [itemsText, hseparator, List.length_append, List.length_cons]

/-- A further member stands behind a comma and a gap. -/
theorem exists_entriesText_cons (style : Style) (k : Nat) (name : String) (v : Value) (es : Entries) :
    ∃ gap, (∀ close, entriesText style k ((.str name, v) :: es) ++ close =
        ',' :: (gap ++ (stringText style.ascii name ++
          (':' :: ' ' :: (valueText style k v ++ (entriesText style k es ++ close)))))) ∧
      (entriesText style k ((.str name, v) :: es)).length = gap.length + 1 +
        (stringText style.ascii name).length + 2 + (valueText style k v).length +
        (entriesText style k es).length ∧
      ∀ {cs : List Char}, Starts cs → skipSpace (gap ++ cs) = cs := by
  obtain ⟨gap, hseparator, hgap⟩ := exists_separator style k
  refine ⟨gap, fun close => ?_, ?_, hgap⟩
  · simp [entriesText, hseparator, keyText?]
  · simp [entriesText, hseparator, keyText?]
    omega

/-! ## What values begin with -/

theorem head?_of_readNumber {cs : List Char} {r : Value × List Char} (h : readNumber cs = .ok r) :
    ∃ c ∈ cs.head?, Text.isDigit c = true ∨ c = '-' := by
  cases cs with
  | nil => cases h
  | cons c cs =>
    refine ⟨c, rfl, ?_⟩
    by_cases hsign : c = '-'
    · exact .inr hsign
    · refine .inl ?_
      cases hc : Text.isDigit c with
      | true => rfl
      | false =>
        have hwhole : wholePart (c :: cs) = ([], c :: cs) :=
          @wholePart_digits [] (c :: cs) (fun _ h => nomatch h) (fun h => nomatch h)
            (by rintro _ ⟨⟩; exact hc)
        rw [readNumber] at h
        · rw [hwhole] at h
          cases h
        · rintro rest h
          exact hsign (List.cons.inj h).1

/-- What is read as a number is no other value. -/
theorem readValue_of_readNumber {cs : List Char} {r : Value × List Char} (h : readNumber cs = .ok r)
    (fuel depth : Nat) : readValue (fuel + 1) depth cs = .ok r := by
  rw [← h]
  unfold readValue
  split
  all_goals first
    | rfl
    | (exfalso; revert h; simp [readNumber, wholePart, List.span_eq_takeWhile_dropWhile, Text.isDigit])

theorem endsNumber_cons {c : Char} (h : Text.isDigit c = false ∧ c ≠ '.' ∧ c ≠ 'e' ∧ c ≠ 'E')
    (cs : List Char) : EndsNumber (c :: cs) := by
  rintro d ⟨⟩
  exact h

theorem endsNumber_nil : EndsNumber [] := by
  rintro c ⟨⟩

/-- The text of a number is read whatever does not go on with it. -/
theorem readNumber_text (style : Style) (k : Nat) {v : Value} (hv : v.IsDocument)
    (hnumber : (∃ i, v = .int i) ∨ ∃ x, v = .float x) {rest : List Char} (hrest : EndsNumber rest) :
    readNumber (valueText style k v ++ rest) = .ok (v, rest) := by
  obtain ⟨i, rfl⟩ | ⟨x, rfl⟩ := hnumber
  · exact readNumber_int hv hrest
  · cases x with
    | finite neg mant exp h => exact readNumber_double h hrest
    | infinite neg => exact hv.elim
    | nan => exact hv.elim

/-- The text of a value begins with what is neither space nor the end of a list. -/
theorem head?_valueText (style : Style) (k : Nat) {v : Value} (hv : v.IsDocument) :
    ∃ c ∈ (valueText style k v).head?, isSpace c = false ∧ c ≠ ']' := by
  have hdigit : ∀ c, Text.isDigit c = true ∨ c = '-' → isSpace c = false ∧ c ≠ ']' := by
    rintro c (hc | rfl)
    · constructor
      · cases hspace : isSpace c with
        | false => rfl
        | true =>
          simp only [isSpace, Bool.or_eq_true, beq_iff_eq] at hspace
          obtain ((rfl | rfl) | rfl) | rfl := hspace <;> exact absurd hc (by decide)
      · rintro rfl
        exact absurd hc (by decide)
    · decide
  have hnumber : (∃ i, v = .int i) ∨ (∃ x, v = .float x) →
      ∃ c ∈ (valueText style k v).head?, isSpace c = false ∧ c ≠ ']' := by
    intro h
    have hread := readNumber_text style k hv h endsNumber_nil
    rw [List.append_nil] at hread
    obtain ⟨c, hc, hkind⟩ := head?_of_readNumber hread
    exact ⟨c, hc, hdigit c hkind⟩
  cases v with
  | int i => exact hnumber (.inl ⟨i, rfl⟩)
  | float x => exact hnumber (.inr ⟨x, rfl⟩)
  | null => exact ⟨'n', by rw [valueText]; rfl, by decide⟩
  | bool b => cases b <;> exact ⟨_, by rw [valueText]; rfl, by decide⟩
  | str s => exact ⟨'"', by rw [valueText]; rfl, by decide⟩
  | list xs => cases xs <;> exact ⟨'[', by rw [valueText]; rfl, by decide⟩
  | map es => cases es <;> exact ⟨'\x7b', by rw [valueText]; rfl, by decide⟩
  | _ => exact hv.elim

theorem starts_valueText (style : Style) (k : Nat) {v : Value} (hv : v.IsDocument)
    (rest : List Char) : Starts (valueText style k v ++ rest) := by
  obtain ⟨c, hc, hspace, -⟩ := head?_valueText style k hv
  obtain ⟨cs, hcs⟩ := List.head?_eq_some_iff.mp hc
  rw [hcs]
  exact ⟨c, rfl, hspace⟩

theorem length_valueText_pos (style : Style) (k : Nat) {v : Value} (hv : v.IsDocument) :
    0 < (valueText style k v).length := by
  obtain ⟨c, hc, -⟩ := head?_valueText style k hv
  obtain ⟨cs, hcs⟩ := List.head?_eq_some_iff.mp hc
  rw [hcs]
  exact Nat.succ_pos _

/-! ## Values -/

/-- What closes a container stands on a line of its own or behind its last member. -/
theorem endsNumber_close (style : Style) (k : Nat) {c : Char}
    (hc : Text.isDigit c = false ∧ c ≠ '.' ∧ c ≠ 'e' ∧ c ≠ 'E') (cs : List Char) :
    EndsNumber (lineBreak style k ++ c :: cs) := by
  unfold lineBreak
  cases style.indent with
  | none => exact endsNumber_cons hc cs
  | some width => exact endsNumber_cons (by decide) _

/-- With so much fuel the reader reads what is written back, unless it nests too deep. -/
structure ReadsBack (style : Style) (fuel : Nat) : Prop where
  value {v : Value} {depth k : Nat} {rest : List Char} : v.IsDocument → EndsNumber rest →
    (valueText style k v).length ≤ fuel →
    readValue fuel depth (valueText style k v ++ rest) =
      if v.nesting ≤ depth then .ok (v, rest) else .error .tooDeep
  items {x : Value} {xs : List Value} {depth k : Nat} {close rest : List Char} :
    x.IsDocument → Value.AllDocuments xs → EndsNumber close → skipSpace close = ']' :: rest →
    (valueText style k x).length + (itemsText style k xs).length < fuel →
    readItems fuel depth (valueText style k x ++ (itemsText style k xs ++ close)) =
      if Value.nestingAll (x :: xs) ≤ depth then .ok (x :: xs, rest) else .error .tooDeep
  members {name : String} {v : Value} {es acc : Entries} {depth k : Nat} {close rest : List Char} :
    Text.hasLoneHalf name = false → v.IsDocument → Value.EntryDocuments es →
    Entries.Distinct (acc ++ (.str name, v) :: es) → EndsNumber close →
    skipSpace close = '\x7d' :: rest →
    (stringText style.ascii name).length + (valueText style k v).length +
      (entriesText style k es).length < fuel →
    readMembers fuel depth acc (stringText style.ascii name ++
        (':' :: ' ' :: (valueText style k v ++ (entriesText style k es ++ close)))) =
      if Value.nestingEntries ((.str name, v) :: es) ≤ depth then .ok (acc ++ (.str name, v) :: es, rest)
      else .error .tooDeep

theorem readsBack_zero (style : Style) : ReadsBack style 0 where
  value hv _ hfuel := absurd hfuel (Nat.not_le.mpr (length_valueText_pos style _ hv))
  items _ _ _ _ hfuel := absurd hfuel (Nat.not_lt_zero _)
  members _ _ _ _ _ _ hfuel := absurd hfuel (Nat.not_lt_zero _)

section
variable {style : Style} {fuel : Nat} (ih : ReadsBack style fuel) {depth k : Nat}
  {close rest : List Char}
include ih

theorem readItems_text {x : Value} {xs : List Value} (hx : x.IsDocument)
    (hxs : Value.AllDocuments xs) (hclose : EndsNumber close) (hrest : skipSpace close = ']' :: rest)
    (hfuel : (valueText style k x).length + (itemsText style k xs).length < fuel + 1) :
    readItems (fuel + 1) depth (valueText style k x ++ (itemsText style k xs ++ close)) =
      if Value.nestingAll (x :: xs) ≤ depth then .ok (x :: xs, rest) else .error .tooDeep := by
  have hpos := length_valueText_pos style k hx
  cases xs with
  | nil =>
    rw [itemsText, List.nil_append, readItems, ih.value hx hclose (by omega)]
    simp only [Value.nestingAll, Nat.max_zero]
    split
    · simp only [bind, Except.bind, hrest]
    · rfl
  | cons y ys =>
    obtain ⟨hy, hys⟩ := hxs
    obtain ⟨gap, htext, hlength, hgap⟩ := exists_itemsText_cons style k y ys
    rw [htext, readItems, ih.value hx (endsNumber_cons (by decide) _) (by omega)]
    by_cases hdeep : x.nesting ≤ depth
    · have hmore : readItems fuel depth (valueText style k y ++ (itemsText style k ys ++ close)) = _ :=
        ih.items hy hys hclose hrest (by omega)
      have hmost : Value.nestingAll (x :: y :: ys) ≤ depth ↔ Value.nestingAll (y :: ys) ≤ depth := by
        rw [Value.nestingAll]
        omega
      have hcomma := @skipSpace_cons ',' (by decide)
      simp only [if_pos hdeep, bind, Except.bind, hcomma, hgap (starts_valueText style k hy _), hmore,
        hmost]
      by_cases hlater : Value.nestingAll (y :: ys) ≤ depth
      · simp only [if_pos hlater]
        rfl
      · simp only [if_neg hlater]
    · rw [if_neg hdeep, Value.nestingAll, if_neg (by omega)]
      rfl

theorem readMembers_text {name : String} {v : Value} {es acc : Entries}
    (hname : Text.hasLoneHalf name = false) (hv : v.IsDocument) (hes : Value.EntryDocuments es)
    (hdistinct : Entries.Distinct (acc ++ (.str name, v) :: es)) (hclose : EndsNumber close)
    (hrest : skipSpace close = '\x7d' :: rest)
    (hfuel : (stringText style.ascii name).length + (valueText style k v).length +
      (entriesText style k es).length < fuel + 1) :
    readMembers (fuel + 1) depth acc (stringText style.ascii name ++
        (':' :: ' ' :: (valueText style k v ++ (entriesText style k es ++ close)))) =
      if Value.nestingEntries ((.str name, v) :: es) ≤ depth then .ok (acc ++ (.str name, v) :: es, rest)
      else .error .tooDeep := by
  have hpos : 0 < (stringText style.ascii name).length := Nat.succ_pos _
  have hset : acc.setField name v = acc ++ [(.str name, v)] :=
    Entries.insert_of_none (Entries.get?_eq_none_of_distinct hdistinct) v
  have hquoted : ∀ cs, stringText style.ascii name ++ cs =
      '"' :: (name.toList.flatMap (escapeChar style.ascii) ++ '"' :: cs) := by
    intro cs
    simp [stringText]
  have hcolon := @skipSpace_cons ':' (by decide)
  have hgap : skipSpace (' ' :: (valueText style k v ++ (entriesText style k es ++ close))) =
      valueText style k v ++ (entriesText style k es ++ close) :=
    skipSpace_of_starts (starts_valueText style k hv _)
  rw [hquoted, readMembers]
  simp only [readText_stringText hname, bind, Except.bind, hcolon, hgap]
  cases es with
  | nil =>
    rw [entriesText, List.nil_append, ih.value hv hclose (by omega), Value.nestingEntries,
      Value.nestingEntries, Nat.max_zero]
    by_cases hdeep : v.nesting ≤ depth
    · simp only [if_pos hdeep, hrest, hset]
    · simp only [if_neg hdeep]
  | cons e es =>
    obtain ⟨key, w⟩ := e
    obtain ⟨⟨name', rfl, hname'⟩, hw, hes⟩ := hes
    obtain ⟨gap, htext, hlength, hskip⟩ := exists_entriesText_cons style k name' w es
    have hcomma := @skipSpace_cons ',' (by decide)
    have hstarts : ∀ cs, Starts (stringText style.ascii name' ++ cs) :=
      fun cs => ⟨'"', rfl, by decide⟩
    rw [htext, ih.value hv (endsNumber_cons (by decide) _) (by omega)]
    -- a member that nests too deep stops the reader before it sees the next one
    by_cases hdeep : v.nesting ≤ depth
    · have hacc : acc ++ [(.str name, v)] ++ (.str name', w) :: es =
          acc ++ (.str name, v) :: (.str name', w) :: es := List.append_cons .. |>.symm
      have hmore : readMembers fuel depth (acc ++ [(.str name, v)]) (stringText style.ascii name' ++
          (':' :: ' ' :: (valueText style k w ++ (entriesText style k es ++ close)))) = _ :=
        ih.members hname' hw hes (by rw [hacc]; exact hdistinct) hclose hrest (by omega)
      have hmost : Value.nestingEntries ((.str name, v) :: (.str name', w) :: es) ≤ depth ↔
          Value.nestingEntries ((.str name', w) :: es) ≤ depth := by
        rw [Value.nestingEntries]
        omega
      simp only [if_pos hdeep, hcomma, hskip (hstarts _), hmost, hset, hmore, hacc]
    · rw [if_neg hdeep, Value.nestingEntries, if_neg (by omega)]

theorem readValue_list {xs : List Value} (hxs : Value.AllDocuments xs)
    (hfuel : (valueText style k (.list xs)).length ≤ fuel + 1) :
    readValue (fuel + 1) depth (valueText style k (.list xs) ++ rest) =
      if (Value.list xs).nesting ≤ depth then .ok (.list xs, rest) else .error .tooDeep := by
  -- with no depth left the bracket alone stops the reader
  by_cases hdepth : depth = 0
  · subst hdepth
    have hhead : ∃ cs, valueText style k (.list xs) = '[' :: cs := by
      cases xs with
      | nil => exact ⟨_, by rw [valueText]⟩
      | cons x xs => exact ⟨_, by rw [valueText]; rfl⟩
    obtain ⟨cs, hcs⟩ := hhead
    rw [hcs, List.cons_append, readValue, if_pos rfl, Value.nesting, if_neg (Nat.not_succ_le_zero _)]
  · have hinner : ∀ n, n + 1 ≤ depth ↔ n ≤ depth - 1 := by omega
    cases xs with
    | nil =>
      rw [valueText, List.cons_append, readValue, if_neg hdepth, List.singleton_append,
        skipSpace_cons (by decide), Value.nesting, Value.nestingAll,
        if_pos ((hinner 0).mpr (Nat.zero_le _))]
      rfl
    | cons x xs =>
      obtain ⟨hx, hxs⟩ := hxs
      have htext : valueText style k (.list (x :: xs)) ++ rest =
          '[' :: (lineBreak style (k + 1) ++ (valueText style (k + 1) x ++
            (itemsText style (k + 1) xs ++ (lineBreak style k ++ ']' :: rest)))) := by
        simp [valueText]
      have hlength : (valueText style k (.list (x :: xs))).length =
          (lineBreak style (k + 1)).length + (valueText style (k + 1) x).length +
            (itemsText style (k + 1) xs).length + (lineBreak style k).length + 2 := by
        simp [valueText]
        omega
      have hitems : readItems fuel (depth - 1) (valueText style (k + 1) x ++
          (itemsText style (k + 1) xs ++ (lineBreak style k ++ ']' :: rest))) = _ :=
        ih.items hx hxs (endsNumber_close style k (by decide) rest)
          (skipSpace_lineBreak style k ⟨']', rfl, by decide⟩) (by omega)
      rw [htext, readValue, if_neg hdepth,
        skipSpace_lineBreak style (k + 1) (starts_valueText style (k + 1) hx _)]
      split
      · next cs hcs =>
        obtain ⟨c, hc, -, hne⟩ := head?_valueText style (k + 1) hx
        obtain ⟨tail, htail⟩ := List.head?_eq_some_iff.mp hc
        rw [htail] at hcs
        exact absurd (List.cons.inj hcs).1 hne
      · rw [hitems, Value.nesting]
        simp only [hinner]
        split <;> rfl

theorem readValue_map {es : Entries} (hes : Value.EntryDocuments es) (hdistinct : es.Distinct)
    (hfuel : (valueText style k (.map es)).length ≤ fuel + 1) :
    readValue (fuel + 1) depth (valueText style k (.map es) ++ rest) =
      if (Value.map es).nesting ≤ depth then .ok (.map es, rest) else .error .tooDeep := by
  by_cases hdepth : depth = 0
  · subst hdepth
    have hhead : ∃ cs, valueText style k (.map es) = '\x7b' :: cs := by
      cases es with
      | nil => exact ⟨_, by rw [valueText]⟩
      | cons e es => exact ⟨_, by rw [valueText]; rfl⟩
    obtain ⟨cs, hcs⟩ := hhead
    rw [hcs, List.cons_append, readValue, if_pos rfl, Value.nesting, if_neg (Nat.not_succ_le_zero _)]
  · have hinner : ∀ n, n + 1 ≤ depth ↔ n ≤ depth - 1 := by omega
    cases es with
    | nil =>
      rw [valueText, List.cons_append, readValue, if_neg hdepth, List.singleton_append,
        skipSpace_cons (by decide), Value.nesting, Value.nestingEntries,
        if_pos ((hinner 0).mpr (Nat.zero_le _))]
      rfl
    | cons e es =>
      obtain ⟨key, v⟩ := e
      obtain ⟨⟨name, rfl, hname⟩, hv, hes⟩ := hes
      have htext : valueText style k (.map ((.str name, v) :: es)) ++ rest =
          '\x7b' :: (lineBreak style (k + 1) ++ (stringText style.ascii name ++
            (':' :: ' ' :: (valueText style (k + 1) v ++ (entriesText style (k + 1) es ++
              (lineBreak style k ++ '\x7d' :: rest)))))) := by
        simp [valueText, keyText?]
      have hlength : (valueText style k (.map ((.str name, v) :: es))).length =
          (lineBreak style (k + 1)).length + (stringText style.ascii name).length +
            (valueText style (k + 1) v).length + (entriesText style (k + 1) es).length +
            (lineBreak style k).length + 4 := by
        simp [valueText, keyText?]
        omega
      have hmembers : readMembers fuel (depth - 1) [] (stringText style.ascii name ++
          (':' :: ' ' :: (valueText style (k + 1) v ++ (entriesText style (k + 1) es ++
            (lineBreak style k ++ '\x7d' :: rest))))) = _ :=
        ih.members hname hv hes hdistinct (endsNumber_close style k (by decide) rest)
          (skipSpace_lineBreak style k ⟨'\x7d', rfl, by decide⟩) (by omega)
      rw [htext, readValue, if_neg hdepth, skipSpace_lineBreak style (k + 1) ⟨'"', rfl, by decide⟩]
      split
      · next cs hcs => cases hcs
      · rw [hmembers, Value.nesting, List.nil_append]
        simp only [hinner]
        split <;> rfl

theorem readValue_text {v : Value} (hv : v.IsDocument) (hrest : EndsNumber rest)
    (hfuel : (valueText style k v).length ≤ fuel + 1) :
    readValue (fuel + 1) depth (valueText style k v ++ rest) =
      if v.nesting ≤ depth then .ok (v, rest) else .error .tooDeep := by
  have hflat : v.nesting = 0 → readValue (fuel + 1) depth (valueText style k v ++ rest) =
      .ok (v, rest) → readValue (fuel + 1) depth (valueText style k v ++ rest) =
        if v.nesting ≤ depth then .ok (v, rest) else .error .tooDeep := by
    intro hnesting hread
    rw [hread, hnesting, if_pos (Nat.zero_le _)]
  cases v with
  | null => exact hflat rfl (by rw [valueText]; rfl)
  | bool b => cases b <;> exact hflat rfl (by rw [valueText]; rfl)
  | int i =>
    have hread := readNumber_text style k hv (.inl ⟨i, rfl⟩) hrest
    exact hflat rfl (readValue_of_readNumber hread fuel depth)
  | float x =>
    have hread := readNumber_text style k hv (.inr ⟨x, rfl⟩) hrest
    exact hflat rfl (readValue_of_readNumber hread fuel depth)
  | str s =>
    refine hflat rfl ?_
    have htext : valueText style k (.str s) ++ rest =
        '"' :: (s.toList.flatMap (escapeChar style.ascii) ++ '"' :: rest) := by
      simp [valueText, stringText]
    rw [htext, readValue, readText_stringText hv]
    rfl
  | list xs => exact readValue_list ih hv hfuel
  | map es => exact readValue_map ih hv.2 hv.1 hfuel
  | _ => exact hv.elim

end

theorem readsBack (style : Style) (fuel : Nat) : ReadsBack style fuel := by
  -- each reader calls the others with less fuel, on texts that are shorter by at least as much
  induction fuel with
  | zero => exact readsBack_zero style
  | succ fuel ih =>
    exact ⟨readValue_text ih, readItems_text ih, readMembers_text ih⟩

/-- The text of a value is read to its end, by a reader that follows lists and maps deep enough. -/
theorem readValue_document (style : Style) (depth : Nat) {v : Value} (hv : v.IsDocument) :
    readValue (2 * (valueText style 0 v).length + 2) depth (valueText style 0 v) =
      if v.nesting ≤ depth then .ok (v, []) else .error .tooDeep := by
  have hread : readValue (2 * (valueText style 0 v).length + 2) depth (valueText style 0 v ++ []) = _ :=
    (readsBack style _).value hv endsNumber_nil (by omega)
  rwa [List.append_nil] at hread

/-- The text of an object is read back unless lists and maps stand in one another deeper than the
reader follows them, and then the reader gives up. -/
theorem readDocument_text (style : Style) {es : Entries} (hes : (Value.map es).IsDocument) :
    readDocument (valueText style 0 (.map es)) =
      if (Value.map es).nesting ≤ maxDepth then .ok (.map es) else .error .tooDeep := by
  have hstarts := starts_valueText style 0 hes []
  rw [List.append_nil] at hstarts
  have hmark : ∀ cs, valueText style 0 (.map es) ≠ '\uFEFF' :: cs := by
    intro cs h
    cases es with
    | nil => rw [valueText] at h; cases h
    | cons e es => rw [valueText] at h; cases h
  rw [readDocument]
  · rw [skipSpace_of_starts hstarts, readValue_document style maxDepth hes]
    split <;> rfl
  · exact hmark

theorem read_text (style : Style) {es : Entries} (hes : (Value.map es).IsDocument) :
    read (String.ofList (valueText style 0 (.map es))) =
      if (Value.map es).nesting ≤ maxDepth then .ok (.map es) else .error .tooDeep := by
  rw [read, String.toList_ofList, readDocument_text style hes]
  split <;> rfl

end Json

end SecurityScan
