import Mathlib.Data.List.TakeDrop
import SecurityScan.Json.Reader
import SecurityScan.Json.Writer
import SecurityScan.Proofs.Decimal

/-!
# Numbers that read back

What is written for a whole number or for a finite double is read as that number, whatever follows
that is not part of a number.
-/

namespace SecurityScan.Json

open Text (isDigit)

/-! ## Digits -/

def AllDigits (ds : List Char) : Prop := ∀ d ∈ ds, isDigit d = true

/-- What does not go on with a number. -/
def EndsNumber (cs : List Char) : Prop :=
  ∀ c ∈ cs.head?, isDigit c = false ∧ c ≠ '.' ∧ c ≠ 'e' ∧ c ≠ 'E'

theorem AllDigits.append {ds es : List Char} (hds : AllDigits ds) (hes : AllDigits es) :
    AllDigits (ds ++ es) := fun d hd => (List.mem_append.mp hd).elim (hds d) (hes d)

theorem allDigits_zeros (n : Nat) : AllDigits (List.replicate n '0') := by
  intro d hd
  rw [List.eq_of_mem_replicate hd]
  decide

theorem allDigits_toDigits (n : Nat) : AllDigits (Nat.toDigits 10 n) := by
  intro d hd
  have hdigit := Nat.isDigit_of_mem_toDigits (by decide) (by decide) hd
  simpa [Char.isDigit, isDigit, Char.le_def] using hdigit

theorem digitChar_ne_zero {n : Nat} (hpos : 0 < n) (hlt : n < 10) : n.digitChar ≠ '0' := by
  have hall : ∀ n : Fin 10, 0 < n.val → n.val.digitChar ≠ '0' := by decide
  exact hall ⟨n, hlt⟩ hpos

/-- A positive number does not begin with a zero. -/
theorem head?_toDigits {n : Nat} (hn : 0 < n) : (Nat.toDigits 10 n).head? ≠ some '0' := by
  induction n using Nat.strongRecOn with
  | ind n ih =>
    rw [Nat.toDigits_eq_if (by decide)]
    split
    · next hlt => simpa using digitChar_ne_zero hn hlt
    · next hge =>
      have hfirst := ih (n / 10) (by omega) (by omega)
      obtain ⟨c, cs, hcs⟩ := List.exists_cons_of_ne_nil (Nat.toDigits_ne_nil (n := n / 10) (b := 10))
      rw [hcs] at hfirst
      rw [hcs]
      exact hfirst

theorem span_digits {ds rest : List Char} (hds : AllDigits ds)
    (hrest : ∀ c ∈ rest.head?, isDigit c = false) : (ds ++ rest).span isDigit = (ds, rest) := by
  rw [List.span_eq_takeWhile_dropWhile, List.takeWhile_append_of_pos hds,
    List.dropWhile_append_of_pos hds]
  cases rest with
  | nil => rw [List.takeWhile_nil, List.dropWhile_nil, List.append_nil]
  | cons c cs =>
    have hc : ¬isDigit c = true := Bool.eq_false_iff.mp (hrest c rfl)
    rw [List.takeWhile_cons_of_neg hc, List.dropWhile_cons_of_neg hc, List.append_nil]

/-! ## The parts of a number -/

theorem wholePart_digits {ds rest : List Char} (hds : AllDigits ds)
    (hzero : ds.head? = some '0' → ds = ['0']) (hrest : ∀ c ∈ rest.head?, isDigit c = false) :
    wholePart (ds ++ rest) = (ds, rest) := by
  cases ds with
  | nil =>
    cases rest with
    | nil => rfl
    | cons c cs =>
      have hc : isDigit c = false := hrest c rfl
      have hne : c ≠ '0' := by
        rintro rfl
        exact absurd hc (by decide)
      rw [List.nil_append, wholePart]
      · exact @span_digits [] (c :: cs) hds hrest
      · rintro cs' h
        exact hne (List.cons.inj h).1
  | cons d ds =>
    by_cases hd : d = '0'
    · subst hd
      rw [hzero rfl]
      rfl
    · rw [wholePart]
      · exact span_digits hds hrest
      · rintro cs' h
        exact hd (List.cons.inj h).1

theorem fractionPart_digits {ds rest : List Char} (hds : AllDigits ds) (hne : ds ≠ [])
    (hrest : ∀ c ∈ rest.head?, isDigit c = false) :
    fractionPart ('.' :: (ds ++ rest)) = some (ds, rest) := by
  rw [fractionPart, span_digits hds hrest]
  cases ds with
  | nil => exact absurd rfl hne
  | cons d ds => rfl

theorem fractionPart_eq_none {rest : List Char} (h : ∀ c ∈ rest.head?, c ≠ '.') :
    fractionPart rest = none := by
  unfold fractionPart
  split
  · exact absurd rfl (h '.' rfl)
  · rfl

theorem exponentPart_digits (neg : Bool) {ds rest : List Char} (hds : AllDigits ds) (hne : ds ≠ [])
    (hrest : ∀ c ∈ rest.head?, isDigit c = false) :
    exponentPart ('e' :: (if neg then '-' else '+') :: (ds ++ rest)) =
      some (if neg then -(Double.digitsNat ds : Int) else Double.digitsNat ds, rest) := by
  have hsign : Number.splitSign ((if neg then '-' else '+') :: (ds ++ rest)) = (neg, ds ++ rest) := by
    cases neg <;> rfl
  rw [exponentPart, if_pos (by decide), hsign]
  simp only [span_digits hds hrest]

theorem exponentPart_eq_none {rest : List Char} (h : ∀ c ∈ rest.head?, c ≠ 'e' ∧ c ≠ 'E') :
    exponentPart rest = none := by
  cases rest with
  | nil => rfl
  | cons c cs =>
    obtain ⟨he, hE⟩ := h c rfl
    simp [exponentPart, he, hE]

/-! ## Numbers -/

def signed (neg : Bool) (cs : List Char) : List Char := if neg then '-' :: cs else cs

theorem ne_cons_of_head? {cs : List Char} {c : Char} (h : cs.head? ≠ some c) (rest : List Char) :
    cs ≠ c :: rest := by
  rintro rfl
  exact h rfl

theorem head?_ne_sign {ds rest : List Char} (hds : AllDigits ds) (hne : ds ≠ []) :
    (ds ++ rest).head? ≠ some '-' := by
  obtain ⟨d, ds, rfl⟩ := List.exists_cons_of_ne_nil hne
  intro h
  have hd := hds d List.mem_cons_self
  rw [Option.some.inj h] at hd
  exact absurd hd (by decide)

theorem readNumber_float {cs whole fraction rest₁ rest₂ rest₃ : List Char} {e : Int} (neg : Bool)
    (hsign : cs.head? ≠ some '-') (hne : whole ≠ []) (hwhole : wholePart cs = (whole, rest₁))
    (hfraction : (fractionPart rest₁).getD ([], rest₁) = (fraction, rest₂))
    (hexponent : (exponentPart rest₂).getD (0, rest₂) = (e, rest₃))
    (hfloat : fraction ≠ [] ∨ (exponentPart rest₂).isSome = true) :
    readNumber (signed neg cs) = .ok (.float (.ofDecimal neg (Double.digitsNat (whole ++ fraction))
      (e - fraction.length)), rest₃) := by
  have hnotWhole : (fraction.isEmpty && (exponentPart rest₂).isNone) = false := by
    obtain h | h := hfloat
    · simp [h]
    · rw [Option.isNone_eq_false_iff.mpr h, Bool.and_false]
  obtain ⟨w, ws, rfl⟩ := List.exists_cons_of_ne_nil hne
  cases neg with
  | true =>
    rw [signed, if_pos rfl, readNumber]
    simp only [hwhole, hfraction, hnotWhole, hexponent]
    rfl
  | false =>
    rw [signed, if_neg Bool.false_ne_true, readNumber]
    · simp only [hwhole, hfraction, hnotWhole, hexponent]
      rfl
    · exact fun rest => ne_cons_of_head? hsign rest

/-- Digits alone are a whole number, unless they are too many. -/
theorem readNumber_digits {ds rest : List Char} (neg : Bool) (hds : AllDigits ds) (hne : ds ≠ [])
    (hzero : ds.head? = some '0' → ds = ['0']) (hrest : EndsNumber rest) :
    readNumber (signed neg (ds ++ rest)) =
      if Number.maxDigits < ds.length then .error (.tooManyDigits ds.length)
      else .ok (.int (if neg then -(Double.digitsNat ds : Int) else Double.digitsNat ds), rest) := by
  have hwhole := wholePart_digits hds hzero fun c hc => (hrest c hc).1
  have hfraction := fractionPart_eq_none fun c hc => (hrest c hc).2.1
  have hexponent := exponentPart_eq_none fun c hc => (hrest c hc).2.2
  have hsign := @head?_ne_sign ds rest hds hne
  obtain ⟨d, ds, rfl⟩ := List.exists_cons_of_ne_nil hne
  cases neg with
  | true =>
    rw [signed, if_pos rfl, readNumber]
    simp only [hwhole, hfraction, hexponent, Option.getD_none, List.isEmpty_nil, Option.isNone_none,
      Bool.and_self]
    rfl
  | false =>
    rw [signed, if_neg Bool.false_ne_true, readNumber]
    · simp only [hwhole, hfraction, hexponent, Option.getD_none, List.isEmpty_nil,
        Option.isNone_none, Bool.and_self]
      rfl
    · exact fun rest => ne_cons_of_head? hsign rest

theorem readNumber_whole {ds rest : List Char} (neg : Bool) (hds : AllDigits ds) (hne : ds ≠ [])
    (hzero : ds.head? = some '0' → ds = ['0']) (hlength : ds.length ≤ Number.maxDigits)
    (hrest : EndsNumber rest) : readNumber (signed neg (ds ++ rest)) =
      .ok (.int (if neg then -(Double.digitsNat ds : Int) else Double.digitsNat ds), rest) := by
  rw [readNumber_digits neg hds hne hzero hrest, if_neg (Nat.not_lt.mpr hlength)]

theorem toList_toString_int (i : Int) :
    (toString i).toList = signed (decide (i < 0)) (Nat.toDigits 10 i.natAbs) := by
  cases i with
  | ofNat n =>
    have htext : toString (Int.ofNat n) = toString n := rfl
    have hsign : ¬ Int.ofNat n < 0 := Int.not_lt.mpr (Int.natCast_nonneg n)
    rw [htext, Nat.toString_eq_ofList_toDigits, String.toList_ofList, signed, decide_eq_false hsign]
    rfl
  | negSucc n =>
    have htext : toString (Int.negSucc n) = "-" ++ toString (n + 1) := rfl
    rw [htext, Nat.toString_eq_ofList_toDigits, String.toList_append, String.toList_ofList, signed,
      decide_eq_true (Int.negSucc_lt_zero n), String.toList_ofList]
    rfl

/-- The text of a whole number that is not too long is read as that number. -/
theorem readNumber_int {i : Int} {rest : List Char} (hshort : i.natAbs < Number.digitLimit)
    (hrest : EndsNumber rest) : readNumber ((toString i).toList ++ rest) = .ok (.int i, rest) := by
  have hlength : (Nat.toDigits 10 i.natAbs).length ≤ Number.maxDigits :=
    (Nat.length_toDigits_le_iff (by decide) (by decide)).mpr hshort
  have hzero : (Nat.toDigits 10 i.natAbs).head? = some '0' → Nat.toDigits 10 i.natAbs = ['0'] := by
    intro hhead
    by_cases hpos : 0 < i.natAbs
    · exact absurd hhead (head?_toDigits hpos)
    · rw [Nat.eq_zero_of_not_pos hpos]
      rfl
  have hvalue : (if decide (i < 0) then -(i.natAbs : Int) else i.natAbs) = i := by
    simp only [decide_eq_true_eq]
    omega
  have happend : (toString i).toList ++ rest =
      signed (decide (i < 0)) (Nat.toDigits 10 i.natAbs ++ rest) := by
    rw [toList_toString_int]
    unfold signed
    split <;> rfl
  rw [happend, readNumber_whole _ (allDigits_toDigits _) Nat.toDigits_ne_nil hzero hlength hrest,
    Double.digitsNat_toDigits, hvalue]

/-! ## Decimals -/

theorem exists_trimmed_zeros (cs : List Char) :
    ∃ z, cs = (cs.reverse.dropWhile (· == '0')).reverse ++ List.replicate z '0' := by
  have hzeros : ∀ c ∈ cs.reverse.takeWhile (· == '0'), c = '0' := by
    intro c hc
    exact eq_of_beq (List.all_eq_true.mp List.all_takeWhile c hc)
  refine ⟨(cs.reverse.takeWhile (· == '0')).length, ?_⟩
  have hsplit := List.takeWhile_append_dropWhile (p := (· == '0')) (l := cs.reverse)
  rw [List.eq_replicate_of_mem hzeros] at hsplit
  have hreversed := congrArg List.reverse hsplit
  rw [List.reverse_append, List.reverse_replicate, List.reverse_reverse] at hreversed
  exact hreversed.symm

/-- The digits of a positive number without the zeros at the end. -/
theorem exists_trimmed {n : Nat} (hn : 0 < n) : ∃ ds z,
    ((Nat.toDigits 10 n).reverse.dropWhile (· == '0')).reverse = ds ∧
      (Nat.toDigits 10 n).length = ds.length + z ∧ ds ≠ [] ∧ AllDigits ds ∧
      ds.head? ≠ some '0' ∧ Double.digitsNat ds * 10 ^ z = n := by
  obtain ⟨z, hz⟩ := exists_trimmed_zeros (Nat.toDigits 10 n)
  generalize hds : ((Nat.toDigits 10 n).reverse.dropWhile (· == '0')).reverse = ds at hz
  have hhead := head?_toDigits hn
  have hvalue := Double.digitsNat_toDigits n
  have hdigits := allDigits_toDigits n
  rw [hz] at hhead hvalue hdigits
  have hne : ds ≠ [] := by
    rintro rfl
    cases z with
    | zero => exact Nat.toDigits_ne_nil hz
    | succ z => exact hhead rfl
  refine ⟨ds, z, rfl, ?_, hne, fun d hd => hdigits d (List.mem_append_left _ hd), ?_, ?_⟩
  · rw [hz, List.length_append, List.length_replicate]
  · obtain ⟨d, ds', rfl⟩ := List.exists_cons_of_ne_nil hne
    exact hhead
  · rw [← Double.digitsNat_append_zeros]
    exact hvalue

/-- Digits on both sides of a point. -/
theorem readNumber_point {whole fraction rest : List Char} (neg : Bool) (hwhole : AllDigits whole)
    (hne : whole ≠ []) (hzero : whole.head? = some '0' → whole = ['0']) (hfraction : AllDigits fraction)
    (hne' : fraction ≠ []) (hrest : EndsNumber rest) :
    readNumber (signed neg (whole ++ '.' :: (fraction ++ rest))) =
      .ok (.float (.ofDecimal neg (Double.digitsNat (whole ++ fraction)) (-fraction.length)), rest) := by
  have hpoint : ∀ c ∈ ('.' :: (fraction ++ rest)).head?, isDigit c = false := by
    rintro c ⟨⟩
    decide
  have hparts : (fractionPart ('.' :: (fraction ++ rest))).getD ([], '.' :: (fraction ++ rest)) =
      (fraction, rest) := by
    rw [fractionPart_digits hfraction hne' fun c hc => (hrest c hc).1]
    rfl
  have hexponent : (exponentPart rest).getD (0, rest) = (0, rest) := by
    rw [exponentPart_eq_none fun c hc => (hrest c hc).2.2]
    rfl
  rw [readNumber_float neg (head?_ne_sign hwhole hne) hne (wholePart_digits hwhole hzero hpoint)
    hparts hexponent (.inl hne'), Int.zero_sub]

/-- One digit, maybe more after a point, and an exponent. -/
theorem readNumber_exponent {d : Char} {fraction exponent rest : List Char} (neg below : Bool)
    (hd : isDigit d = true) (hfraction : AllDigits fraction) (hexponent : AllDigits exponent)
    (hne : exponent ≠ []) (hrest : EndsNumber rest) :
    readNumber (signed neg ([d] ++ ((if fraction = [] then [] else '.' :: fraction) ++
        ('e' :: (if below then '-' else '+') :: (exponent ++ rest))))) =
      .ok (.float (.ofDecimal neg (Double.digitsNat (d :: fraction))
        ((if below then -(Double.digitsNat exponent : Int) else Double.digitsNat exponent) -
          fraction.length)), rest) := by
  have hone : AllDigits [d] := by
    intro c hc
    rw [List.mem_singleton.mp hc]
    exact hd
  have hzero : [d].head? = some '0' → [d] = ['0'] := by
    intro h
    rw [Option.some.inj h]
  have hmark := exponentPart_digits below hexponent hne fun c hc => (hrest c hc).1
  -- what matters of the exponent from here on is that it begins with its mark
  generalize htail : 'e' :: (if below then '-' else '+') :: (exponent ++ rest) = tail at hmark
  have hhead : tail.head? = some 'e' := by rw [← htail]; rfl
  have hstart : ∀ c ∈ tail.head?, c = 'e' := by
    intro c hc
    rw [hhead] at hc
    exact (Option.some.inj hc).symm
  have hafter : ∀ c ∈ ((if fraction = [] then [] else '.' :: fraction) ++ tail).head?,
      isDigit c = false := by
    split
    · intro c hc
      rw [hstart c hc]
      decide
    · rintro c ⟨⟩
      decide
  have hparts : (fractionPart ((if fraction = [] then [] else '.' :: fraction) ++ tail)).getD
      ([], (if fraction = [] then [] else '.' :: fraction) ++ tail) = (fraction, tail) := by
    by_cases hnil : fraction = []
    · rw [if_pos hnil, List.nil_append, hnil, fractionPart_eq_none fun c hc => by
        rw [hstart c hc]; decide]
      rfl
    · rw [if_neg hnil, List.cons_append, fractionPart_digits hfraction hnil fun c hc => by
        rw [hstart c hc]; decide]
      rfl
  rw [readNumber_float neg (head?_ne_sign hone (by simp)) (by simp)
    (wholePart_digits hone hzero hafter) hparts (by rw [hmark, Option.getD_some]) (.inr (by rw [hmark]; rfl))]
  rfl

theorem allDigits_padZeros {ds : List Char} (hds : AllDigits ds) (width : Nat) :
    AllDigits (Double.padZeros width ds) := (allDigits_zeros _).append hds

theorem digitsNat_padZeros (width : Nat) (ds : List Char) :
    Double.digitsNat (Double.padZeros width ds) = Double.digitsNat ds :=
  Double.digitsNat_zeros_append _ ds

section
variable {ds rest : List Char} (neg : Bool) {e first : Int} (hdigits : AllDigits ds) (hne : ds ≠ [])
  (hhead : ds.head? ≠ some '0') (hfirst : first = e + ds.length - 1) (hrest : EndsNumber rest)
include hdigits hne hfirst hrest

theorem readNumber_scientific (width : Nat) :
    readNumber (signed neg (ds.take 1 ++ (if ds.length = 1 then [] else '.' :: ds.drop 1) ++
        ['e', if first < 0 then '-' else '+'] ++
        Double.padZeros width (Nat.toDigits 10 first.natAbs) ++ rest)) =
      .ok (.float (.ofDecimal neg (Double.digitsNat ds) e), rest) := by
  obtain ⟨d, fraction, rfl⟩ := List.exists_cons_of_ne_nil hne
  have hd : isDigit d = true := hdigits d List.mem_cons_self
  have hfraction : AllDigits fraction := fun c hc => hdigits c (List.mem_cons_of_mem _ hc)
  have hexponent := allDigits_padZeros (allDigits_toDigits first.natAbs) width
  have hpadded : Double.padZeros width (Nat.toDigits 10 first.natAbs) ≠ [] := by
    simp [Double.padZeros, Nat.toDigits_ne_nil]
  have hvalue := readNumber_exponent neg (decide (first < 0)) hd hfraction hexponent hpadded hrest
  have he : (if decide (first < 0) then -(first.natAbs : Int) else first.natAbs) -
      fraction.length = e := by
    rw [List.length_cons] at hfirst
    simp only [decide_eq_true_eq]
    omega
  rw [digitsNat_padZeros, Double.digitsNat_toDigits, he] at hvalue
  rw [← hvalue]
  simp

theorem readNumber_small (hbelow : first < 0) :
    readNumber (signed neg ('0' :: '.' :: List.replicate (-first - 1).toNat '0' ++ ds ++ rest)) =
      .ok (.float (.ofDecimal neg (Double.digitsNat ds) e), rest) := by
  have hfraction : AllDigits (List.replicate (-first - 1).toNat '0' ++ ds) :=
    (allDigits_zeros _).append hdigits
  have hvalue := readNumber_point neg (allDigits_zeros 1) (by decide) (fun _ => rfl) hfraction
    (by simp [hne]) hrest
  have he : -((List.replicate (-first - 1).toNat '0' ++ ds).length : Int) = e := by
    rw [List.length_append, List.length_replicate]
    omega
  rw [he, Double.digitsNat_zeros_append, Double.digitsNat_zeros_append] at hvalue
  rw [← hvalue]
  simp

include hhead

theorem readNumber_large (hlow : 0 ≤ first) (hlong : (ds.length : Int) ≤ first + 1) :
    readNumber (signed neg (ds ++ List.replicate (first.toNat + 1 - ds.length) '0' ++ ['.', '0'] ++
        rest)) = .ok (.float (.ofDecimal neg (Double.digitsNat ds) e), rest) := by
  have hwhole := hdigits.append (allDigits_zeros (first.toNat + 1 - ds.length))
  have hzero : (ds ++ List.replicate (first.toNat + 1 - ds.length) '0').head? = some '0' →
      ds ++ List.replicate (first.toNat + 1 - ds.length) '0' = ['0'] := by
    obtain ⟨d, ds, rfl⟩ := List.exists_cons_of_ne_nil hne
    exact fun h => absurd h hhead
  have hvalue := readNumber_point neg hwhole (by simp [hne]) hzero (allDigits_zeros 1) (by decide) hrest
  -- the digits are read with zeros behind them, and these go into the exponent
  have he : -((List.replicate 1 '0').length : Int) + (first.toNat + 1 - ds.length + 1 : Nat) = e := by
    rw [List.length_replicate]
    omega
  have hvalueOf : Double.digitsNat (ds ++ List.replicate (first.toNat + 1 - ds.length) '0' ++
      List.replicate 1 '0') = Double.digitsNat ds * 10 ^ (first.toNat + 1 - ds.length + 1) := by
    rw [List.append_assoc, List.replicate_append_replicate, Double.digitsNat_append_zeros]
  rw [hvalueOf, Double.ofDecimal_shift, he] at hvalue
  rw [← hvalue]
  simp

theorem readNumber_mixed (hlow : 0 ≤ first) (hshort : first + 1 < ds.length) :
    readNumber (signed neg (ds.take (first.toNat + 1) ++ '.' :: ds.drop (first.toNat + 1) ++ rest)) =
      .ok (.float (.ofDecimal neg (Double.digitsNat ds) e), rest) := by
  have hwhole : AllDigits (ds.take (first.toNat + 1)) := fun d hd => hdigits d (List.mem_of_mem_take hd)
  have hfraction : AllDigits (ds.drop (first.toNat + 1)) :=
    fun d hd => hdigits d (List.mem_of_mem_drop hd)
  have hzero : (ds.take (first.toNat + 1)).head? = some '0' → ds.take (first.toNat + 1) = ['0'] := by
    obtain ⟨d, ds, rfl⟩ := List.exists_cons_of_ne_nil hne
    exact fun h => absurd h hhead
  have hvalue := readNumber_point neg hwhole (by simp [hne]) hzero hfraction
    (by simp; omega) hrest
  have he : -((ds.drop (first.toNat + 1)).length : Int) = e := by
    rw [List.length_drop]
    omega
  rw [List.take_append_drop, he] at hvalue
  rw [← hvalue]
  simp

end

/-- A decimal that is laid out is read as what its digits come to. -/
theorem readNumber_layOut {d : Double.Decimal} {rest : List Char} (neg : Bool) (hd : 0 < d.digits)
    (hrest : EndsNumber rest) :
    readNumber (signed neg (Double.layOut Double.plainLayout d ++ rest)) =
      .ok (.float (.ofDecimal neg d.digits d.exp10), rest) := by
  obtain ⟨ds, z, hds, hlength, hne, hdigits, hhead, hvalue⟩ := exists_trimmed hd
  have hshift : Double.ofDecimal neg d.digits d.exp10 =
      .ofDecimal neg (Double.digitsNat ds) (d.exp10 + z) := by
    rw [← Double.ofDecimal_shift, hvalue]
  -- the place of the first digit picks the layout
  obtain ⟨first, hfirst⟩ : ∃ first : Int, first = d.exp10 + (Nat.toDigits 10 d.digits).length - 1 :=
    ⟨_, rfl⟩
  have hplace : first = d.exp10 + z + ds.length - 1 := by omega
  rw [hshift, Double.layOut]
  simp only [hds, ← hfirst]
  split
  · exact readNumber_scientific neg hdigits hne hplace hrest _
  · split
    · next hbelow => exact readNumber_small neg hdigits hne hplace hrest hbelow
    · next hbelow =>
      split
      · exact readNumber_large neg hdigits hne hhead hplace hrest (by omega) (by omega)
      · exact readNumber_mixed neg hdigits hne hhead hplace hrest (by omega) (by omega)

/-- The text of a finite double is read as that double. -/
theorem readNumber_double {neg : Bool} {mant exp : Nat} (h : Double.Canonical mant exp)
    {rest : List Char} (hrest : EndsNumber rest) :
    readNumber (doubleText (.finite neg mant exp h) ++ rest) =
      .ok (.float (.finite neg mant exp h), rest) := by
  have htext : ∀ body : List Char, (String.ofList (if neg then '-' :: body else body)).toList ++ rest =
      signed neg (body ++ rest) := by
    intro body
    rw [String.toList_ofList, signed]
    split <;> rfl
  by_cases hmant : mant = 0
  · subst hmant
    have hexp : exp = 0 := h.2.2.resolve_right (by decide)
    subst hexp
    rw [doubleText, Double.text, if_pos rfl, htext]
    · exact readNumber_point neg (allDigits_zeros 1) (by decide) (fun _ => rfl) (allDigits_zeros 1)
        (by decide) hrest
    · rintro ⟨⟩
    · rintro _ ⟨⟩
  · have hpos : 0 < mant := Nat.pos_of_ne_zero hmant
    rw [doubleText, Double.text, if_neg hmant, htext,
      readNumber_layOut neg (Double.digits_shortest_pos h hpos) hrest,
      Double.ofDecimal_shortest h hpos]
    · rintro ⟨⟩
    · rintro _ ⟨⟩

end SecurityScan.Json
