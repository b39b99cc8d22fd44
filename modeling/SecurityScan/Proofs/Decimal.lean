import SecurityScan.Number.Shortest

/-!
# Decimals that read back

The decimal of a double is read as that double. The exact expansion is, as one rounding of an exact
quotient changes nothing; of the shorter ones only those are taken that are.
-/

namespace SecurityScan.Double

/-! ## Digits -/

theorem digitsNat_eq (ds : List Char) : digitsNat ds = Nat.ofDigitChars 10 ds 0 := rfl

theorem digitsNat_append (ds es : List Char) :
    digitsNat (ds ++ es) = digitsNat ds * 10 ^ es.length + digitsNat es := by
  rw [digitsNat_eq, Nat.ofDigitChars_append, Nat.ofDigitChars_eq_ofDigitChars_zero, Nat.mul_comm]
  rfl

theorem digitsNat_zeros (n : Nat) : digitsNat (List.replicate n '0') = 0 := by
  rw [digitsNat_eq, Nat.ofDigitChars_replicate_zero, Nat.mul_zero]

theorem digitsNat_append_zeros (ds : List Char) (n : Nat) :
    digitsNat (ds ++ List.replicate n '0') = digitsNat ds * 10 ^ n := by
  rw [digitsNat_append, digitsNat_zeros, Nat.add_zero, List.length_replicate]

theorem digitsNat_zeros_append (n : Nat) (ds : List Char) :
    digitsNat (List.replicate n '0' ++ ds) = digitsNat ds := by
  rw [digitsNat_append, digitsNat_zeros, Nat.zero_mul, Nat.zero_add]

theorem digitsNat_toDigits (n : Nat) : digitsNat (Nat.toDigits 10 n) = n :=
  Nat.ofDigitChars_ten_toDigits

/-- The number of digits of a positive number, told by the powers of ten around it. -/
theorem length_toDigits_eq {n k : Nat} (hlow : 10 ^ k ≤ n) (hhigh : n < 10 ^ (k + 1)) :
    (Nat.toDigits 10 n).length = k + 1 := by
  have hle := (Nat.length_toDigits_le_iff (b := 10) (n := n) (by decide) k.succ_pos).mpr hhigh
  have hge : ¬ (Nat.toDigits 10 n).length ≤ k := by
    intro hle
    by_cases hk : k = 0
    · have := Nat.length_toDigits_pos (b := 10) (n := n)
      omega
    · have := (Nat.length_toDigits_le_iff (b := 10) (by decide) (Nat.pos_of_ne_zero hk)).mp hle
      omega
  omega

theorem pow_le_of_length_toDigits {n : Nat} (hn : 0 < n) :
    10 ^ ((Nat.toDigits 10 n).length - 1) ≤ n ∧ n < 10 ^ (Nat.toDigits 10 n).length := by
  have hpos := Nat.length_toDigits_pos (b := 10) (n := n)
  refine ⟨?_, (Nat.length_toDigits_le_iff (by decide) hpos).mp (Nat.le_refl _)⟩
  by_cases hone : (Nat.toDigits 10 n).length = 1
  · rw [hone]
    exact hn
  · have hlt := mt (Nat.length_toDigits_le_iff (b := 10) (n := n)
      (k := (Nat.toDigits 10 n).length - 1) (by decide) (by omega)).mpr (by omega)
    exact Nat.le_of_not_lt hlt

theorem length_toDigits_mul_pow {n : Nat} (hn : 0 < n) (k : Nat) :
    (Nat.toDigits 10 (n * 10 ^ k)).length = (Nat.toDigits 10 n).length + k := by
  obtain ⟨hlow, hhigh⟩ := pow_le_of_length_toDigits hn
  have hpos := Nat.length_toDigits_pos (b := 10) (n := n)
  have hlength : (Nat.toDigits 10 n).length + k = (Nat.toDigits 10 n).length - 1 + k + 1 := by omega
  rw [hlength]
  refine length_toDigits_eq ?_ ?_
  · rw [Nat.pow_add]
    exact Nat.mul_le_mul_right _ hlow
  · rw [← hlength, Nat.pow_add]
    exact Nat.mul_lt_mul_of_pos_right hhigh (Nat.pow_pos (by decide))

/-! ## Rounding -/

theorem divRound_mul (num : Nat) {den : Nat} (h : 0 < den) : divRound (num * den) den = num := by
  have hne : 0 ≠ den := Nat.ne_of_lt h
  simp [divRound, Nat.mul_div_cancel _ h, Nat.mul_mod_left, hne]

theorem divRound_scale (num den : Nat) {c : Nat} (hc : 0 < c) :
    divRound (num * c) (den * c) = divRound num den := by
  have hdiv : num * c / (den * c) = num / den := Nat.mul_div_mul_right _ _ hc
  have hmod : num * c % (den * c) = num % den * c := Nat.mul_mod_mul_right _ _ _
  have hlt : den * c < 2 * (num % den * c) ↔ den < 2 * (num % den) := by
    rw [← Nat.mul_assoc, Nat.mul_lt_mul_right hc]
  have heq : 2 * (num % den * c) = den * c ↔ 2 * (num % den) = den := by
    rw [← Nat.mul_assoc, Nat.mul_left_inj (Nat.ne_of_gt hc)]
  simp only [divRound, hdiv, hmod, hlt, heq]

theorem ofRatio_scale (neg : Bool) (num den : Nat) {c : Nat} (hc : 0 < c) :
    ofRatio neg (num * c) (den * c) = ofRatio neg num den := by
  have hscaled : num * c * 2 ^ 1074 = num * 2 ^ 1074 * c := Nat.mul_right_comm _ _ _
  have hdiv : num * 2 ^ 1074 * c / (den * c) = num * 2 ^ 1074 / den := Nat.mul_div_mul_right _ _ hc
  have hden : ∀ e, den * c * 2 ^ e = den * 2 ^ e * c := fun e => Nat.mul_right_comm _ _ _
  simp only [ofRatio, hscaled, hdiv, hden, divRound_scale _ _ hc]

theorem ofScaled_canonical {mant exp : Nat} (h : Canonical mant exp) (neg : Bool) :
    ofScaled neg mant exp = .finite neg mant exp h := dif_pos h

/-- The exponent of a canonical value is the one that its size asks for. -/
theorem log2_canonical {mant exp : Nat} (h : Canonical mant exp) :
    (mant * 2 ^ exp).log2 - 52 = exp := by
  obtain ⟨hlt, -, rfl | hle⟩ := h
  · have hlog : (mant * 2 ^ 0).log2 < 53 := by
      by_cases hzero : mant = 0
      · rw [hzero]
        decide
      · exact (Nat.log2_lt (by simpa using hzero)).mpr (by simpa using hlt)
    omega
  · have hpos : mant * 2 ^ exp ≠ 0 := Nat.ne_of_gt (Nat.mul_pos (by omega) (Nat.pow_pos (by decide)))
    have hlow : 52 + exp ≤ (mant * 2 ^ exp).log2 := by
      rw [Nat.le_log2 hpos, Nat.pow_add]
      exact Nat.mul_le_mul_right _ hle
    have hhigh : (mant * 2 ^ exp).log2 < 53 + exp := by
      rw [Nat.log2_lt hpos, Nat.pow_add]
      exact Nat.mul_lt_mul_of_pos_right hlt (Nat.pow_pos (by decide))
    omega

/-- An exact quotient is not rounded. -/
theorem ofRatio_exact {mant exp num den : Nat} (h : Canonical mant exp) (neg : Bool) (hden : 0 < den)
    (hexact : num * 2 ^ 1074 = mant * 2 ^ exp * den) : ofRatio neg num den = .finite neg mant exp h := by
  have hdiv : num * 2 ^ 1074 / den = mant * 2 ^ exp := by
    rw [hexact, Nat.mul_div_cancel _ hden]
  have hround : divRound (num * 2 ^ 1074) (den * 2 ^ exp) = mant := by
    rw [hexact, Nat.mul_assoc, Nat.mul_comm (2 ^ exp)]
    exact divRound_mul mant (Nat.mul_pos hden (Nat.pow_pos (by decide)))
  have hne : mant ≠ 2 ^ 53 := Nat.ne_of_lt h.1
  simp only [ofRatio, hdiv, log2_canonical h, hround, if_neg hne, ofScaled_canonical h]

/-! ## Decimals -/

/-- Zeros at the end of the digits are worth as much in the exponent. -/
theorem ofDecimal_shift (neg : Bool) (n k : Nat) (e : Int) :
    ofDecimal neg (n * 10 ^ k) e = ofDecimal neg n (e + k) := by
  have hten : 0 < 10 ^ k := Nat.pow_pos (by decide)
  by_cases hn : n = 0
  · simp [ofDecimal, hn]
  · have hprod : n * 10 ^ k ≠ 0 := Nat.mul_ne_zero hn (Nat.ne_of_gt hten)
    have htop : ((Nat.toDigits 10 (n * 10 ^ k)).length : Int) + e =
        (Nat.toDigits 10 n).length + (e + k) := by
      rw [length_toDigits_mul_pow (Nat.pos_of_ne_zero hn)]
      omega
    simp only [ofDecimal, if_neg hn, if_neg hprod, htop]
    split
    · rfl
    split
    · rfl
    -- the zeros move into an exponent that stays below zero, ends above it or was above it already
    by_cases he : 0 ≤ e
    · have hek : 0 ≤ e + k := by omega
      have hexp : (e + k).toNat = k + e.toNat := by omega
      rw [if_pos he, if_pos hek, hexp, Nat.pow_add, Nat.mul_assoc]
    · rw [if_neg he]
      by_cases hek : 0 ≤ e + k
      · have hexp : (k : Nat) = (e + k).toNat + (-e).toNat := by omega
        rw [if_pos hek, ← ofRatio_scale neg _ 1 (c := 10 ^ (-e).toNat) (Nat.pow_pos (by decide)),
          Nat.one_mul, Nat.mul_assoc, ← Nat.pow_add, ← hexp]
      · have hexp : (-e).toNat = (-(e + k)).toNat + k := by omega
        rw [if_neg hek, hexp, Nat.pow_add, ofRatio_scale neg _ _ hten]

theorem ofScaled_neg (neg : Bool) (mant exp : Nat) :
    ofScaled neg mant exp = if neg then (ofScaled false mant exp).neg else ofScaled false mant exp := by
  unfold ofScaled
  cases neg <;> split <;> rfl

theorem ofRatio_neg (neg : Bool) (num den : Nat) :
    ofRatio neg num den = if neg then (ofRatio false num den).neg else ofRatio false num den := by
  simp only [ofRatio]
  split <;> exact ofScaled_neg neg _ _

theorem ofDecimal_neg (neg : Bool) (n : Nat) (e : Int) :
    ofDecimal neg n e = if neg then (ofDecimal false n e).neg else ofDecimal false n e := by
  simp only [ofDecimal]
  split
  · cases neg <;> rfl
  split
  · cases neg <;> rfl
  split
  · cases neg <;> rfl
  split <;> exact ofRatio_neg neg _ _

/-! ## The exact expansion -/

/-- A decimal whose first digit is neither too far up nor too far down is rounded. -/
theorem ofDecimal_eq_ofRatio {n : Nat} {e : Int} (neg : Bool) (hn : 0 < n)
    (hhigh : ((Nat.toDigits 10 n).length : Int) + e ≤ 400)
    (hlow : -400 ≤ ((Nat.toDigits 10 n).length : Int) + e) : ofDecimal neg n e =
      if 0 ≤ e then ofRatio neg (n * 10 ^ e.toNat) 1 else ofRatio neg n (10 ^ (-e).toNat) := by
  have hne : n ≠ 0 := by omega
  simp only [ofDecimal, if_neg hne, if_neg (Int.not_lt.mpr hhigh), if_neg (Int.not_lt.mpr hlow)]

theorem pow_two_le_pow_ten {j k : Nat} (h : k ≤ 3 * j) : 2 ^ k ≤ 10 ^ j :=
  calc 2 ^ k ≤ 2 ^ (3 * j) := Nat.pow_le_pow_right (by decide) h
    _ = 8 ^ j := Nat.pow_mul 2 3 j
    _ ≤ 10 ^ j := Nat.pow_le_pow_left (by decide) j

theorem ofDecimal_exact_whole {mant exp : Nat} (h : Canonical mant exp) (hmant : 0 < mant)
    (hexp : 1074 ≤ exp) :
    ofDecimal false (mant * 2 ^ (exp - 1074)) 0 = .finite false mant exp h := by
  have hpos : 0 < mant * 2 ^ (exp - 1074) := Nat.mul_pos hmant (Nat.pow_pos (by decide))
  have hsize : mant * 2 ^ (exp - 1074) < 10 ^ 400 := by
    calc mant * 2 ^ (exp - 1074) < 2 ^ 53 * 2 ^ (exp - 1074) :=
          Nat.mul_lt_mul_of_pos_right h.1 (Nat.pow_pos (by decide))
      _ = 2 ^ (53 + (exp - 1074)) := (Nat.pow_add ..).symm
      _ ≤ 10 ^ 400 := pow_two_le_pow_ten (by have := h.2.1; omega)
  have hlength := (Nat.length_toDigits_le_iff (b := 10) (by decide) (by decide)).mpr hsize
  rw [ofDecimal_eq_ofRatio false hpos (by omega) (by omega), if_pos (Int.le_refl 0)]
  refine ofRatio_exact h false (by decide) ?_
  have hexponents : exp - 1074 + 1074 = exp := by omega
  rw [Int.toNat_zero, Nat.pow_zero, Nat.mul_one, Nat.mul_one, Nat.mul_assoc,
    ← Nat.pow_add 2 (exp - 1074) 1074, hexponents]

/-- Powers of five outgrow the powers of ten whose exponents are smaller by a third. -/
theorem pow_ten_lt_pow_five {j k : Nat} (hj : 0 < j) (hlow : j ≤ k) (hhigh : k ≤ 3 * j) :
    10 ^ (k - j) < 5 ^ k := by
  have hsplit : 5 ^ k = 5 ^ (k - j) * 5 ^ j := by
    rw [← Nat.pow_add, Nat.sub_add_cancel hlow]
  have hten : 10 ^ (k - j) = 5 ^ (k - j) * 2 ^ (k - j) := by
    rw [← Nat.mul_pow]
  rw [hsplit, hten]
  refine Nat.mul_lt_mul_of_pos_left ?_ (Nat.pow_pos (by decide))
  calc 2 ^ (k - j) ≤ 2 ^ (2 * j) := Nat.pow_le_pow_right (by decide) (by omega)
    _ = 4 ^ j := Nat.pow_mul 2 2 j
    _ < 5 ^ j := Nat.pow_lt_pow_left (by decide) (by omega)

theorem ofDecimal_exact_fraction {mant exp : Nat} (h : Canonical mant exp) (hmant : 0 < mant)
    (hexp : exp < 1074) :
    ofDecimal false (mant * 5 ^ (1074 - exp)) ((exp : Int) - 1074) = .finite false mant exp h := by
  obtain ⟨k, hk⟩ : ∃ k, 1074 = exp + k := ⟨1074 - exp, by omega⟩
  have hsub : 1074 - exp = k := by omega
  rw [hsub]
  have hpos : 0 < mant * 5 ^ k := Nat.mul_pos hmant (Nat.pow_pos (by decide))
  have hsize : mant * 5 ^ k < 10 ^ (53 + k) := by
    rw [Nat.pow_add]
    calc mant * 5 ^ k < 2 ^ 53 * 5 ^ k := Nat.mul_lt_mul_of_pos_right h.1 (Nat.pow_pos (by decide))
      _ ≤ 10 ^ 53 * 10 ^ k :=
          Nat.mul_le_mul (Nat.pow_le_pow_left (by decide) 53) (Nat.pow_le_pow_left (by decide) k)
  have hlength := (Nat.length_toDigits_le_iff (b := 10) (by decide) (by omega)).mpr hsize
  -- the expansion has few zeros in front, since the powers of five grow nearly as fast as those of ten
  have hdigits : k ≤ (Nat.toDigits 10 (mant * 5 ^ k)).length + 400 := by
    refine Nat.le_of_not_lt fun hlt => ?_
    have hupper := (pow_le_of_length_toDigits hpos).2
    have hlower : 5 ^ k ≤ mant * 5 ^ k := Nat.le_mul_of_pos_left _ hmant
    have hstep : 10 ^ (Nat.toDigits 10 (mant * 5 ^ k)).length ≤ 10 ^ (k - 401) :=
      Nat.pow_le_pow_right (by decide) (by omega)
    have hfive := pow_ten_lt_pow_five (j := 401) (k := k) (by decide) (by omega) (by omega)
    omega
  rw [ofDecimal_eq_ofRatio false hpos (by omega) (by omega), if_neg (by omega)]
  refine ofRatio_exact h false (Nat.pow_pos (by decide)) ?_
  have hneg : (-((exp : Int) - 1074)).toNat = k := by omega
  have hten : 10 ^ k = 5 ^ k * 2 ^ k := by rw [← Nat.mul_pow]
  rw [hneg, hten, hk, Nat.pow_add, Nat.mul_assoc, Nat.mul_left_comm (5 ^ k), Nat.mul_comm (5 ^ k),
    Nat.mul_assoc mant]

theorem ofDecimal_exactDecimal {mant exp : Nat} (h : Canonical mant exp) (hmant : 0 < mant) :
    ofDecimal false (exactDecimal mant exp).digits (exactDecimal mant exp).exp10 =
      .finite false mant exp h := by
  unfold exactDecimal
  split
  · next hexp => exact ofDecimal_exact_whole h hmant hexp
  · next hexp => exact ofDecimal_exact_fraction h hmant (Nat.lt_of_not_le hexp)

/-! ## The shortest decimal -/

theorem ofDecimal_of_mem_candidates {target : Double} {ds : List Char} {exp10 : Int} {n : Nat}
    {d : Decimal} (h : d ∈ candidates target ds exp10 n) :
    ofDecimal false d.digits d.exp10 = target := by
  unfold candidates at h
  exact eq_of_beq (List.mem_filter.mp h).2

/-- The shortest decimal of a double is read as that double. -/
theorem ofDecimal_shortest {mant exp : Nat} (h : Canonical mant exp) (hmant : 0 < mant) (neg : Bool) :
    ofDecimal neg (shortest mant exp).digits (shortest mant exp).exp10 = .finite neg mant exp h := by
  have hpositive : ofDecimal false (shortest mant exp).digits (shortest mant exp).exp10 =
      .finite false mant exp h := by
    simp only [shortest]
    -- every candidate has been read back before it is taken, and without one the expansion stays
    cases hfound : (List.range (Nat.toDigits 10 (exactDecimal mant exp).digits).length).findSome?
        fun n => (candidates (ofScaled false mant exp)
          (Nat.toDigits 10 (exactDecimal mant exp).digits) (exactDecimal mant exp).exp10 (n + 1)).head? with
    | none => exact ofDecimal_exactDecimal h hmant
    | some d =>
      obtain ⟨n, -, hn⟩ := List.exists_of_findSome?_eq_some hfound
      rw [Option.getD_some, ofDecimal_of_mem_candidates (List.mem_of_head? hn), ofScaled_canonical h]
  rw [ofDecimal_neg, hpositive]
  cases neg <;> rfl

theorem digits_shortest_pos {mant exp : Nat} (h : Canonical mant exp) (hmant : 0 < mant) :
    0 < (shortest mant exp).digits := by
  have hvalue := ofDecimal_shortest h hmant false
  refine Nat.pos_of_ne_zero fun hzero => ?_
  rw [hzero] at hvalue
  simp only [ofDecimal, if_pos, zero] at hvalue
  cases hvalue
  omega

end SecurityScan.Double
