import SecurityScan.Proofs.Decimal
import SecurityScan.Value.Basic

/-!
# When two keys are the same

Two keys are the same when they have one identity: numbers that of their exact value, whatever
their kind, moments that of the point in time, and tuples that of their parts. So what is the same as
a key is the same as all that this key is the same as.
-/

namespace SecurityScan

open Text.Utf8 (Bytes)

/-- Where a number stands among all numbers: so many times the least double above zero, beyond
them all, or nowhere. -/
inductive Extent
  | finite (n : Int)
  | infinite (neg : Bool)
  | nowhere

/-- What tells a key from others. -/
inductive Identity
  | null
  | number (e : Extent)
  | text (s : String)
  | date (d : Date)
  | moment (hasOffset : Bool) (instant : Int)
  | bytes (bs : Bytes)
  | tuple (parts : List Identity)
  /-- What is no key. -/
  | other

mutual

/-- No number is nowhere in it. -/
def Identity.proper : Identity → Bool
  | .number .nowhere => false
  | .tuple parts => properAll parts
  | _ => true

def Identity.properAll : List Identity → Bool
  | [] => true
  | i :: is => i.proper && properAll is

end

/-! ## Numbers -/

namespace Double

/-- A double has one canonical form. -/
theorem canonical_inj {m₁ e₁ m₂ e₂ : Nat} (h₁ : Canonical m₁ e₁) (h₂ : Canonical m₂ e₂)
    (h : m₁ * 2 ^ e₁ = m₂ * 2 ^ e₂) : m₁ = m₂ ∧ e₁ = e₂ := by
  have hexp : e₁ = e₂ := by rw [← log2_canonical h₁, h, log2_canonical h₂]
  subst hexp
  exact ⟨Nat.eq_of_mul_eq_mul_right (Nat.pow_pos (by decide)) h, rfl⟩

/-- Two finite doubles are equal when their exact values are. -/
theorem eq_finite_iff {n₁ n₂ : Bool} {m₁ e₁ m₂ e₂ : Nat} (h₁ : Canonical m₁ e₁)
    (h₂ : Canonical m₂ e₂) : (finite n₁ m₁ e₁ h₁).eq (finite n₂ m₂ e₂ h₂) = true ↔
      (finite n₁ m₁ e₁ h₁).scaled? = (finite n₂ m₂ e₂ h₂).scaled? := by
  have hsize : ∀ (n : Bool) (m e : Nat),
      (if n then -((m : Int) * 2 ^ e) else (m : Int) * 2 ^ e).natAbs = m * 2 ^ e := by
    intro n m e
    split <;> simp [Int.natAbs_mul, Int.natAbs_pow]
  simp only [eq, scaled?, Option.some.injEq, Bool.and_eq_true, Bool.or_eq_true, beq_iff_eq]
  constructor
  · rintro ⟨⟨rfl, rfl⟩, rfl | rfl⟩
    · rfl
    · simp
  · intro h
    have habs := congrArg Int.natAbs h
    rw [hsize, hsize] at habs
    obtain ⟨rfl, rfl⟩ := canonical_inj h₁ h₂ habs
    refine ⟨⟨rfl, rfl⟩, ?_⟩
    by_cases hmant : m₁ = 0
    · exact Or.inr hmant
    · have hpos : (0 : Int) < m₁ * 2 ^ e₁ :=
        Int.mul_pos (by omega) (Int.pow_pos (by decide))
      refine Or.inl ?_
      cases n₁ <;> cases n₂ <;> simp at h ⊢ <;> omega

end Double

namespace Value

namespace Numeric

/-- The extent of a number. -/
def extent : Numeric → Extent
  | .whole i => .finite (i * 2 ^ 1074)
  | .real .nan => .nowhere
  | .real (.infinite neg) => .infinite neg
  | .real (.finite neg mant exp _) =>
    .finite (if neg then -((mant : Int) * 2 ^ exp) else (mant : Int) * 2 ^ exp)

theorem same_iff (m n : Numeric) :
    m.same n = true ↔ m.extent ≠ .nowhere ∧ m.extent = n.extent := by
  have hpow : ∀ n : Nat, (2 : Int) ^ n ≠ 0 := fun n => Int.pow_ne_zero (by decide)
  have hone := hpow 1074
  generalize hc : (2 : Int) ^ 1074 = c at hone
  cases m with
  | whole i =>
    cases n with
    | whole j =>
      simp only [same, extent, hc, beq_iff_eq, ne_eq, reduceCtorEq, not_false_eq_true, true_and,
        Extent.finite.injEq]
      exact ⟨fun h => h ▸ rfl, Int.eq_of_mul_eq_mul_right hone⟩
    | real x =>
      cases x with
      | finite =>
        simp only [same, extent, Double.eqInt, Double.scaled?, hc, beq_iff_eq, ne_eq, reduceCtorEq,
          not_false_eq_true, true_and, Option.some.injEq, Extent.finite.injEq]
        exact eq_comm
      | infinite | nan => simp [same, extent, Double.eqInt, Double.scaled?, hc]
  | real x =>
    cases n with
    | whole j => cases x <;> simp [same, extent, Double.eqInt, Double.scaled?, hc]
    | real y =>
      cases x with
      | finite n₁ m₁ e₁ h₁ =>
        cases y with
        | finite n₂ m₂ e₂ h₂ =>
          rw [same, Double.eq_finite_iff]
          simp [extent, Double.scaled?]
        | infinite | nan => simp [same, extent, Double.eq]
      | infinite | nan => cases y <;> simp [same, extent, Double.eq]

end Numeric

mutual

/-- The identity of a key. -/
def identity : Value → Identity
  | .null => .null
  | .bool b => .number (Numeric.whole (if b then 1 else 0)).extent
  | .int i => .number (Numeric.whole i).extent
  | .float x => .number (Numeric.real x).extent
  | .str s => .text s
  | .date d => .date d
  | .datetime t => .moment t.offset.isSome t.instant
  | .bytes bs => .bytes bs
  | .tuple xs => .tuple (identities xs)
  | .list _ | .map _ | .set _ | .marked .. | .again .. => .other

def identities : List Value → List Identity
  | [] => []
  | x :: xs => identity x :: identities xs

end

theorem proper_number (e : Extent) : (Identity.number e).proper = true ↔ e ≠ .nowhere := by
  cases e <;> simp [Identity.proper]

mutual

/-- **The same by identity.** A key that is the same as anything is the same as all that has its
identity. -/
theorem same_iff : ∀ {a b : Value}, a.isKey = true →
    (a.same b = true ↔ a.identity.proper = true ∧ a.identity = b.identity)
  | .bool _, b, _ | .int _, b, _ | .float _, b, _ => by
    cases b <;> simp [same, sameNumber, numeric?, identity, Numeric.same_iff, proper_number]
  | .null, b, _ | .str _, b, _ | .date _, b, _ | .datetime _, b, _ | .bytes _, b, _ => by
    cases b <;> simp [same, identity, DateTime.same, Identity.proper]
  | .tuple xs, b, h => by
    rw [isKey] at h
    cases b with
    | tuple ys => rw [same, sameAll_iff h, identity, identity, Identity.proper, Identity.tuple.injEq]
    | _ => simp [same, identity]
  | .list _, _, h | .map _, _, h | .set _, _, h | .marked .., _, h | .again .., _, h => by
    simp [isKey] at h

theorem sameAll_iff : ∀ {xs ys : List Value}, isKey.go xs = true →
    (sameAll xs ys = true ↔
      Identity.properAll (identities xs) = true ∧ identities xs = identities ys)
  | [], ys, _ => by cases ys <;> simp [sameAll, identities, Identity.properAll]
  | x :: xs, ys, h => by
    rw [isKey.go, Bool.and_eq_true] at h
    cases ys with
    | nil => simp [sameAll, identities]
    | cons y ys =>
      rw [sameAll, Bool.and_eq_true, same_iff h.1, sameAll_iff h.2, identities, identities,
        Identity.properAll, Bool.and_eq_true, List.cons.injEq]
      exact and_and_and_comm

end

/-- Two keys that are the same are the same as the same values. -/
theorem same_congr {a b : Value} (ha : a.isKey = true) (hb : b.isKey = true)
    (h : a.same b = true) (c : Value) : a.same c = b.same c := by
  obtain ⟨hproper, hid⟩ := (same_iff ha).mp h
  rw [Bool.eq_iff_iff, same_iff ha, same_iff hb, hid]

/-- The same keys are the same as each of two values that are the same. -/
theorem same_congr_right {a b : Value} (ha : a.isKey = true) (h : a.same b = true) {c : Value}
    (hc : c.isKey = true) : c.same a = c.same b := by
  rw [Bool.eq_iff_iff, same_iff hc, same_iff hc, ((same_iff ha).mp h).2]

/-- Keys that are the same as one value are the same. -/
theorem same_of_same {a b c : Value} (ha : a.isKey = true) (hb : b.isKey = true)
    (hac : a.same c = true) (hbc : b.same c = true) : a.same b = true := by
  rw [same_iff ha] at hac ⊢
  exact ⟨hac.1, hac.2.trans ((same_iff hb).mp hbc).2.symm⟩

end Value

end SecurityScan
