import SecurityScan.Text.CharClass

/-!
# Lone surrogates

An escape by code can name half of a surrogate pair. A half that stands alone is no character, yet
a text may hold it until it is written as bytes. It is held as a character of the last private use
plane that stands `0x100000` above its code.
-/

namespace SecurityScan.Text

/-- Halves that come first in a pair. -/
def isHighHalf (n : Nat) : Bool := 0xD800 ≤ n && n < 0xDC00

/-- Halves that come last in a pair. -/
def isLowHalf (n : Nat) : Bool := 0xDC00 ≤ n && n < 0xE000

def isHalf (n : Nat) : Bool := isHighHalf n || isLowHalf n

/-- The code point of a pair. -/
def joinHalves (high low : Nat) : Nat := 0x10000 + (high - 0xD800) * 0x400 + (low - 0xDC00)

/-- How far above its code a half is held. -/
def halfShift : Nat := 0x100000

/-- The character that a code point stands for, half of a pair among them. -/
def charOfCode (n : Nat) : Char := if isHalf n then Char.ofNat (n + halfShift) else Char.ofNat n

/-- Whether a character holds half of a pair. -/
def isLoneHalf (c : Char) : Bool := halfShift ≤ c.toNat && isHalf (c.toNat - halfShift)

/-- The code point of a character, the half that it holds among them. -/
def codeOf (c : Char) : Nat := if isLoneHalf c then c.toNat - halfShift else c.toNat

/-- Whether a text has no form as bytes. -/
def hasLoneHalf (s : String) : Bool := s.toList.any isLoneHalf

theorem isHalf_iff {n : Nat} : isHalf n = true ↔ 0xD800 ≤ n ∧ n < 0xE000 := by
  simp only [isHalf, isHighHalf, isLowHalf, Bool.or_eq_true, Bool.and_eq_true, decide_eq_true_eq]
  omega

/-- A half keeps its code. -/
theorem codeOf_charOfCode {n : Nat} (h : isHalf n = true) : codeOf (charOfCode n) = n := by
  have hn := isHalf_iff.1 h
  have valid : (n + halfShift).isValidChar := Or.inr (by simp only [halfShift]; omega)
  have held : (Char.ofNat (n + halfShift)).toNat = n + halfShift := by
    rw [Char.ofNat, dif_pos valid]
    rfl
  simp [codeOf, charOfCode, isLoneHalf, h, held]

end SecurityScan.Text
