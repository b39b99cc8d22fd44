import Mathlib.Data.List.TakeWhile
import SecurityScan.Proofs.Attempt
import SecurityScan.Yaml.Token

/-!
# What the tokens of a YAML text can be

A cursor stays in its text. So a tag is found only where an exclamation mark stands, and the text is
left with a fault only at a number with digits of its own: one of a character that there is not, or
a version with more digits than are read. A plain scalar does not end in a line break.
-/

namespace SecurityScan.Yaml

open Text (isDigit)

/-- A number in a text that has no meaning, with the fault that reports it. -/
inductive BadNumber (cs : List Char) : Fault → Prop
  /-- An escape gives the code of no character. -/
  | escape {letter : Char} {digits : List Char} {n : Nat} {f : Fault}
      (h : '\\' :: letter :: digits <:+: cs) (hn : hexNumber? digits = some n)
      (hf : codeChar n = .error (.fault f)) : BadNumber cs f
  /-- A number of a version is too long. -/
  | version {digits : List Char} (h : digits <:+: cs) (hdigits : ∀ c ∈ digits, isDigit c = true)
      (hlong : Number.maxDigits < digits.length) : BadNumber cs (.tooManyDigits digits.length)

/-- A fault is that of a number in the text. -/
def Bad (cs : List Char) (e : Stop) : Prop := ∀ f, e = .fault f → BadNumber cs f

namespace Cursor

/-- What is left for the cursor is the end of the text. -/
def Within (cs : List Char) (c : Cursor) : Prop := c.rest <:+ cs

@[simp] theorem rest_next (c : Cursor) : c.next.rest = c.rest.tail := by
  rw [Cursor.next]
  split
  · rename_i h
    rw [h]
    rfl
  · rename_i h
    rw [h]
    split <;> rfl

section
variable {cs : List Char} {c : Cursor} (h : c.Within cs)
include h

theorem Within.next : c.next.Within cs := by
  rw [Within, rest_next]
  exact (List.tail_suffix _).trans h

theorem Within.forward (n : Nat) : (c.forward n).Within cs := by
  induction n generalizing c with
  | zero => exact h
  | succ n ih => exact ih h.next

theorem Within.takeWhile (p : Char → Bool) : (c.takeWhile p).2.Within cs := h.forward _

theorem Within.skipWhile (p : Char → Bool) : (c.skipWhile p).Within cs := h.takeWhile p

theorem Within.skipSpaces : c.skipSpaces.Within cs := h.skipWhile _

theorem Within.skipLine : c.skipLine.Within cs := h.skipWhile _

theorem Within.lineBreak : c.lineBreak.2.Within cs := by
  simp only [Cursor.lineBreak]
  split
  · exact h.forward 2
  · split
    · exact h.next
    · split
      · exact h.next
      · exact h

end

end Cursor

open Cursor (Within)

/-- A step gives what `P` says of and is stopped by a fault only at a number of the text. -/
structure Safe {α : Type} (cs : List Char) (P : α → Prop) (x : Except Stop α) : Prop where
  gives : Gives P x
  stops : Stops (Bad cs) x

/-- A part of the scanner, which stays in the text. -/
abbrev Scans {α : Type} (cs : List Char) (x : Except Stop (α × Cursor)) : Prop :=
  Safe cs (fun p => p.2.Within cs) x

section
variable {α β : Type} {cs : List Char} {c : Cursor} {P : α → Prop} {Q : β → Prop}

theorem Safe.bind {x : Except Stop α} {f : α → Except Stop β} (hx : Safe cs P x)
    (hf : ∀ a, P a → Safe cs Q (f a)) : Safe cs Q (x >>= f) where
  gives := hx.gives.bind fun a ha => (hf a ha).gives
  stops := hx.stops.bind fun a ha => (hf a (hx.gives a ha)).stops

theorem Scans.bind {x : Except Stop (α × Cursor)} {f : α × Cursor → Except Stop β} (hx : Scans cs x)
    (hf : ∀ a c, c.Within cs → Safe cs Q (f (a, c))) : Safe cs Q (x >>= f) :=
  Safe.bind hx fun p hp => hf p.1 p.2 hp

end

/-! ## Tokens -/

/-- Whether a token can come from a text. -/
def Token.Fits (cs : List Char) : Token → Prop
  | .tag _ => '!' ∈ cs
  | .scalar true text => ∀ ch ∈ text.toList.getLast?, isBlankOrEnd ch = false
  | .stop s => Bad cs s
  | _ => True

namespace Scan

/-- The cursor is in the text, and the tokens are some that it can have. -/
structure Sound (cs : List Char) (s : Scan) : Prop where
  cursor : s.cursor.Within cs
  tokens : ∀ t ∈ s.tokens, t.Fits cs

section
variable {cs : List Char} {s : Scan} (h : s.Sound cs)
include h

theorem Sound.push {t : Token} (ht : t.Fits cs) : (s.push t).Sound cs :=
  ⟨h.cursor, List.forall_mem_cons.mpr ⟨ht, h.tokens⟩⟩

theorem Sound.insertAt {t : Token} (ht : t.Fits cs) (n : Nat) : (s.insertAt n t).Sound cs := by
  refine ⟨h.cursor, fun u hu => ?_⟩
  rcases List.mem_append.mp hu with hu | hu
  · exact h.tokens u (List.mem_of_mem_take hu)
  · rcases List.mem_cons.mp hu with rfl | hu
    · exact ht
    · exact h.tokens u (List.mem_of_mem_drop hu)

theorem Sound.openAt {t : Token} (ht : t.Fits cs) (column place : Nat) :
    (s.openAt column t place).Sound cs := by
  rw [Scan.openAt]
  split
  · exact ⟨(h.insertAt ht place).cursor, (h.insertAt ht place).tokens⟩
  · exact h

/-- A block that begins only outside of brackets. -/
theorem Sound.opened {t : Token} (ht : t.Fits cs) (column place : Nat) :
    (if s.flow = 0 then s.openAt column t place else s).Sound cs := by
  split
  · exact h.openAt ht column place
  · exact h

theorem Sound.closeTo (column : Int) : (s.closeTo column).Sound cs := by
  have hclose : ∀ (outer : List Int) (s : Scan), s.Sound cs →
      (closeBlocks column outer s).Sound cs := by
    intro outer
    induction outer with
    | nil => exact fun s h => h
    | cons i outer ih =>
      intro s h
      rw [closeBlocks]
      split
      · exact ih _ ⟨h.cursor, (h.push (t := .blockEnd) trivial).tokens⟩
      · exact h
  rw [Scan.closeTo]
  split
  · exact h
  · exact hclose s.outer s h

theorem Sound.toNext (fuel : Nat) : (toNext fuel s).Sound cs := by
  induction fuel generalizing s with
  | zero => exact h
  | succ fuel ih =>
    have hline : (if s.cursor.skipSpaces.peek == '#' then s.cursor.skipSpaces.skipLine
        else s.cursor.skipSpaces).Within cs := by
      split
      · exact h.cursor.skipSpaces.skipLine
      · exact h.cursor.skipSpaces
    have hbreak := hline.lineBreak
    unfold Scan.toNext
    dsimp only
    split
    all_goals
      rename_i heq
      rw [heq] at hbreak
    · exact ⟨hbreak, h.tokens⟩
    · exact ih ⟨hbreak, h.tokens⟩

end

end Scan

end SecurityScan.Yaml
