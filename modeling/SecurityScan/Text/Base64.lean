import SecurityScan.Text.Utf8

/-!
# Base 64

Octets written six bits a letter. A reader passes over characters that are no letters, and stops
at the padding that completes a group of four.
-/

namespace SecurityScan.Text.Base64

open Utf8 (Bytes)

/-- The six bits of a letter. -/
def sextet? (c : Char) : Option Nat :=
  if 'A' ≤ c && c ≤ 'Z' then some (c.toNat - 'A'.toNat)
  else if 'a' ≤ c && c ≤ 'z' then some (c.toNat - 'a'.toNat + 26)
  else if '0' ≤ c && c ≤ '9' then some (c.toNat - '0'.toNat + 52)
  else if c == '+' then some 62
  else if c == '/' then some 63
  else none

/--
Octets of the letters that are left: `place` letters of the current group are read, `bits` is what
no octet holds yet, and `pads` counts the padding in a row. None when a group stays incomplete.
-/
def octets (place bits pads : Nat) : List Char → Option Bytes
  | [] => if place = 0 then some [] else none
  | '=' :: cs =>
    if 2 ≤ place then
      if 4 ≤ place + pads + 1 then some [] else octets place bits (pads + 1) cs
    else octets place bits pads cs
  | c :: cs =>
    match sextet? c with
    | none => octets place bits pads cs
    | some n =>
      match place with
      | 0 => octets 1 n 0 cs
      | 1 => (octets 2 (n % 16) 0 cs).map ((bits * 4 + n / 16).toUInt8 :: ·)
      | 2 => (octets 3 (n % 4) 0 cs).map ((bits * 16 + n / 4).toUInt8 :: ·)
      | _ => (octets 0 0 0 cs).map ((bits * 64 + n).toUInt8 :: ·)

def decode (s : String) : Option Bytes := octets 0 0 0 s.toList

end SecurityScan.Text.Base64
