import SecurityScan.Text.CharClass

/-!
# UTF-8

Strict decoding. An error tells the bytes that cannot stand where they are: from the start of a
sequence to the last byte that could still belong to it.
-/

namespace SecurityScan.Text.Utf8

abbrev Bytes := List UInt8

inductive Reason
  | badStart
  | badContinuation
  | endsEarly
deriving DecidableEq

/-- `first` is the byte at `start`; the sequence is wrong from `start` to `stop`, `stop`
excluded. -/
structure Error where
  first : UInt8
  start : Nat
  stop : Nat
  reason : Reason
deriving DecidableEq

def Reason.text : Reason → String
  | .badStart => "invalid start byte"
  | .badContinuation => "invalid continuation byte"
  | .endsEarly => "unexpected end of data"

def Error.message (e : Error) : String :=
  if e.stop = e.start + 1 then
    "'utf-8' codec can't decode byte 0x" ++ String.ofList (hexDigits 2 e.first.toNat) ++
      " in position " ++ toString e.start ++ ": " ++ e.reason.text
  else
    "'utf-8' codec can't decode bytes in position " ++ toString e.start ++ "-" ++
      toString (e.stop - 1) ++ ": " ++ e.reason.text

/-- Continuation bytes are 80 to BF. -/
def isTail (b : UInt8) : Bool := 0x80 ≤ b && b ≤ 0xBF

/-- Whether `b` may follow the lead byte `a` of three or four bytes. -/
def isSecond (a b : UInt8) : Bool :=
  isTail b && !(a == 0xE0 && b < 0xA0) && !(a == 0xED && 0xA0 ≤ b) &&
    !(a == 0xF0 && b < 0x90) && !(a == 0xF4 && 0x90 ≤ b)

/-- How many bytes a sequence that starts with `b` has; none start with a tail or F5 to FF. -/
def sequenceLength (b : UInt8) : Option Nat :=
  if b < 0x80 then some 1
  else if b < 0xC2 then none
  else if b < 0xE0 then some 2
  else if b < 0xF0 then some 3
  else if b < 0xF5 then some 4
  else none

def low6 (b : UInt8) : Nat := b.toNat % 64

/-- Decodes bytes whose first stands at position `i`. -/
def decodeFrom (i : Nat) : Bytes → Except Error (List Char)
  | [] => .ok []
  | a :: rest =>
    let fail (n : Nat) (r : Reason) : Except Error (List Char) := .error ⟨a, i, i + n, r⟩
    match sequenceLength a, rest with
    | some 1, rest => do return Char.ofNat a.toNat :: (← decodeFrom (i + 1) rest)
    | some 2, b :: rest =>
      if isTail b then do
        return Char.ofNat (a.toNat % 32 * 64 + low6 b) :: (← decodeFrom (i + 2) rest)
      else fail 1 .badContinuation
    | some 3, [b] => if isSecond a b then fail 2 .endsEarly else fail 1 .badContinuation
    | some 3, b :: c :: rest =>
      if !isSecond a b then fail 1 .badContinuation
      else if !isTail c then fail 2 .badContinuation
      else do
        return Char.ofNat ((a.toNat % 16 * 64 + low6 b) * 64 + low6 c) ::
          (← decodeFrom (i + 3) rest)
    | some 4, [b] => if isSecond a b then fail 2 .endsEarly else fail 1 .badContinuation
    | some 4, [b, c] =>
      if !isSecond a b then fail 1 .badContinuation
      else if isTail c then fail 3 .endsEarly
      else fail 2 .badContinuation
    | some 4, b :: c :: d :: rest =>
      if !isSecond a b then fail 1 .badContinuation
      else if !isTail c then fail 2 .badContinuation
      else if !isTail d then fail 3 .badContinuation
      else do
        return Char.ofNat (((a.toNat % 8 * 64 + low6 b) * 64 + low6 c) * 64 + low6 d) ::
          (← decodeFrom (i + 4) rest)
    | none, _ => fail 1 .badStart
    | _, _ => fail 1 .endsEarly

def decode (bytes : Bytes) : Except Error String := do
  return String.ofList (← decodeFrom 0 bytes)

def encode (s : String) : Bytes := s.toList.flatMap String.utf8EncodeChar

end SecurityScan.Text.Utf8
