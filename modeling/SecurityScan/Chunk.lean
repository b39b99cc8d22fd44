import SecurityScan.Fault
import SecurityScan.Value.Display

/-!
# Chunks

A text cut into pieces of whole lines. A piece takes lines while it stays within the limit; a line
that is longer than the limit is a piece of its own.
-/

namespace SecurityScan

/-- One piece of a text: the `index`-th of `total`, counted from one. -/
structure Chunk where
  content : String
  index : Nat
  total : Nat
  label : Option String
deriving DecidableEq

namespace Chunk

/-- The lines of a text, each with its newline; the last one may have none. -/
def linesOf : List Char → List (List Char)
  | [] => []
  | c :: cs =>
    if c = '\n' then ['\n'] :: linesOf cs
    else
      match linesOf cs with
      | [] => [[c]]
      | l :: ls => (c :: l) :: ls

/-- The open piece as a list of pieces; an empty one is none. -/
def closed (piece : List Char) : List (List Char) := if piece.isEmpty then [] else [piece]

/-- Lines packed after the open piece `piece`, of which `size` is the length. -/
def pack (limit : Nat) (piece : List Char) (size : Nat) : List (List Char) → List (List Char)
  | [] => closed piece
  | l :: ls =>
    let n := l.length
    if limit < size + n then closed piece ++ pack limit l n ls
    else pack limit (piece ++ l) (size + n) ls

/-- The pieces of a text. -/
def split (limit : Nat) (s : String) : List String :=
  (pack limit [] 0 (linesOf s.toList)).map String.ofList

/-- The limit that a setting gives: a whole number from one on. -/
def limitOf (v : Value) : Except Fault Nat :=
  let refused : Except Fault Nat :=
    .error (.badValue ("max_chunk_size must be a positive integer, got " ++ v.literal))
  match v with
  | .int i => if 1 ≤ i then .ok i.toNat else refused
  | _ => refused

/-- The label of piece `index` of `total`: none is added when there is only one. -/
def labelFor (index total : Int) (base : Option String) : Option String :=
  if total ≤ 1 then base
  else
    let part := "chunk " ++ toString index ++ "/" ++ toString total
    match base with
    | none => some part
    | some b => some (if b == "" then part else b ++ " (" ++ part ++ ")")

/-- The pieces with their numbers and labels. -/
def ofText (limit : Nat) (s : String) (base : Option String) : List Chunk :=
  let pieces := split limit s
  let total := pieces.length
  pieces.mapIdx fun i p => ⟨p, i + 1, total, labelFor (i + 1 : Nat) total base⟩

end Chunk

end SecurityScan
