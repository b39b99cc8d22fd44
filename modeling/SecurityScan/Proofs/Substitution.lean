import Mathlib.Data.List.TakeWhile
import SecurityScan.Proofs.Entries
import SecurityScan.Proofs.Placeholder
import SecurityScan.Proofs.Prompt

/-!
# Plain substitution

A template of text, doubled braces and bare names in braces is filled in part by part: the text
stays, a doubled brace becomes one, a name that has a value gives way to it as it is, and any other
stays in its braces. The values are put in and not read.
-/

namespace SecurityScan

namespace Prompt

open Text (digitValue?)

/-- A name that is no number and has no character of other use in a field. -/
def IsBare (cs : List Char) : Prop :=
  (∀ c ∈ cs, c ∉ ['.', '[', '!', ':', '\x7b', '\x7d']) ∧ ∃ c ∈ cs, digitValue? c = none

instance (cs : List Char) : Decidable (IsBare cs) :=
  @instDecidableAnd _ _ (List.decidableBAll _ cs) (List.decidableBEx _ cs)

structure BareName where
  cs : List Char
  isBare : IsBare cs

/-- A part of a plain template. -/
inductive Part
  | text (cs : List Char) (plain : Braceless cs)
  | opening
  | closing
  | named (name : BareName)

namespace Part

def written : Part → List Char
  | .text cs _ => cs
  | .opening => ['\x7b', '\x7b']
  | .closing => ['\x7d', '\x7d']
  | .named name => '\x7b' :: (name.cs ++ ['\x7d'])

def meaning (values : List (String × String)) : Part → List Char
  | .text cs _ => cs
  | .opening => ['\x7b']
  | .closing => ['\x7d']
  | .named name =>
    match values.lookup (String.ofList name.cs) with
    | some value => value.toList
    | none => '\x7b' :: (name.cs ++ ['\x7d'])

end Part

/-! ## Bare names -/

namespace BareName

variable (name : BareName)

def placeholder : Placeholder := ⟨name.cs, [], none, [], false⟩

end BareName

/-! ## Filling -/

section
variable {values : List (String × String)} {depth : Nat} {rest out : List Char}

end

end Prompt

namespace Prompts

open Prompt (Part)
open Entries (field?_cons_str)

section
variable {p : Prompts} {q : Question} {risks : List String} {schema : String}

end

/-! ## The usual template -/

def bare (name : String) (h : Prompt.IsBare name.toList) : Part := .named ⟨name.toList, h⟩

def literal (text : String) (h : Prompt.Braceless text.toList) : Part :=
  .text text.toList h

end Prompts

end SecurityScan
