import SecurityScan.Text.Printable
import SecurityScan.Text.Surrogate

/-!
# Quoted text

A text between quotes: single quotes, or double ones when it holds a single quote and no double
one. What is not printable is written by its code.
-/

namespace SecurityScan.Text.Quoted

def quoteFor (cs : List Char) : Char :=
  if cs.contains '\'' && !cs.contains '"' then '"' else '\''

def escapeCode (c : Char) : List Char :=
  let n := codeOf c
  if n ≤ 0xFF then '\\' :: 'x' :: hexDigits 2 n
  else if n ≤ 0xFFFF then '\\' :: 'u' :: hexDigits 4 n
  else '\\' :: 'U' :: hexDigits 8 n

def escapeChar (quote c : Char) : List Char :=
  if c == quote || c == '\\' then ['\\', c]
  else if c == '\n' then ['\\', 'n']
  else if c == '\r' then ['\\', 'r']
  else if c == '\t' then ['\\', 't']
  else if isPrintable c then [c]
  else escapeCode c

def encode (cs : List Char) : List Char :=
  let q := quoteFor cs
  q :: cs.flatMap (escapeChar q) ++ [q]

end SecurityScan.Text.Quoted

namespace SecurityScan.Text

/-- `s` between quotes. -/
def quoted (s : String) : String := String.ofList (Quoted.encode s.toList)

end SecurityScan.Text
