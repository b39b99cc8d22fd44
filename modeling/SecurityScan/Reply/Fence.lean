import SecurityScan.Text.CharClass

/-!
# Code fences

A reply may come between lines of three backticks, the first of which may name the language
`json`. What stands between them is the reply.
-/

namespace SecurityScan.Reply

open Text (trimBy isBlank)

def fence : List Char := "```".toList

def languageTag : List Char := "json".toList

/-- What follows `start`, where a text begins with it. -/
def afterStart? (start cs : List Char) : Option (List Char) :=
  if start.isPrefixOf cs then some (cs.drop start.length) else none

/-- What stands before `last`, where a text ends with it. -/
def beforeEnd? (last cs : List Char) : Option (List Char) :=
  if last.isSuffixOf cs then some (cs.take (cs.length - last.length)) else none

/-- What stands between the fences of a text without space around it. -/
def fenced? (cs : List Char) : Option (List Char) := do
  let rest ← afterStart? fence cs
  beforeEnd? fence ((afterStart? languageTag rest).getD rest)

/-- A text without a fence around it and without space at its ends. -/
def withoutFence (s : String) : String :=
  let cs := trimBy isBlank s.toList
  String.ofList (match fenced? cs with
    | some inner => trimBy isBlank inner
    | none => cs)

end SecurityScan.Reply
