import SecurityScan.Html.Entity
import SecurityScan.Html.Escape
import SecurityScan.Text.Search

/-!
# Markup taken away

Text without comments and tags, its blanks drawn together and its entities replaced by what they
stand for.
-/

namespace SecurityScan.Html

open Text (isBlank hexValue? isDigit)

/-! ## Entities -/

/-- A character that the name of an entity may have. -/
def isEntityChar (c : Char) : Bool :=
  !(['\t', '\n', '\x0c', ' ', '<', '&', '#', ';'].contains c)

/-- A semicolon at the start, and what follows it. -/
def semicolon : List Char → List Char × List Char
  | ';' :: cs => ([';'], cs)
  | cs => ([], cs)

/-- The longest start of `name` that is an entity with `tail` after it, of at most `length`
characters. -/
def longestEntity (name : List Char) : Nat → Option (List Char)
  | 0 => none
  | length + 1 =>
    if length + 1 < 2 then none
    else
      match Entity.find? (name.take (length + 1)) with
      | some cs => some (cs ++ name.drop (length + 1))
      | none => longestEntity name length

/-- What an ampersand and what follows it stand for, and the rest; none where they are no entity. -/
def entity? (cs : List Char) : Option (List Char × List Char) :=
  let numbered (base : Nat) (ds rest : List Char) : Option (List Char × List Char) :=
    if ds.isEmpty then none
    else
      let n := ds.foldl (fun n d => base * n + (hexValue? d).getD 0) 0
      some (Entity.ofNumber n, (semicolon rest).2)
  match cs with
  | '#' :: x :: ds =>
    if x == 'x' || x == 'X' then
      let digits := ds.takeWhile fun d => (hexValue? d).isSome
      numbered 16 digits (ds.drop digits.length)
    else
      let digits := (x :: ds).takeWhile isDigit
      numbered 10 digits ((x :: ds).drop digits.length)
  | cs =>
    let name := (cs.take 32).takeWhile isEntityChar
    let (mark, rest) := semicolon (cs.drop name.length)
    let written := name ++ mark
    if name.isEmpty then none
    else
      match Entity.find? written with
      | some found => some (found, rest)
      | none =>
        match longestEntity written (written.length - 1) with
        | some found => some (found, rest)
        | none => some ('&' :: written, rest)

/-- A text with its entities replaced by what they stand for. -/
def unescaped : Nat → List Char → List Char
  | 0, cs => cs
  | _, [] => []
  | fuel + 1, '&' :: cs =>
    match entity? cs with
    | some (found, rest) => found ++ unescaped fuel rest
    | none => '&' :: unescaped fuel cs
  | fuel + 1, c :: cs => c :: unescaped fuel cs

def unescape (s : String) : String := String.ofList (unescaped (s.length + 1) s.toList)

/-! ## Tags -/

/-- What follows a comment that ends on the line where it begins. -/
def afterComment? (cs : List Char) : Option (List Char) :=
  if "<!--".toList.isPrefixOf cs then
    let rest := cs.drop 4
    let line := rest.takeWhile (· != '\n')
    (Text.findIn? "-->".toList line).map fun n => rest.drop (n + 3)
  else none

/-- What follows a comment or a tag. -/
def afterTag? (cs : List Char) : Option (List Char) :=
  (afterComment? cs).or <|
    match cs with
    | '<' :: rest =>
      let inside := rest.takeWhile (· != '>')
      if inside.length < rest.length then some (rest.drop (inside.length + 1)) else none
    | _ => none

/-- A text without its comments and tags. -/
def withoutTags : Nat → List Char → List Char
  | 0, cs => cs
  | _, [] => []
  | fuel + 1, c :: cs =>
    match afterTag? (c :: cs) with
    | some rest => withoutTags fuel rest
    | none => c :: withoutTags fuel cs

/-- The words of a text with one space between them. -/
def drawnTogether (cs : List Char) : List Char := " ".toList.intercalate (Text.words none cs)

/-- The text that is left of a page when its markup is taken away. -/
def strip (s : String) : String :=
  let bare := withoutTags (s.length + 1) s.toList
  unescape (String.ofList (drawnTogether bare))

end SecurityScan.Html
