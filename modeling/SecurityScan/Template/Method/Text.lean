import SecurityScan.Html.Strip
import SecurityScan.Template.Layout
import SecurityScan.Text.Encoding
import SecurityScan.Text.Fold

/-!
# Operations of texts

What a text can be asked to do. Markup escapes the texts that it is given, and what it comes to is
markup again.
-/

namespace SecurityScan.Template.Method

open Render

/-- Operations of markup that escape what they are given and come to markup. -/
def escaping : List String :=
  ["capitalize", "title", "lower", "upper", "replace", "ljust", "rjust", "lstrip", "rstrip",
    "center", "strip", "translate", "expandtabs", "swapcase", "zfill"]

/-- The text that an argument has to be. -/
def needText (i : Item) : Render (List Char) :=
  match i.text? with
  | some s => pure s.toList
  | none => wrongKind "a str is required"

/-- A whole number that has room in 32 bits. -/
def smallWhole (i : Item) : Render Int := do
  let n ← i.whole
  if n < -2 ^ 31 || 2 ^ 31 ≤ n then throw (.overflow "Python int too large to convert to C int")
  return n

def ofChars (cs : List Char) : Item := .text (String.ofList cs)

def texts (pieces : List (List Char)) : Render Item := newList (pieces.map ofChars)

/-- Where a search may begin and where it has to end, in a text of a length. -/
def bounds (length : Nat) (start stop : Option Item) : Render (Int × Int) := do
  let place (i : Int) : Int := if i < 0 then max 0 (i + length) else i
  let start := (← Item.bound? start).getD 0
  let stop := (← Item.bound? stop).getD length
  return (place start, min length (place stop))

/-- The part of a text that is searched, and where it begins; none where there is no such part. -/
def searched (cs : List Char) (start stop : Option Item) : Render (Option (Nat × List Char)) := do
  let (a, b) ← bounds cs.length start stop
  return if b < a then none else some (a.toNat, (cs.drop a.toNat).take (b - a).toNat)

/-- The place of a piece, as a text is searched from the front or from the back. -/
def placeOf (back : Bool) (cs : List Char) (given : List Item) : Render (Option Nat) := do
  let piece ← needText (given.headD .undefined)
  let found ← searched cs given[1]? given[2]?
  return found.bind fun (a, part) =>
    (if back then Text.findLastIn? piece part else Text.findIn? piece part).map (a + ·)

/-- Whether a text begins or ends with a piece, or with one of several. -/
def hasEnd (atStart : Bool) (cs : List Char) (given : List Item) : Render Bool := do
  let first := given.headD .undefined
  let pieces ← match first.tuple? with
    | some items => items.mapM needText
    | none => do pure [← needText first]
  match ← searched cs given[1]? given[2]? with
  | none => return false
  | some (_, part) =>
    return pieces.any fun piece =>
      if atStart then piece.isPrefixOf part else piece.isSuffixOf part

/-- What is taken off at the ends of a text. -/
def trimmed (given : List Item) : Render (Char → Bool) := do
  match given with
  | [] | [.null] => return Text.isBlank
  | i :: _ =>
    let chars ← needText i
    return fun c => chars.contains c

/-- A width that a text can have. -/
def widthOf (i : Item) : Render Nat := do
  let n ← i.indexWhole
  if 1000000000 < n then throw .outOfMemory
  return n.toNat

/-- A limit on how often something is done; none for a negative one. -/
def limit (i : Option Item) : Render (Option Nat) := do
  match i with
  | none => return none
  | some i =>
    let n ← i.indexWhole
    return if n < 0 then none else some n.toNat

/-- A width, and the one character that fills it. -/
def padding (given : List Item) : Render (Nat × Char) := do
  let width ← widthOf (given.headD .undefined)
  match given[1]? with
  | none => return (width, ' ')
  | some i =>
    match ← needText i with
    | [c] => return (width, c)
    | _ => wrongKind "The fill character must be exactly one character long"

/-- The pieces of a text between separators, or its words. -/
def split (back : Bool) (cs : List Char) (b : Bound) : Render (List (List Char)) := do
  let left ← limit (b.get? "maxsplit")
  match b.getD "sep" .null with
  | .null => return if back then Text.fromBack (Text.words left) cs else Text.words left cs
  | sep =>
    let sep ← needText sep
    if sep.isEmpty then throw (.badValue "empty separator")
    return if back then Text.fromBack (Text.piecesBetween sep.reverse left) cs
      else Text.piecesBetween sep left cs

/-- Texts put together with a text between them. -/
def joined (between : String) (i : Item) : Render String := do
  let parts ← (← i.members).mapM fun i =>
    match i.text? with
    | some s => pure s
    | none => wrongKind "sequence item: expected str instance"
  return between.intercalate parts

/-- The encoding and the policy that a call asks for. -/
def encodingOf (b : Bound) : Render (Text.Encoding × Option Text.Leniency) := do
  let name ← needText (b.getD "encoding" (.text "utf-8"))
  let errors ← needText (b.getD "errors" (.text "strict"))
  match Text.Encoding.ofName? (String.ofList name) with
  | some e => return (e, Text.Leniency.ofName? (String.ofList errors))
  | none => problem .unknownEncoding

/-- The fault that ends writing or reading bytes; `refusal` is the one that a policy asks for. -/
def encodingFault {α : Type} (refusal : Fault) : Text.EncodingProblem → Render α
  | .noCounterpart => throw refusal
  | .unknownLeniency => problem .unknownEncoding
  | .forCharactersOnly => wrongKind "don't know how to handle UnicodeDecodeError"

/-- The bytes of a text in an encoding. -/
def encoded (s : String) (b : Bound) : Render Item := do
  let (e, how) ← encodingOf b
  match e.encode how s with
  | .ok bs => return Item.ofBytes bs
  | .error p => encodingFault .unencodable p

/-- A text with its characters replaced by what a table has under their codes. -/
def translated (cs : List Char) (table : Item) : Render (List Char) := do
  let parts ← cs.mapM fun c => do
    match ← table.subscript? (.int (Text.codeOf c)) with
    | none => return [c]
    | some .null => return []
    | some i =>
      match i.text?, i.whole? with
      | some s, _ => return s.toList
      | _, some n => return [Text.charOfCode n.toNat]
      | _, _ => wrongKind "character mapping must return integer, None or str"
  return parts.flatten

/-- A table of characters and what replaces them. -/
def tableOf (given : List Item) : Render Item := do
  let code (c : Char) : Item := .int (Text.codeOf c)
  match given with
  | [i] =>
    match ← i.entries? with
    | none => wrongKind "if you give only one argument to maketrans it must be a dict"
    | some entries =>
      newMap (← entries.mapM fun (k, v) => do
        match k.text?.map String.toList with
        | some [c] => return (code c, v)
        | some _ =>
          throw (.badValue "string keys in translate table must be of length 1")
        | none => return (k, v))
  | _ =>
    let olds ← needText (given.headD .undefined)
    let news ← needText (given[1]?.getD .undefined)
    if olds.length != news.length then
      throw (.badValue "the first two maketrans arguments must have equal length")
    let gone ← match given[2]? with
      | some i => needText i
      | none => pure []
    let entries := (olds.zip news).map (fun (a, b) => (code a, code b)) ++
      gone.map fun c => (code c, Item.null)
    newMap (← Item.insertedAll [] entries)

/-- Questions about the characters of a text. -/
def question? : String → Option (List Char → Bool)
  | "isalnum" => some (Text.isAll Text.isAlphanumeric)
  | "isalpha" => some (Text.isAll Text.isLetter)
  | "isascii" => some fun cs => cs.all fun c => c.toNat < 0x80
  | "isdecimal" => some (Text.isAll fun c => (Text.digitValue? c).isSome)
  | "isdigit" => some (Text.isAll Text.isAnyDigit)
  | "isidentifier" => some Text.isName
  | "islower" => some Text.isLowerCase
  | "isnumeric" => some (Text.isAll Text.isNumeric)
  | "isprintable" => some fun cs => cs.all Text.isPrintable
  | "isspace" => some (Text.isAll Text.isBlank)
  | "istitle" => some (Text.isTitleCase false false)
  | "isupper" => some Text.isUpperCase
  | _ => none

/-- Changes of the case of a text. -/
def caseChange? : String → Option (String → String)
  | "capitalize" => some Text.capitalize
  | "casefold" => some Text.fold
  | "lower" => some Text.lower
  | "upper" => some Text.upper
  | "swapcase" => some fun s => String.ofList (Text.swapCase [] s.toList)
  | "title" => some fun s => String.ofList (Text.titleCase [] s.toList)
  | _ => none

/-- What a text that is no markup comes to when it is asked for an operation. -/
def ofText (s : String) (name : String) (g : Given) : Render Item := do
  let cs := s.toList
  let three (back : Bool) : Render (Option Nat) := do placeOf back cs (← g.inOrder 1 3)
  match question? name, caseChange? name with
  | some f, _ =>
    let _ ← g.inOrder 0 0
    return .bool (f cs)
  | _, some f =>
    let _ ← g.inOrder 0 0
    return .text (f s)
  | none, none =>
    match name with
    | "center" =>
      let (width, fill) ← padding (← g.inOrder 1 2)
      return ofChars (Text.centered width fill cs)
    | "ljust" =>
      let (width, fill) ← padding (← g.inOrder 1 2)
      return ofChars (Text.paddedRight width fill cs)
    | "rjust" =>
      let (width, fill) ← padding (← g.inOrder 1 2)
      return ofChars (Text.paddedLeft width fill cs)
    | "zfill" =>
      return ofChars (Text.zeroFilled (← widthOf ((← g.inOrder 1 1).headD .undefined)) cs)
    | "count" =>
      let given ← g.inOrder 1 3
      let piece ← needText (given.headD .undefined)
      let part ← searched cs given[1]? given[2]?
      return .int ((part.map fun (_, part) => (Text.countIn piece part : Int)).getD 0)
    | "find" => return .int (((← three false).map Int.ofNat).getD (-1))
    | "rfind" => return .int (((← three true).map Int.ofNat).getD (-1))
    | "index" | "rindex" =>
      match ← three (name == "rindex") with
      | some n => return .int n
      | none => throw (.badValue "substring not found")
    | "startswith" => return .bool (← hasEnd true cs (← g.inOrder 1 3))
    | "endswith" => return .bool (← hasEnd false cs (← g.inOrder 1 3))
    | "strip" => return ofChars (Text.trimBy (← trimmed (← g.inOrder 0 1)) cs)
    | "lstrip" => return ofChars (Text.trimLeftBy (← trimmed (← g.inOrder 0 1)) cs)
    | "rstrip" => return ofChars (Text.trimRightBy (← trimmed (← g.inOrder 0 1)) cs)
    | "removeprefix" =>
      let piece ← needText ((← g.inOrder 1 1).headD .undefined)
      return ofChars (if piece.isPrefixOf cs then cs.drop piece.length else cs)
    | "removesuffix" =>
      let piece ← needText ((← g.inOrder 1 1).headD .undefined)
      return ofChars (if piece.isSuffixOf cs then cs.take (cs.length - piece.length) else cs)
    | "replace" =>
      let given ← g.inOrder 2 3
      let old ← needText (given.headD .undefined)
      let new ← needText (given[1]?.getD .undefined)
      return ofChars (Text.replaceIn old new 0 (← limit given[2]?) cs)
    | "expandtabs" =>
      let b ← g.bind [] ["tabsize"]
      let width := (← smallWhole (b.getD "tabsize" (.int 8))).toNat
      if 1000000000 < width * cs.count '\t' then throw .outOfMemory
      return ofChars (Text.tabsExpanded width 0 cs)
    | "split" => texts (← split false cs (← g.bind [] ["sep", "maxsplit"]))
    | "rsplit" => texts (← split true cs (← g.bind [] ["sep", "maxsplit"]))
    | "splitlines" =>
      let b ← g.bind [] ["keepends"]
      let keeps ← smallWhole (b.getD "keepends" (.bool false))
      texts (if keeps != 0 then Text.fullLines cs else Text.linesFrom [] cs)
    | "partition" | "rpartition" =>
      let sep ← needText ((← g.inOrder 1 1).headD .undefined)
      if sep.isEmpty then throw (.badValue "empty separator")
      let (a, b, c) :=
        if name == "partition" then Text.partsAround sep cs else Text.partsAroundLast sep cs
      return .tuple [ofChars a, ofChars b, ofChars c]
    | "join" => return .text (← joined s ((← g.inOrder 1 1).headD .undefined))
    | "encode" => encoded s (← g.bind [] ["encoding", "errors"])
    | "translate" => return ofChars (← translated cs ((← g.inOrder 1 1).headD .undefined))
    | "maketrans" => tableOf (← g.inOrder 1 3)
    | "format" =>
      (Item.text s).formattedWith (some g.positional) fun key =>
        match g.named.lookup key with
        | some i => pure i
        | none => problem .missingKey
    | "format_map" =>
      let map := (← g.inOrder 1 1).headD .undefined
      (Item.text s).formattedWith none fun key => do
        match ← map.subscript? (.text key) with
        | some i => return i
        | none =>
          if (← map.entries?).isSome then problem .missingKey
          else wrongKind "the item has no names"
    | _ => problem .unsupported

/-- An argument as markup is given it. -/
def escapedArgument (i : Item) : Render Item := do
  match i with
  | .text s => return .markup (Html.escape s)
  | i => return i

/-- What markup comes to when it is asked for an operation. -/
def ofMarkup (s : String) (name : String) (g : Given) : Render Item := do
  let plain := ofText s name g
  let marked (i : Item) : Render Item := do
    match i with
    | .text s => return .markup s
    | .tuple items => return .tuple (items.map fun i => .markup ((i.text?).getD ""))
    | .cell _ => newList ((← i.members).map fun i => .markup ((i.text?).getD ""))
    | i => return i
  if escaping.contains name then
    let g' : Given := ⟨← g.positional.mapM escapedArgument,
      ← g.named.mapM fun (k, i) => do return (k, ← escapedArgument i)⟩
    marked (← ofText s name g')
  else
    match name with
    | "split" | "rsplit" | "splitlines" => marked (← plain)
    | "partition" | "rpartition" =>
      let sep := (← g.inOrder 1 1).headD .undefined
      marked (← ofText s name ⟨[.markup (← sep.escaped)], []⟩)
    | "join" =>
      let parts ← (← ((← g.inOrder 1 1).headD .undefined).members).mapM Item.escaped
      return .markup (s.intercalate parts)
    | "format" =>
      (Item.markup s).formattedWith (some g.positional) fun key =>
        match g.named.lookup key with
        | some i => pure i
        | none => problem .missingKey
    | "unescape" =>
      let _ ← g.inOrder 0 0
      return .text (Html.unescape s)
    | "striptags" =>
      let _ ← g.inOrder 0 0
      return .text (Html.strip s)
    | "escape" => return .markup (← ((← g.inOrder 1 1).headD .undefined).escaped)
    | "__html__" =>
      let _ ← g.inOrder 0 0
      return .markup s
    | _ => plain

end SecurityScan.Template.Method
