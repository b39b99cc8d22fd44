import SecurityScan.Html.Address
import SecurityScan.Html.Link
import SecurityScan.Html.Strip
import SecurityScan.Template.Filter.Basic
import SecurityScan.Text.Wrap

/-!
# Filters of text
-/

namespace SecurityScan.Template.Filter

open Render

/-! ## Words -/

/-- A capital letter at the start of each word; words end at blanks, hyphens and brackets. -/
def titled (cs : List Char) : List Char :=
  let isGap (c : Char) : Bool := Text.isBlank c || ['-', '(', '\x7b', '[', '<'].contains c
  let pieces := cs.splitBy fun a b => isGap a == isGap b
  pieces.flatMap fun
    | [] => []
    | c :: rest => Text.upperChar c ++ Text.lowerAfter [] rest

def wordCount (cs : List Char) : Nat :=
  (cs.splitBy fun a b => Text.isWordChar a == Text.isWordChar b).countP fun run =>
    run.head?.any Text.isWordChar

/-! ## Layout -/

/-- A text with `pad` in front of its lines. An empty line gets one only with `blank`, and the
first one only with `first`. -/
def indented (i width : Item) (first blank : Bool) : Render Item := do
  let pad ← if width.text?.isSome then pure width else Operator.mul.apply (.text " ") width
  let pad := if i.isMarkup then .markup ((pad.text?).getD "") else pad
  let newline := i.withText "\n"
  let text ← match i with
    | .cell place =>
      match ← cellAt place with
      | .list _ => throw (.noField "a list has no 'splitlines'")
      | _ => Item.refused
    | i => Operator.add.apply i newline
  let lines ← (← Method.apply text "splitlines" .none).members
  let joined (between : Item) (lines : List Item) : Render Item :=
    Method.apply between "join" ⟨[.tuple lines], []⟩
  let body ←
    if blank then joined (← Item.joined newline pad) lines
    else
      match lines with
      | [] => pure newline
      | [line] => pure line
      | line :: more => do
        let more ← more.mapM fun line =>
          if line.text? == some "" then pure line else Item.joined pad line
        Item.joined line (← Item.joined newline (← joined newline more))
  if first then Item.joined pad body else return body

/-- A text cut to a length, an ending included, between words if it may be. One that is too long
by no more than some leeway stays as it is. -/
def truncated (i : Item) (b : Bound) : Render Item := do
  let length := b.getD "length" (.int 255)
  let ending := b.getD "end" (.text "...")
  let leeway := (option? b "leeway").getD (.int 5)
  let taken : Item := .int (← ending.length)
  if !(← Item.ordered .ge length taken) then problem .failedCheck
  if !(← Item.ordered .ge leeway (.int 0)) then problem .failedCheck
  if ← Item.ordered .le (.int (← i.length)) (← Operator.add.apply length leeway) then return i
  let start ← i.slice none (some (← Operator.sub.apply length taken)) none
  if ← flag b "killwords" false then Operator.add.apply start ending
  else if start.text?.isNone then throw (.noField "the item has no 'rsplit'")
  else
    let parts ← Method.apply start "rsplit" ⟨[.text " ", .int 1], []⟩
    Operator.add.apply ((← parts.members).headD .undefined) ending

/-- A width that lines can have. -/
def lineWidth (i : Item) : Render Nat := do
  if ← Item.ordered .le i (.int 0) then
    throw (.badValue ("invalid width " ++ (← i.literal) ++ " (must be > 0)"))
  match i.whole? with
  | some n => return n.toNat
  | none => wrongKind "slice indices must be integers or None or have an __index__ method"

/-- A text in lines of a width, each line that it has by itself. -/
def wrapped (i : Item) (b : Bound) : Render Item := do
  if i.isUndefined then noValue
  match i.text? with
  | none => throw (.noField "the item has no 'splitlines'")
  | some s =>
    let between := (option? b "wrapstring").getD (.text "\n")
    let hyphens := b.getD "break_on_hyphens" (.bool true)
    let breaks ← flag b "break_long_words" true
    let atHyphens ← hyphens.holds
    let isAll := match hyphens with
      | .bool true => true
      | _ => false
    let joined (lines : List Item) : Render Item := do
      if between.text?.isNone then throw (.noField "the item has no 'join'")
      Method.apply between "join" ⟨[.tuple lines], []⟩
    let parts ← (Text.splitLines s).mapM fun line => do
      let width ← lineWidth (b.getD "width" (.int 79))
      let lines := Text.Wrap.lines ⟨width, breaks, atHyphens⟩ isAll line.toList
      joined (lines.map fun cs => .text (String.ofList cs))
    joined parts

/-! ## Addresses -/

/-- The bytes of an item in an address. -/
def addressBytes (i : Item) : Render Text.Utf8.Bytes := do
  match i with
  | .value (.bytes bs) => return bs
  | i =>
    let s ← i.display
    if Text.hasLoneHalf s then throw .unencodable
    return Text.Utf8.encode s

/-- The address form of a text, or the query that the pairs of a collection make. -/
def address (i : Item) : Render String := do
  let isIterable ← match i with
    | .undefined | .tuple _ | .group .. | .range .. | .value (.bytes _) => pure true
    | .cell place => do
      match ← cellAt place with
      | .list _ | .map _ | .set _ | .view .. | .iterator _ | .loop _ => pure true
      | _ => pure false
    | _ => pure false
  if isIterable then
    let pairs ← match ← i.entries? with
      | some entries => pure (entries.map fun (k, v) => Item.pair k v)
      | none => i.members
    let texts ← pairs.mapM fun p => do
      let (k, v) ← bothOf p
      return Html.Address.queryOfBytes (← addressBytes k) ++ "=" ++
        Html.Address.queryOfBytes (← addressBytes v)
    return "&".intercalate texts
  else return Html.Address.ofBytes ['/'] (← addressBytes i)

/-- What a page is to the one that links to it: what is asked for and what always is. -/
def relation (b : Bound) : Render String := do
  let rel := b.getD "rel" .null
  let asked ←
    if ← rel.holds then
      match rel.text? with
      | some s => pure ((Text.words none s.toList).map String.ofList)
      | none => throw (.noField "the item has no 'split'")
    else pure []
  let all := asked ++ (if ← flag b "nofollow" false then ["nofollow"] else []) ++ ["noopener"]
  return " ".intercalate (all.eraseDups.mergeSort fun s t => decide (s ≤ t))

/-- The starts that addresses of further kinds may have. -/
def schemes (b : Bound) : Render (List String) := do
  match option? b "extra_schemes" with
  | none => return []
  | some i =>
    let names ← (← i.members).mapM fun i => do
      match i.text? with
      | none => wrongKind "expected string or bytes-like object"
      | some s => if Html.Link.isScheme s then return s else problem .filterArgument
    return if (← i.count?).isSome then names else []

/-- A text in which addresses are links. -/
def withLinks (i : Item) (b : Bound) : Render Item := do
  let rel ← relation b
  let target ← match b.getD "target" .null with
    | i => do if ← i.holds then some <$> i.escaped else pure none
  let style : Html.Link.Style := ⟨some rel, target, ← schemes b⟩
  let cut (s : String) : Render String := do
    match option? b "trim_url_limit" with
    | none => return s
    | some limit =>
      if ← Item.ordered .gt (.int s.length) limit then
        return (← ((Item.text s).slice none (some limit) none).bind Item.display) ++ "..."
      else return s
  asMarkup (← Html.Link.ofText style cut (← i.escaped))

/-! ## All of them -/

/-- A text with pieces of it replaced. Where one of the three is markup, all are. -/
def replaced (i : Item) (b : Bound) : Render Item := do
  let old := b.getD "old" .undefined
  let new := b.getD "new" .undefined
  let count := (option? b "count").getD (.int (-1))
  if ← escapes then
    let text ← if old.isMarkup || (new.isMarkup && !i.isMarkup) then .markup <$> i.escaped
      else asText i
    Method.apply text "replace" ⟨[← asText old, ← asText new, count], []⟩
  else
    Method.apply (.text (← i.display)) "replace"
      ⟨[.text (← old.display), .text (← new.display), count], []⟩

/-- A text filled in with what is given in order or by name. -/
def formatted (i : Item) (g : Given) : Render Item := do
  if !g.positional.isEmpty && !g.named.isEmpty then problem .filterArgument
  let filling ← if g.named.isEmpty then pure (.tuple g.positional)
    else newMap (g.named.map fun (s, i) => (.text s, i))
  (← asText i).filledWith filling

/-- The filters of text, by name. -/
def ofText? (name : String) (i : Item) (g : Given) : Option (Render Item) :=
  let plain (f : String → String) : Option (Render Item) := some do
    let _ ← g.bind [] []
    return .text (f (← i.display))
  let operation (name : String) : Option (Render Item) := some do
    let _ ← g.bind [] []
    Method.apply (← asText i) name .none
  match name with
  | "upper" | "lower" | "capitalize" => operation name
  | "title" => plain fun s => String.ofList (titled s.toList)
  | "striptags" => plain Html.strip
  | "string" => some do
    let _ ← g.bind [] []
    asText i
  | "e" | "escape" => some do
    let _ ← g.bind [] []
    return .markup (← i.escaped)
  | "forceescape" => some do
    let _ ← g.bind [] []
    return .markup (Html.escape (← i.display))
  | "safe" => some do
    let _ ← g.bind [] []
    return .markup (← i.display)
  | "wordcount" => some do
    let _ ← g.bind [] []
    return .int (wordCount (← i.display).toList)
  | "trim" => some do
    let chars := (← g.bind [] ["chars"]).getD "chars" .null
    Method.apply (← asText i) "strip" ⟨[chars], []⟩
  | "center" => some do
    let width := (← g.bind [] ["width"]).getD "width" (.int 80)
    Method.apply (← asText i) "center" ⟨[width], []⟩
  | "indent" => some do
    let b ← g.bind [] ["width", "first", "blank"]
    indented i (b.getD "width" (.int 4)) (← flag b "first" false) (← flag b "blank" false)
  | "truncate" => some do
    truncated i (← g.bind [] ["length", "killwords", "end", "leeway"])
  | "wordwrap" => some do
    wrapped i (← g.bind [] ["width", "break_long_words", "wrapstring", "break_on_hyphens"])
  | "replace" => some do replaced i (← g.bind ["old", "new"] ["count"])
  | "format" => some (formatted i g)
  | "urlencode" => some do
    let _ ← g.bind [] []
    return .text (← address i)
  | "urlize" => some do
    withLinks i (← g.bind [] ["trim_url_limit", "nofollow", "target", "rel", "extra_schemes"])
  | _ => none

end SecurityScan.Template.Filter
