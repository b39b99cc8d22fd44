import SecurityScan.Template.Filter.Basic
import SecurityScan.Template.Json
import SecurityScan.Template.Pretty

/-!
# Filters of collections

Filters that look at the members of an item. Some of them give what goes through the members only
when it is gone through itself.
-/

namespace SecurityScan.Template.Filter

open Render

/-! ## From the back -/

/-- The members of an item in the other order. -/
def reversed (i : Item) : Render Item := do
  match i.text? with
  | some s => return i.withText (String.ofList s.toList.reverse)
  | none =>
    match ← i.fromBack? with
    | some found => return found
    | none =>
      try newList (← i.members).reverse
      catch f =>
        match f with
        | .wrongKind _ => problem .filterArgument
        | f => throw f

/-- The next item of what goes through items, nothing at its end. -/
def nextOf (iterator : Nat) : Render Item := do return (← next iterator).getD .undefined

def firstOf (i : Item) : Render Item := do nextOf (← i.iterate)

def lastOf (i : Item) : Render Item := do
  match ← i.fromBack? with
  | some (.cell place) => nextOf place
  | _ => wrongKind "the item has no last member"

/-! ## Order -/

/-- The first item whose key no other key comes before, or after. -/
def extreme (greatest : Bool) (i : Item) (b : Bound) : Render Item := do
  let isCased ← flag b "case_sensitive" false
  match ← i.members with
  | [] => return .undefined
  | first :: more =>
    let steps ← stepsIn b
    let keyed (i : Item) : Render (Item × Item) := do return (← keyOf steps isCased i, i)
    let best ← more.foldlM (fun best i => do
      let x ← keyed i
      let isBetter ← Item.ordered (if greatest then .gt else .lt) x.1 best.1
      return if isBetter then x else best) (← keyed first)
    return best.2

/-- The paths that a text names with commas between them. -/
def pathsOf (path : Item) : Render (List (List Item)) := do
  match path.text? with
  | some s => (Text.splitOn ',' s).mapM fun part => Item.stepsOf (.text part)
  | none => return [← Item.stepsOf path]

/-- The items in the order of what they have at the end of some paths. -/
def sorted (i : Item) (b : Bound) : Render Item := do
  let isCased ← flag b "case_sensitive" false
  let paths ← pathsOf (b.getD "attribute" .null)
  let items ← i.members
  let back := (← (b.getD "reverse" (.bool false)).whole) != 0
  let keyed ← items.mapM fun i => do
    let keys ← paths.mapM fun steps => keyOf steps isCased i
    return (Item.tuple keys, i)
  newList ((← Item.sorted (·.1) back keyed).map (·.2))

/-- The entries of a map in the order of its keys or of its values. -/
def sortedEntries (i : Item) (b : Bound) : Render Item := do
  let isCased ← flag b "case_sensitive" false
  let by' := b.getD "by" (.text "key")
  let byKey ← by'.same (.text "key")
  if !byKey then
    if !(← by'.same (.text "value")) then problem .filterArgument
  let keyed ← (← itemsOf i).mapM fun entry => do
    let (k, v) ← bothOf entry
    let key := if byKey then k else v
    return (if isCased then key else uncased key, entry)
  let back := (← (b.getD "reverse" (.bool false)).whole) != 0
  newList ((← Item.sorted (·.1) back keyed).map (·.2))

/-- Neighbours of equal keys put together; `run` has those of the last key, reversed. -/
def runsOf (key : Item) (run : List Item) : List (Item × Item) → Render (List (Item × List Item))
  | [] => return [(key, run.reverse)]
  | (k, i) :: more => do
    if ← key.same k then runsOf key (i :: run) more
    else return (key, run.reverse) :: (← runsOf k [i] more)

/-- The items in groups that share a key. -/
def grouped (i : Item) (b : Bound) : Render Item := do
  let isCased ← flag b "case_sensitive" false
  let steps ← stepsIn b
  let look (i : Item) : Render Item := i.lookInto steps (option? b "default")
  let keyed ← (← i.members).mapM fun i => do
    let key ← look i
    return (if isCased then key else uncased key, i)
  let ordered ← Item.sorted (·.1) false keyed
  let runs ← match ordered with
    | [] => pure []
    | (k, i) :: more => runsOf k [i] more
  let groups ← runs.mapM fun (k, items) => do
    let key ← if isCased then pure k else
      match items with
      | first :: _ => look first
      | [] => pure k
    return .group key (← newList items)
  newList groups

/-! ## Sums and texts -/

def total (i : Item) (b : Bound) : Render Item := do
  let steps ← stepsIn b
  let start := b.getD "start" (.int 0)
  let isText := start.text?.isSome || match start with
    | .value (.bytes _) => true
    | _ => false
  if isText then wrongKind "sum() can't sum strings"
  (← i.members).foldlM (fun sum i => do
    Operator.add.apply sum (← i.lookInto steps none)) start

/-- Texts put together. Where one of them is markup, or what stands between them, all are. -/
def joined (i : Item) (b : Bound) : Render Item := do
  let between := b.getD "d" (.text "")
  let steps ← stepsIn b
  let items ← (← i.members).mapM fun i => i.lookInto steps none
  let isEscaped := between.isMarkup || items.any Item.isMarkup
  if (← escapes) && isEscaped then
    return .markup ((← between.escaped).intercalate (← items.mapM Item.escaped))
  else return .text ((← between.display).intercalate (← items.mapM Item.display))

/-! ## Parts -/

/-- Columns, the longer ones first; each of the others gets what fills it up. -/
def columns (i : Item) (b : Bound) : Render (List Item) := do
  let items := (← i.members).toArray
  let slices := b.getD "slices" .undefined
  let size : Item := .int items.size
  let short ← Operator.floorDiv.apply size slices
  let longer ← Operator.mod.apply size slices
  let count := (← slices.whole).toNat
  let short ← short.whole
  let longer ← longer.whole
  let fill := (option? b "fill_with").toList
  (List.range count).mapM fun n : Nat => do
    let start := n * short + min (n : Int) longer
    let stop := (n + 1) * short + min ((n : Int) + 1) longer
    let column := items.extract start.toNat stop.toNat
    newList (column.toList ++ if longer ≤ n then fill else [])

/-! ## Going through members -/

/-- What is done to each item, by what a mapping filter is given. -/
def changeOf (g : Given) : Render Change := do
  match g.positional, g.named.lookup "attribute" with
  | [], some path =>
    let others := g.named.filter fun (s, _) => s != "attribute" && s != "default"
    if !others.isEmpty then problem .filterArgument
    return .look (← Item.stepsOf path) (option? g.named "default")
  | [], none => problem .filterArgument
  | name :: more, _ => return .filter name ⟨more, g.named⟩

/-- Which items pass, by what a choosing filter is given. -/
def choiceOf (keeps ofField : Bool) (g : Given) : Render Choice := do
  let (steps, rest) ←
    if ofField then
      match g.positional with
      | [] => problem .filterArgument
      | path :: rest => do pure (← Item.stepsOf path, rest)
    else pure ([], g.positional)
  match rest with
  | [] => return ⟨steps, none, keeps⟩
  | name :: more => return ⟨steps, some (name, ⟨more, g.named⟩), keeps⟩

/-- Where a filter stands that begins to go through its items. -/
def begun (name : String) (base : Item) (g : Given) : Render Iterator := do
  let source : Render Nat := base.iterate
  let choosing (keeps ofField : Bool) : Render Iterator := do
    if ← base.holds then
      let choice ← choiceOf keeps ofField g
      return .choosing (← source) choice
    else return .through []
  match name with
  | "map" =>
    if ← base.holds then
      let how ← changeOf g
      return .changing (← source) how
    else return .through []
  | "select" => choosing true false
  | "reject" => choosing false false
  | "selectattr" => choosing true true
  | "rejectattr" => choosing false true
  | "unique" =>
    let b ← g.bind [] ["case_sensitive", "attribute"]
    let isCased ← flag b "case_sensitive" false
    let steps ← stepsIn b
    return .distinct (← source) (!isCased) (some steps) []
  | "batch" =>
    let b ← g.bind ["linecount"] ["fill_with"]
    return .rows (← source) (b.getD "linecount" .undefined) (b.getD "fill_with" .null) [] true
  | "slice" => return .through (← columns base (← g.bind ["slices"] ["fill_with"]))
  | _ =>
    match base with
    | .undefined => return .through []
    | .cell place =>
      match ← cellAt place with
      | .map entries => return .ofMap place .items entries.length 0 false
      | _ => wrongKind "Can only get item pairs from a mapping."
    | _ => wrongKind "Can only get item pairs from a mapping."

/-! ## Attributes -/

/-- Entries as attributes of a tag, without those that stand for nothing. -/
def attributes (i : Item) (b : Bound) : Render Item := do
  let kept ← (← (← itemsOf i).mapM bothOf).filterM fun (_, v) =>
    return match v with
      | .null | .undefined => false
      | _ => true
  let texts ← kept.mapM fun (k, v) => do
    match k.text? with
    | none => wrongKind "expected string or bytes-like object"
    | some s =>
      let ends (c : Char) : Bool :=
        [' ', '\t', '\n', '\r', '\x0c', '\x0b', '/', '>', '='].contains c
      if s.toList.any ends then
        throw (.badValue ("Invalid character in attribute name: " ++ (← k.literal)))
      return (← k.escaped) ++ "=\"" ++ (← v.escaped) ++ "\""
  let text := " ".intercalate texts
  let isSpaced ← flag b "autospace" true
  asMarkup (if isSpaced && !texts.isEmpty then " " ++ text else text)

/-- The start of a line that an argument asks for. -/
def lineStart? (b : Bound) : Render (Option String) := do
  match option? b "indent" with
  | none => return none
  | some i =>
    match i.text? with
    | some s => return some s
    | none => some <$> (← Operator.mul.apply (.text " ") i).display

/-! ## All of them -/

/-- The filters of collections, by name. -/
def ofCollection? (name : String) (i : Item) (g : Given) : Option (Render Item) :=
  let alone (r : Render Item) : Option (Render Item) := some do
    let _ ← g.bind [] []
    r
  let lazily (needed optional : List String) : Option (Render Item) := some do
    let _ ← g.bind needed optional
    newIterator (.waiting name i g)
  match name with
  | "count" | "length" => alone do return .int (← i.length)
  | "list" => alone do newList (← i.members)
  | "first" => alone (firstOf i)
  | "last" => alone (lastOf i)
  | "random" => alone do
    let n ← i.length
    match ← i.subscript? (.int 0) with
    | some found => return found
    | none =>
      if (← i.entries?).isSome then problem .missingKey
      else if n == 0 then return .undefined
      else wrongKind "the item has no members by number"
  | "reverse" => alone (reversed i)
  | "pprint" => alone do return .text (← i.pretty)
  | "join" => some do joined i (← g.bind [] ["d", "attribute"])
  | "sum" => some do total i (← g.bind [] ["attribute", "start"])
  | "min" => some do extreme false i (← g.bind [] ["case_sensitive", "attribute"])
  | "max" => some do extreme true i (← g.bind [] ["case_sensitive", "attribute"])
  | "sort" => some do sorted i (← g.bind [] ["reverse", "case_sensitive", "attribute"])
  | "dictsort" => some do sortedEntries i (← g.bind [] ["case_sensitive", "by", "reverse"])
  | "groupby" => some do grouped i (← g.bind ["attribute"] ["default", "case_sensitive"])
  | "xmlattr" => some do attributes i (← g.bind [] ["autospace"])
  | "tojson" => some do
    let b ← g.bind [] ["indent"]
    let indent ← if i.text?.isSome then pure none else lineStart? b
    return .markup (← i.json indent)
  | "items" => lazily [] []
  | "unique" => lazily [] ["case_sensitive", "attribute"]
  | "batch" => lazily ["linecount"] ["fill_with"]
  | "slice" => lazily ["slices"] ["fill_with"]
  | "map" | "select" | "reject" | "selectattr" | "rejectattr" =>
    some (newIterator (.waiting name i g))
  | "d" | "default" => some do
    let b ← g.bind [] ["default_value", "boolean"]
    let other := b.getD "default_value" (.text "")
    if i.isUndefined then return other
    else if ← flag b "boolean" false then if ← i.holds then return i else return other
    else return i
  | "attr" => some do
    match ((← g.bind ["name"] []).getD "name" .undefined).text? with
    | some name => return (← i.attribute? name).getD .undefined
    | none => wrongKind "attribute name must be string"
  | _ => none

end SecurityScan.Template.Filter
