import SecurityScan.Yaml.Tag
import SecurityScan.Yaml.Token

/-!
# Nodes

The nodes that a YAML text describes, in a table. A node refers to its parts by their places, and
an alias is one more reference to the node that it names, so that a node may be part of itself.
-/

namespace SecurityScan.Yaml

/-- A node's place in the table. -/
abbrev Ref := Nat

inductive Node
  | scalar (tag : Tag) (text : String)
  | seq (tag : Tag) (items : List Ref)
  | map (tag : Tag) (pairs : List (Ref × Ref))

structure Graph where
  nodes : Array Node
  root : Ref

namespace Node

/-- What an empty place stands for. -/
def empty : Node := .scalar .null ""

/-- Collections may nest this deep. -/
def maxDepth : Nat := 490

/-- What is left to read, what names in it stand for, and the nodes read so far. -/
structure Reading where
  tokens : List Token
  handles : List (String × String)
  anchors : List (String × Ref)
  nodes : Array Node

abbrev Grammar := StateT Reading (Except Stop)

/-! ## Single tokens -/

/-- The next token. -/
def peek : Grammar Token := do
  match (← get).tokens with
  | [] => throw .malformed
  | .stop s :: _ => throw s
  | t :: _ => return t

def skip : Grammar Unit := modify fun r => { r with tokens := r.tokens.tail }

/-- Whether the next token is one of `ts`. -/
def atOneOf (ts : List Token) : Grammar Bool := do return ts.contains (← peek)

/-- Past the next token if it is `t`. -/
def skipIf (t : Token) : Grammar Bool := do
  if (← peek) = t then
    skip
    return true
  else return false

def expect (t : Token) : Grammar Unit := do
  if !(← skipIf t) then throw .malformed

/-! ## Properties -/

/-- The full name that a written tag stands for. -/
def tagName (t : WrittenTag) : Grammar String := do
  match t.handle with
  | none => return t.suffix
  | some handle =>
    match (← get).handles.lookup handle with
    | some leading => return leading ++ t.suffix
    | none => throw .malformed

def anchorHere? : Grammar (Option String) := do
  match ← peek with
  | .anchor name => skip; return some name
  | _ => return none

def tagHere? : Grammar (Option WrittenTag) := do
  match ← peek with
  | .tag t => skip; return some t
  | _ => return none

/-- An anchor and a tag, in either order, the tag with its full name. -/
def properties : Grammar (Option String × Option String) := do
  let first ← anchorHere?
  let tag ← tagHere?
  let anchor ← match first, tag with
    | none, some _ => anchorHere?
    | name, _ => pure name
  match tag with
  | some t => return (anchor, some (← tagName t))
  | none => return (anchor, none)

/-! ## The table -/

def add (node : Node) : Grammar Ref := do
  let r := (← get).nodes.size
  modify fun s => { s with nodes := s.nodes.push node }
  return r

def replace (r : Ref) (node : Node) : Grammar Unit :=
  modify fun s => { s with nodes := s.nodes.setIfInBounds r node }

def bind (name : Option String) (r : Ref) : Grammar Unit :=
  match name with
  | some a => modify fun s => { s with anchors := (a, r) :: s.anchors }
  | none => pure ()

/-- A scalar under its name. -/
def addScalar (name : Option String) (tag : Tag) (text : String) : Grammar Ref := do
  let r ← add (.scalar tag text)
  bind name r
  return r

/-- A sequence under its name, which its items may use already. -/
def addSeq (name : Option String) (tag : Tag) (items : Grammar (List Ref)) : Grammar Ref := do
  let r ← add (.seq tag [])
  bind name r
  replace r (.seq tag (← items))
  return r

/-- A mapping under its name, which its pairs may use already. -/
def addMap (name : Option String) (tag : Tag) (pairs : Grammar (List (Ref × Ref))) :
    Grammar Ref := do
  let r ← add (.map tag [])
  bind name r
  replace r (.map tag (← pairs))
  return r

/-- The tag of a collection. -/
def collectionTag (name : Option String) (usual : Tag) : Tag :=
  match name with
  | none | some "!" => usual
  | some n => .ofName n

/-- The tag of a scalar: one that is plain, or tagged with `!` alone, tells it by its form. -/
def scalarTag (name : Option String) (plain : Bool) (text : String) : Tag :=
  match name with
  | some "!" => .ofPlain text
  | some n => .ofName n
  | none => if plain then .ofPlain text else .str

/-! ## The grammar -/

mutual

/-- A node; one of a block may begin a block of its own. Each node inside another takes one from
`depth`. -/
def node : (fuel depth : Nat) → (block indentless : Bool) → Grammar Ref
  | 0, _, _, _ => throw .malformed
  | _, 0, _, _ => throw (.fault .tooDeep)
  | fuel + 1, depth + 1, block, indentless => do
    match ← peek with
    | .alias name =>
      skip
      match (← get).anchors.lookup name with
      | some r => return r
      | none => throw .malformed
    | _ =>
      let (name, tag) ← properties
      if let some a := name then
        if ((← get).anchors.lookup a).isSome then throw .malformed
      match ← peek with
      | .scalar plain text =>
        skip
        addScalar name (scalarTag tag plain text) text
      | .flowStart .square =>
        skip
        addSeq name (collectionTag tag .seq) (flowItems fuel depth true)
      | .flowStart .curly =>
        skip
        addMap name (collectionTag tag .map) (flowPairs fuel depth true)
      | next =>
        if indentless && next = .blockEntry then
          addSeq name (collectionTag tag .seq) (blockItems fuel depth true)
        else if block && next = .blockSequenceStart then
          skip
          addSeq name (collectionTag tag .seq) (blockItems fuel depth false)
        else if block && next = .blockMappingStart then
          skip
          addMap name (collectionTag tag .map) (blockPairs fuel depth)
        else if name.isSome || tag.isSome then addScalar name (scalarTag tag true "") ""
        else throw .malformed

/-- The items of a block sequence; an indentless one has no end of its own. -/
def blockItems : (fuel depth : Nat) → (indentless : Bool) → Grammar (List Ref)
  | 0, _, _ => throw .malformed
  | fuel + 1, depth, indentless => do
    if ← skipIf .blockEntry then
      let ends :=
        if indentless then [.blockEntry, .key, .value, .blockEnd] else [.blockEntry, .blockEnd]
      let item ← if ← atOneOf ends then add empty else node fuel depth true false
      return item :: (← blockItems fuel depth indentless)
    else
      if !indentless then expect .blockEnd
      return []

def blockPairs : (fuel depth : Nat) → Grammar (List (Ref × Ref))
  | 0, _ => throw .malformed
  | fuel + 1, depth => do
    if ← skipIf .key then
      let ends := [.key, .value, .blockEnd]
      let key ← if ← atOneOf ends then add empty else node fuel depth true true
      let value ←
        if ← skipIf .value then
          if ← atOneOf ends then add empty else node fuel depth true true
        else add empty
      return (key, value) :: (← blockPairs fuel depth)
    else
      expect .blockEnd
      return []

/-- The items of a flow sequence; one with a key is a mapping of one pair. -/
def flowItems : (fuel depth : Nat) → (first : Bool) → Grammar (List Ref)
  | 0, _, _ => throw .malformed
  | fuel + 1, depth, first => do
    if ← skipIf (.flowEnd .square) then return []
    if !first then expect .flowEntry
    if ← skipIf .key then
      let item ← addMap none .map do return [← flowPair fuel (depth - 1) (.flowEnd .square)]
      return item :: (← flowItems fuel depth false)
    else if ← skipIf (.flowEnd .square) then return []
    else
      let item ← node fuel depth false false
      return item :: (← flowItems fuel depth false)

def flowPairs : (fuel depth : Nat) → (first : Bool) → Grammar (List (Ref × Ref))
  | 0, _, _ => throw .malformed
  | fuel + 1, depth, first => do
    if ← skipIf (.flowEnd .curly) then return []
    if !first then expect .flowEntry
    if ← skipIf .key then
      let pair ← flowPair fuel depth (.flowEnd .curly)
      return pair :: (← flowPairs fuel depth false)
    else if ← skipIf (.flowEnd .curly) then return []
    else
      let key ← node fuel depth false false
      let value ← add empty
      return (key, value) :: (← flowPairs fuel depth false)

/-- A key and its value inside brackets, from after the mark of the key. -/
def flowPair : (fuel depth : Nat) → (close : Token) → Grammar (Ref × Ref)
  | 0, _, _ => throw .malformed
  | fuel + 1, depth, close => do
    let key ←
      if ← atOneOf [.value, .flowEntry, close] then add empty else node fuel depth false false
    let value ←
      if ← skipIf .value then
        if ← atOneOf [.flowEntry, close] then add empty else node fuel depth false false
      else add empty
    return (key, value)

end

/-! ## Documents -/

def usualHandles : List (String × String) := [("!", "!"), ("!!", Tag.space)]

/-- The directives before a document: one version at most, and each handle once. -/
def directives : Nat → (hasVersion : Bool) → (handles : List (String × String)) →
    Grammar (List (String × String))
  | 0, _, _ => throw .malformed
  | fuel + 1, hasVersion, handles => do
    match ← peek with
    | .directive (.version major) =>
      skip
      if hasVersion || major != 1 then throw .malformed
      directives fuel true handles
    | .directive (.tag handle leading) =>
      skip
      if (handles.lookup handle).isSome then throw .malformed
      directives fuel hasVersion ((handle, leading) :: handles)
    | .directive .other =>
      skip
      directives fuel hasVersion handles
    | _ => return handles ++ usualHandles

def skipEnds : Nat → Grammar Unit
  | 0 => pure ()
  | fuel + 1 => do if ← skipIf .documentEnd then skipEnds fuel

/-- Whether a document begins with a line of its own. -/
def hasStart : Token → Bool
  | .directive _ | .documentStart => true
  | _ => false

/-- The node of the one document of a stream; none when it holds no document. -/
def document (fuel : Nat) : Grammar (Option Ref) := do
  let first ← peek
  if first = .streamEnd then return none
  let root ←
    if hasStart first then
      let handles ← directives fuel false []
      modify fun r => { r with handles }
      expect .documentStart
      match ← peek with
      | .directive _ | .documentStart | .documentEnd | .streamEnd => add empty
      | _ => node fuel maxDepth true false
    else node fuel maxDepth true false
  skipEnds fuel
  if (← peek) = .streamEnd then return some root else throw .malformed

end Node

/-- The nodes that a text describes; none when it holds no document. -/
def Graph.ofText? (cs : List Char) : Except Stop (Option Graph) := do
  let ts := tokens cs
  let (root, reading) ← (Node.document (3 * ts.length + 3)).run ⟨ts, Node.usualHandles, [], #[]⟩
  return root.map fun r => ⟨reading.nodes, r⟩

end SecurityScan.Yaml
