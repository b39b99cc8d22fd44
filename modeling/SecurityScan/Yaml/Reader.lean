import SecurityScan.Value.Access
import SecurityScan.Yaml.Node
import SecurityScan.Yaml.ScalarValue

/-!
# Values of YAML texts

The nodes of a text are made into values in rounds: a collection is met in one round and filled in
the next, so that of several things that stop the making the one at the highest level counts. When
all nodes are made, the value of the root is put together; what is part of itself is marked.
-/

namespace SecurityScan.Yaml

/-- The nodes, which of them have been met, what the scalars among those stand for, and the
collections to be filled, the newest first. -/
structure Making where
  nodes : Array Node
  isMet : Array Bool
  scalars : Array (Option Value)
  waiting : List Ref

abbrev Maker := StateT Making (Except Stop)

/-- Whether a tag is one of a value that grows after it is made. -/
def isCollection : Tag → Bool
  | .seq | .map | .set | .omap | .pairs => true
  | _ => false

namespace Node

def tag : Node → Tag
  | .scalar t _ | .seq t _ | .map t _ => t

def withTag (t : Tag) : Node → Node
  | .scalar _ text => .scalar t text
  | .seq _ items => .seq t items
  | .map _ pairs => .map t pairs

end Node

namespace Maker

def nodeAt (r : Ref) : Maker Node := do return (← get).nodes.getD r .empty

def tagAt (r : Ref) : Maker Tag := do return (← nodeAt r).tag

def pairsAt (r : Ref) : Maker (List (Ref × Ref)) := do
  match ← nodeAt r with
  | .map _ pairs => return pairs
  | _ => return []

def replace (r : Ref) (node : Node) : Maker Unit :=
  modify fun m => { m with nodes := m.nodes.setIfInBounds r node }

def replacePairs (r : Ref) (pairs : List (Ref × Ref)) : Maker Unit := do
  if let .map tag _ ← nodeAt r then replace r (.map tag pairs)

/-! ## Merged mappings -/

/-- Mappings that take pairs from others may follow on one another this far, and so may mappings
that stand for scalars. -/
def maxDepth : Nat := 980

/-- The pairs of a node that has to be a mapping, once it has taken those of others. -/
def pairsOf (flatten : Ref → Maker Unit) (r : Ref) : Maker (List (Ref × Ref)) := do
  match ← nodeAt r with
  | .map .. =>
    flatten r
    pairsAt r
  | _ => throw .malformed

/-- The pairs that a mapping, or each of several, has to give. -/
def pairsFrom (flatten : Ref → Maker Unit) (source : Ref) : Maker (List (Ref × Ref)) := do
  match ← nodeAt source with
  | .seq _ items => return (← items.mapM (pairsOf flatten)).reverse.flatten
  | _ => pairsOf flatten source

/-- The pairs taken from others, from the pair numbered `place` on. What asks for them goes away;
`left` is how many pairs are still to be looked at. -/
def takenFrom (flatten : Ref → Maker Unit) (r : Ref) :
    (left place : Nat) → Maker (List (Ref × Ref))
  | 0, _ => return []
  | left + 1, place => do
    match (← pairsAt r)[place]? with
    | none => return []
    | some (key, source) =>
      let node ← nodeAt key
      match node.tag with
      | .merge =>
        replacePairs r ((← pairsAt r).eraseIdx place)
        let taken ← pairsFrom flatten source
        return taken ++ (← takenFrom flatten r left place)
      | .value =>
        replace key (node.withTag .str)
        takenFrom flatten r left (place + 1)
      | _ => takenFrom flatten r left (place + 1)

/-- Puts the pairs that a mapping takes from others in front of its own. -/
def flatten : (depth : Nat) → Ref → Maker Unit
  | 0, _ => throw (.fault .tooDeep)
  | depth + 1, r => do
    let taken ← takenFrom (flatten depth) r (← pairsAt r).length 0
    if !taken.isEmpty then replacePairs r (taken ++ (← pairsAt r))

/-! ## Meeting and filling -/

/-- The text of a node that has to be a scalar; a mapping has one under its value key. -/
def scalarText : (depth : Nat) → Ref → Maker String
  | 0, _ => throw (.fault .tooDeep)
  | depth + 1, r => do
    match ← nodeAt r with
    | .scalar _ text => return text
    | .seq .. => throw .malformed
    | .map _ pairs =>
      match ← pairs.findM? fun p => return (← tagAt p.1) = .value with
      | some (_, v) => scalarText depth v
      | none => throw .malformed

/-- The value of a node that is no collection. -/
def scalarAt (r : Ref) : Maker Value := do
  match ← nodeAt r with
  | .scalar tag text => scalarValue tag text
  | .seq .. => throw .malformed
  | .map tag _ =>
    let text ← scalarText maxDepth r
    if tag = .timestamp then throw (.fault (.wrongKind "expected string or bytes-like object"))
    scalarValue tag text

/-- A node met as part of another: a collection has to wait for its parts. -/
def meet (r : Ref) : Maker Unit := do
  if !(← get).isMet.getD r false then
    if isCollection (← tagAt r) then modify fun m => { m with waiting := r :: m.waiting }
    else
      let v ← scalarAt r
      modify fun m => { m with scalars := m.scalars.setIfInBounds r (some v) }
    modify fun m => { m with isMet := m.isMet.setIfInBounds r true }

/-- The keys and values of a mapping; a key may not be a collection. -/
def meetPairs : List (Ref × Ref) → Maker Unit
  | [] => return
  | (key, value) :: rest => do
    meet key
    if isCollection (← tagAt key) then throw .malformed
    meet value
    meetPairs rest

/-- A pair of an ordered mapping, which is a mapping of its own. -/
def meetSingle (item : Ref) : Maker Unit := do
  match ← nodeAt item with
  | .map _ [(key, value)] =>
    meet key
    meet value
  | _ => throw .malformed

/-- The parts of a collection. -/
def fill (r : Ref) : Maker Unit := do
  match ← nodeAt r with
  | .seq .seq items => items.forM meet
  | .seq .omap items | .seq .pairs items => items.forM meetSingle
  | .map .map _ | .map .set _ =>
    flatten maxDepth r
    meetPairs (← pairsAt r)
  | _ => throw .malformed

/-- Fills collections until none is waiting. -/
def rounds : (left : Nat) → Maker Unit
  | 0 => return
  | left + 1 => do
    let rs := (← get).waiting.reverse
    if !rs.isEmpty then
      modify fun m => { m with waiting := [] }
      rs.forM fill
      rounds left

end Maker

/-- Everything that the root of a graph needs, made. A round meets a node or is the last one. -/
def Graph.made (g : Graph) : Except Stop Making := do
  let steps := do
    Maker.meet g.root
    Maker.rounds (g.nodes.size + 1)
  let n := g.nodes.size
  let (_, m) ← StateT.run steps ⟨g.nodes, Array.replicate n false, Array.replicate n none, []⟩
  return m

/-! ## Putting values together -/

/-- A value, and the collections around it that it holds. -/
abbrev Assembled := Value × List Ref

/-- Values that hold no collection around them, by place. -/
abbrev Assembler := StateM (Array (Option Value))

namespace Assembler

/-- The members of both lists. -/
def merged (held others : List Ref) : List Ref := held ++ others.filter (!held.contains ·)

/-- A collection made of parts that hold the collections `held`. -/
def collection (r : Ref) (v : Value) (held : List Ref) : Assembler Assembled := do
  let made := if held.isEmpty then v else .marked r v
  let outer := held.filter (· != r)
  if outer.isEmpty then modify (·.setIfInBounds r (some made))
  return (made, outer)

def all (f : Ref → Assembler Assembled) : List Ref → Assembler (List Value × List Ref)
  | [] => return ([], [])
  | r :: rs => do
    let (v, held) ← f r
    let (vs, others) ← all f rs
    return (v :: vs, merged held others)

def entries (f : Ref → Assembler Assembled) (before : Entries) :
    List (Ref × Ref) → Assembler (Entries × List Ref)
  | [] => return (before, [])
  | (k, v) :: rest => do
    let (key, _) ← f k
    let (value, held) ← f v
    let (es, others) ← entries f (before.insert key value) rest
    return (es, merged held others)

/-- Mappings of one pair each, as pairs. -/
def pairs (nodes : Array Node) (f : Ref → Assembler Assembled) :
    List Ref → Assembler (List Value × List Ref)
  | [] => return ([], [])
  | r :: rs => do
    let parts := match nodes.getD r .empty with
      | .map _ ps => ps.flatMap fun p => [p.1, p.2]
      | _ => []
    let (vs, held) ← all f parts
    let (rest, others) ← pairs nodes f rs
    return (.tuple vs :: rest, merged held others)

/-- The value at a place inside the collections at `around`. -/
def valueAt (nodes : Array Node) : (depth : Nat) → (around : List Ref) → Ref → Assembler Assembled
  | 0, _, _ => return (.null, [])
  | depth + 1, around, r => do
    let node := nodes.getD r .empty
    if around.contains r then return (.again r (node.tag = .map), [r])
    else if let some v := (← get).getD r none then return (v, [])
    else
      let part := valueAt nodes depth (r :: around)
      match node with
      | .seq .seq items =>
        let (vs, held) ← all part items
        collection r (.list vs) held
      | .seq .omap items | .seq .pairs items =>
        let (vs, held) ← pairs nodes part items
        collection r (.list vs) held
      | .map .map ps =>
        let (es, held) ← entries part [] ps
        collection r (.map es) held
      | .map .set ps =>
        let (es, held) ← entries part [] ps
        collection r (.set (es.map (·.1))) held
      | _ => return (.null, [])

end Assembler

/-- The value of a graph. The scalars in it are known from the start. -/
def Graph.value (g : Graph) : Except Stop Value := do
  let m ← g.made
  return ((Assembler.valueAt m.nodes (m.nodes.size + 1) [] g.root).run m.scalars).1.1

/-- The value that a text describes, null when it holds no document. -/
def read (text : String) : Except Stop Value := do
  match ← Graph.ofText? text.toList with
  | none => return .null
  | some g => g.value

end SecurityScan.Yaml
