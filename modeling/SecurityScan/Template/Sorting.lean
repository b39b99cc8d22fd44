/-!
# Sorting by a test that can fail

A stable sort of lists whose test is itself a computation. A short list is sorted by inserting its
items into the longest start of it that is in order already; a longer one in two halves, which are
merged.
-/

namespace SecurityScan.Template.Sorting

variable {m : Type → Type} [Monad m] {α : Type} (precedes : α → α → m Bool)

/-! ## What is in order already -/

/-- The items that follow `last` as long as each precedes the one before it, put before those of
`run`, and the items after them. -/
def falling (last : α) (run : List α) : List α → m (List α × List α)
  | [] => return (run, [])
  | x :: xs => do
    if ← precedes x last then falling x (x :: run) xs else return (run, x :: xs)

/-- The items that follow `last` as long as none precedes the one before it, put behind those of
`run`, which is reversed, and the items after them. -/
def rising (last : α) (run : List α) : List α → m (List α × List α)
  | [] => return (run.reverse, [])
  | x :: xs => do
    if ← precedes x last then return (run.reverse, x :: xs) else rising x (x :: run) xs

/-- The longest start of a list that rises or falls all along, in rising order, and the rest. -/
def start : List α → m (List α × List α)
  | x :: y :: more => do
    if ← precedes y x then falling precedes y [y, x] more else rising precedes y [y, x] more
  | items => return (items, [])

/-! ## Inserting -/

/-- The place for an item among ordered ones, behind all that it does not precede. -/
def placeFor (x : α) (items : Array α) (low high : Nat) : m Nat :=
  if low < high then
    let middle := low + (high - low) / 2
    match items[middle]? with
    | some y => do
      if ← precedes x y then placeFor x items low middle else placeFor x items (middle + 1) high
    | none => return low
  else return low
termination_by high - low
decreasing_by all_goals omega

def inserted (items : Array α) (x : α) : m (Array α) := do
  return items.insertIdxIfInBounds (← placeFor precedes x items 0 items.size) x

def byInsertion (items : List α) : m (List α) := do
  let (ordered, rest) ← start precedes items
  return (← rest.foldlM (inserted precedes) ordered.toArray).toList

/-! ## Merging -/

/-- Two ordered lists as one, behind the reversed `found`; of equal items those of the first list
come first. -/
def merged (found xs ys : List α) : m (List α) :=
  match xs, ys with
  | [], ys => return found.reverseAux ys
  | xs, [] => return found.reverseAux xs
  | x :: xs, y :: ys => do
    if ← precedes y x then merged (y :: found) (x :: xs) ys else merged (x :: found) xs (y :: ys)
termination_by xs.length + ys.length
decreasing_by all_goals simp_wf

/-- Shorter lists than this are sorted by insertion. -/
def shortLength : Nat := 64

/-- The items in order, those of which none precedes the other as they were. The number of items
limits how often a list is halved. -/
def sorted (items : List α) : m (List α) := inHalves items.length items
where
  inHalves : Nat → List α → m (List α)
    | 0, items => byInsertion precedes items
    | fuel + 1, items =>
      if items.length < shortLength then byInsertion precedes items
      else do
        let (front, back) := items.splitAt (items.length / 2)
        let front ← inHalves fuel front
        merged precedes [] front (← inHalves fuel back)

end SecurityScan.Template.Sorting
