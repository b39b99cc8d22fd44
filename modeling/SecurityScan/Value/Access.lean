import SecurityScan.Fault
import SecurityScan.Value.Display

/-!
# Looking into values

Reading a field, going through the members and counting them, each with its fault when the value
is of the wrong kind.
-/

namespace SecurityScan.Value

/-- A fault of a value that has no such field or operation. -/
def lacks (v : Value) (name : String) : Fault :=
  .noField ("'" ++ v.kind ++ "' object has no attribute '" ++ name ++ "'")

/-- The entries of a map, which a reader asked for its `operation`. -/
def entriesFor (v : Value) (operation : String) : Except Fault Entries :=
  match v.entries? with
  | some es => .ok es
  | none => .error (v.lacks operation)

/-- A field of a map; none when the map has no such key. -/
def lookup (v : Value) (name : String) : Except Fault (Option Value) := do
  return (← v.entriesFor "get").field? name

/-- A field of a map, or `default`. -/
def lookupD (v : Value) (name : String) (default : Value) : Except Fault Value := do
  return (← v.lookup name).getD default

/-- The members that a loop goes through: items, characters, keys or bytes. -/
def members? (v : Value) : Option (List Value) :=
  match v.opened with
  | .list xs | .tuple xs | .set xs => some xs
  | .str s => some (s.toList.map fun c => .str (String.singleton c))
  | .map es => some (es.map (·.1))
  | .bytes bs => some (bs.map fun b => .int b.toNat)
  | _ => none

def members (v : Value) : Except Fault (List Value) :=
  match v.members? with
  | some xs => .ok xs
  | none => .error (.wrongKind ("'" ++ v.kind ++ "' object is not iterable"))

/-- The number of members. -/
def count (v : Value) : Except Fault Nat :=
  match v.members? with
  | some xs => .ok xs.length
  | none => .error (.wrongKind ("object of type '" ++ v.kind ++ "' has no len()"))

/-- The value if it holds, else `other`. -/
def orElse (v other : Value) : Value := if v.holds then v else other

/-! ## Text -/

/-- How deep collections may stand in one another to be written. -/
def maxWrittenDepth : Nat := 990

mutual

/-- What keeps a value from being written inside the collections with the marks `around`, with
`room` levels left: a whole number that is too long, or collections that stand too deep, whichever
the writer comes to first. -/
def writeFault? (around : List Nat) (room : Nat) (v : Value) : Option Fault :=
  if room = 0 then some .tooDeep
  else
    match v with
    | .int i => if i.natAbs < Number.digitLimit then none else some .tooLongToWrite
    | .list xs | .tuple xs | .set xs => writeFaults? around (room - 1) xs
    | .map es => entryWriteFaults? around (room - 1) es
    | .marked mark w =>
      if around.contains mark then none else writeFault? (mark :: around) room w
    | _ => none

def writeFaults? (around : List Nat) (room : Nat) : List Value → Option Fault
  | [] => none
  | x :: xs => (writeFault? around room x).or (writeFaults? around room xs)

def entryWriteFaults? (around : List Nat) (room : Nat) : List (Value × Value) → Option Fault
  | [] => none
  | (k, v) :: es => (writeFault? around room k).or
      ((writeFault? around room v).or (entryWriteFaults? around room es))

end

/-- What keeps a value from having a text. -/
def textFault? (v : Value) : Option Fault := v.writeFault? [] maxWrittenDepth

/-- The text that `f` gives for a value that can be written. -/
def textBy (f : Value → String) (v : Value) : Except Fault String :=
  match v.textFault? with
  | none => .ok (f v)
  | some e => .error e

/-- The plain form. -/
def displayed (v : Value) : Except Fault String := v.textBy display

/-- Texts joined by `between`; a member that is not a text is a fault. -/
def joinTexts (between : String) (v : Value) : Except Fault String :=
  match v.members? with
  | none => .error (.wrongKind "can only join an iterable")
  | some xs => do
    let texts ← xs.mapM fun x =>
      match x with
      | .str s => .ok s
      | x => .error (.wrongKind ("sequence item: expected str instance, " ++ x.kind ++ " found"))
    return String.intercalate between texts

end SecurityScan.Value
