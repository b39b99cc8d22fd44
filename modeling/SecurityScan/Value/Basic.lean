import SecurityScan.Calendar
import SecurityScan.Number.Double
import SecurityScan.Text.Utf8

/-!
# Values

The data that settings, tool outputs and replies are made of. A map keeps its entries in the order
in which their keys first came. A collection that holds itself has a mark, and stands under its
mark where it is met again inside itself.
-/

namespace SecurityScan

open Text.Utf8 (Bytes)

inductive Value
  | null
  | bool (b : Bool)
  | int (i : Int)
  | float (x : Double)
  | str (s : String)
  | list (items : List Value)
  | tuple (items : List Value)
  | map (entries : List (Value × Value))
  | date (d : Date)
  | datetime (t : DateTime)
  | bytes (bs : Bytes)
  | set (members : List Value)
  /-- A collection in which it may be met again. -/
  | marked (mark : Nat) (collection : Value)
  /-- The collection with this mark, which is a map or not. -/
  | again (mark : Nat) (isMap : Bool)
deriving Inhabited

/-- The entries of a map in order. -/
abbrev Entries := List (Value × Value)

namespace Value

/-- The name of the kind of value. -/
def kind : Value → String
  | .null => "NoneType"
  | .bool _ => "bool"
  | .int _ => "int"
  | .float _ => "float"
  | .str _ => "str"
  | .list _ => "list"
  | .tuple _ => "tuple"
  | .map _ => "dict"
  | .date _ => "date"
  | .datetime _ => "datetime"
  | .bytes _ => "bytes"
  | .set _ => "set"
  | .marked _ v => v.kind
  | .again _ isMap => if isMap then "dict" else "list"

/-- Nothing, false, zero and what is empty do not hold; all else does. -/
def holds : Value → Bool
  | .null => false
  | .bool b => b
  | .int i => i != 0
  | .float x => !x.isZero
  | .str s => s != ""
  | .list xs => !xs.isEmpty
  | .tuple xs => !xs.isEmpty
  | .map es => !es.isEmpty
  | .bytes bs => !bs.isEmpty
  | .set xs => !xs.isEmpty
  | .marked _ v => v.holds
  | .date _ | .datetime _ | .again .. => true

/-- A number as an integer or a double; truth values count as one and zero. -/
inductive Numeric
  | whole (i : Int)
  | real (x : Double)

def numeric? : Value → Option Numeric
  | .bool b => some (.whole (if b then 1 else 0))
  | .int i => some (.whole i)
  | .float x => some (.real x)
  | _ => none

def Numeric.same : Numeric → Numeric → Bool
  | .whole i, .whole j => i == j
  | .whole i, .real x => x.eqInt i
  | .real x, .whole i => x.eqInt i
  | .real x, .real y => x.eq y

def sameNumber (n : Numeric) (v : Value) : Bool :=
  match v.numeric? with
  | some m => n.same m
  | none => false

/-! Equality: numbers by value, maps without regard to order, all else piece by piece. -/

mutual

def same : Value → Value → Bool
  | .null, .null => true
  | .str s, .str t => s == t
  | .date d, .date e => d == e
  | .datetime s, .datetime t => s.same t
  | .bytes a, .bytes b => a == b
  | .list xs, .list ys => sameAll xs ys
  | .tuple xs, .tuple ys => sameAll xs ys
  | .set xs, .set ys => xs.length == ys.length && sameMembers xs ys
  | .map es, .map fs => es.length == fs.length && sameEntries es fs
  | .bool b, v => sameNumber (.whole (if b then 1 else 0)) v
  | .int i, v => sameNumber (.whole i) v
  | .float x, v => sameNumber (.real x) v
  | _, _ => false

def sameAll : List Value → List Value → Bool
  | [], [] => true
  | x :: xs, y :: ys => same x y && sameAll xs ys
  | _, _ => false

/-- Every one of the first has an equal among the second. -/
def sameMembers : List Value → List Value → Bool
  | [], _ => true
  | x :: xs, ys => ys.any (fun y => same x y) && sameMembers xs ys

def sameEntries : List (Value × Value) → List (Value × Value) → Bool
  | [], _ => true
  | (k, v) :: es, fs => fs.any (fun f => same k f.1 && same v f.2) && sameEntries es fs

end

/-- Whether a value can be a key: nothing that may change is one. -/
def isKey : Value → Bool
  | .list _ | .map _ | .set _ | .marked .. | .again .. => false
  | .tuple xs => go xs
  | _ => true
where
  go : List Value → Bool
    | [] => true
    | x :: xs => x.isKey && go xs

end Value

/-! ## Collections that hold themselves -/

namespace Value

mutual

/-- A value with `whole` where the collection with its mark is met again. -/
def filled (mark : Nat) (whole : Value) : Value → Value
  | .again m isMap => if m = mark then whole else .again m isMap
  | .marked m v => .marked m (filled mark whole v)
  | .list xs => .list (filledAll mark whole xs)
  | .tuple xs => .tuple (filledAll mark whole xs)
  | .set xs => .set (filledAll mark whole xs)
  | .map es => .map (filledEntries mark whole es)
  | v => v

def filledAll (mark : Nat) (whole : Value) : List Value → List Value
  | [] => []
  | x :: xs => filled mark whole x :: filledAll mark whole xs

def filledEntries (mark : Nat) (whole : Value) : List (Value × Value) → List (Value × Value)
  | [] => []
  | (k, v) :: es => (filled mark whole k, filled mark whole v) :: filledEntries mark whole es

end

/-- A collection as its members are read: without its mark, and whole wherever it is met again. -/
def opened : Value → Value
  | .marked mark v => filled mark (.marked mark v) v
  | v => v

end Value

/-! ## Maps -/

namespace Entries

def get? (es : Entries) (key : Value) : Option Value :=
  (es.find? fun e => e.1.same key).map (·.2)

/-- The value under a text key. -/
def field? (es : Entries) (name : String) : Option Value := es.get? (.str name)

/-- A new key goes to the end; a known one keeps its place and its first spelling. -/
def insert (es : Entries) (key value : Value) : Entries :=
  match es with
  | [] => [(key, value)]
  | e :: rest => if e.1.same key then (e.1, value) :: rest else e :: insert rest key value

def setField (es : Entries) (name : String) (value : Value) : Entries :=
  es.insert (.str name) value

/-- The entries of `fs` put into `es` one after the other. -/
def insertAll (es fs : Entries) : Entries := fs.foldl (fun m e => m.insert e.1 e.2) es

def erase (es : Entries) (key : Value) : Entries := es.filter fun e => !e.1.same key

end Entries

namespace Value

/-- The entries of a map. -/
def entries? (v : Value) : Option Entries :=
  match v.opened with
  | .map es => some es
  | _ => none

def list? (v : Value) : Option (List Value) :=
  match v.opened with
  | .list xs => some xs
  | _ => none

def str? : Value → Option String
  | .str s => some s
  | _ => none

def isNull : Value → Bool
  | .null => true
  | _ => false

def isStr (v : Value) : Bool := v.str?.isSome

def isMap (v : Value) : Bool := v.entries?.isSome

/-- A map with text keys. -/
def record (fields : List (String × Value)) : Value := .map (fields.map fun f => (.str f.1, f.2))

end Value

end SecurityScan
