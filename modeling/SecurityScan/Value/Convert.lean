import SecurityScan.Value.Access

/-!
# Converting values

Whole numbers, doubles and maps made of values of other kinds, each with its fault when the value
cannot be one.
-/

namespace SecurityScan

namespace Value

/-- A whole number: as it is, cut off after the point, or read. -/
def toWhole : Value → Except Fault Int
  | .int i => .ok i
  | .bool b => .ok (if b then 1 else 0)
  | .float .nan => .error (.badValue "cannot convert float NaN to integer")
  | .float x =>
    match x.truncate? with
    | some i => .ok i
    | none => .error (.overflow "cannot convert float infinity to integer")
  | .str s => Fault.wholeOf s
  | .bytes bs =>
    match Text.Utf8.decode bs with
    | .ok s => (Fault.wholeOf s).mapError fun _ => .badValue
        ("invalid literal for int() with base 10: " ++ Bytes.literal bs)
    | .error _ => .error (.badValue
        ("invalid literal for int() with base 10: " ++ Bytes.literal bs))
  | v => .error (.wrongKind
      ("int() argument must be a string, a bytes-like object or a real number, not '" ++ v.kind ++
        "'"))

/-- The double that a whole number rounds to, when it is not beyond the largest one. -/
def inRange : Option Double → Except Fault Double
  | some x => .ok x
  | none => .error (.overflow "int too large to convert to float")

/-- A double: as it is, the nearest to a whole number, or read. -/
def toDouble : Value → Except Fault Double
  | .float x => .ok x
  | .int i => inRange (Double.ofInt? i)
  | .bool b => .ok (.ofRatio false (if b then 1 else 0) 1)
  | .str s => Fault.doubleOf s
  | .bytes bs =>
    match Text.Utf8.decode bs with
    | .ok s => (Fault.doubleOf s).mapError fun _ => .badValue
        ("could not convert string to float: " ++ Bytes.literal bs)
    | .error _ => .error (.badValue
        ("could not convert string to float: " ++ Bytes.literal bs))
  | v => .error (.wrongKind
      ("float() argument must be a string or a real number, not '" ++ v.kind ++ "'"))

/-- Pairs put together to a map, the first of them being the one numbered `place`. -/
def pairsToMap (place : Nat) (es : Entries) : List Value → Except Fault Entries
  | [] => .ok es
  | x :: xs =>
    match x.members? with
    | none => .error (.wrongKind ("cannot convert dictionary update sequence element #" ++
        toString place ++ " to a sequence"))
    | some [k, v] =>
      if k.isKey then pairsToMap (place + 1) (es.insert k v) xs
      else .error (.wrongKind ("unhashable type: '" ++ k.kind ++ "'"))
    | some ms => .error (.badValue ("dictionary update sequence element #" ++ toString place ++
        " has length " ++ toString ms.length ++ "; 2 is required"))

/-- A map: as it is, or made of pairs; a value that does not hold is an empty one. -/
def toEntries (v : Value) : Except Fault Entries :=
  if !v.holds then .ok []
  else
    match v.entries? with
    | some es => .ok es
    | none => do pairsToMap 0 [] (← v.members)

end Value

end SecurityScan
