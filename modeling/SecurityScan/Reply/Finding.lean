import SecurityScan.Report.Count
import SecurityScan.Text.Line

/-!
# Findings of a reply

A reply is a map with a list of findings under `security_risks`. Each finding is a map with a
type, a location, details and one of the severities, and maybe a snippet of code; it may have more
keys, which it keeps. What does not fit is counted.
-/

namespace SecurityScan

/-! ## Plain values -/

namespace Value

/-- A key as the name in a plain map. -/
def plainKey : Value → Value
  | .bool b => .str (if b then "true" else "false")
  | .bytes bs =>
    match Text.Utf8.decode bs with
    | .ok s => .str s
    | .error _ => .str ""
  | .date d => .str d.isoText
  | .datetime t => .str (t.isoText "T")
  | .str s => .str s
  | k => .str k.display

mutual

/-- A value of the kinds that JSON has. A number that is not finite becomes null. -/
def plain : Value → Value
  | .float .nan | .float (.infinite _) => .null
  | .list xs | .tuple xs | .set xs => .list (plainAll xs)
  | .map es => .map (plainEntries es)
  | .date d => .str d.isoText
  | .datetime t => .str (t.isoText "T")
  | .bytes bs =>
    match Text.Utf8.decode bs with
    | .ok s => .str s
    | .error _ => .str ""
  | v => v

def plainAll : List Value → List Value
  | [] => []
  | x :: xs => plain x :: plainAll xs

def plainEntries : List (Value × Value) → List (Value × Value)
  | [] => []
  | (k, v) :: es => (plainKey k, plain v) :: plainEntries es

end

mutual

/-- How deep a value is nested, one for a value that holds no other. -/
def depth : Value → Nat
  | .list xs | .tuple xs | .set xs => depthAll xs + 1
  | .map es => depthEntries es + 1
  | _ => 1

def depthAll : List Value → Nat
  | [] => 0
  | x :: xs => max (depth x) (depthAll xs)

def depthEntries : List (Value × Value) → Nat
  | [] => 0
  | (_, v) :: es => max (depth v) (depthEntries es)

end

mutual

/-- Whether every key inside a value has a form as bytes. -/
def keysEncodable : Value → Bool
  | .list xs | .tuple xs | .set xs => allKeysEncodable xs
  | .map es => entryKeysEncodable es
  | _ => true

def allKeysEncodable : List Value → Bool
  | [] => true
  | x :: xs => keysEncodable x && allKeysEncodable xs

def entryKeysEncodable : List (Value × Value) → Bool
  | [] => true
  | (k, v) :: es => k.str?.all (!Text.hasLoneHalf ·) && keysEncodable v && entryKeysEncodable es

end

end Value

namespace Reply

/-- A value beside the keys that a reply has to have may be nested this deep. -/
def maxDepth : Nat := 255

/-- A value that fits, or how many misfits there are. -/
abbrev Checked (α : Type) := Except Nat α

namespace Checked

def ofOption {α : Type} : Option α → Checked α
  | some a => .ok a
  | none => .error 1

/-- Both values; the misfits of both are counted. -/
def both {α β : Type} : Checked α → Checked β → Checked (α × β)
  | .ok a, .ok b => .ok (a, b)
  | .ok _, .error n => .error n
  | .error m, .ok _ => .error m
  | .error m, .error n => .error (m + n)

/-- All values; the misfits of all are counted. -/
def all {α β : Type} (f : α → Checked β) : List α → Checked (List β)
  | [] => .ok []
  | x :: xs => (both (f x) (all f xs)).map fun (y, ys) => y :: ys

end Checked

/-- A text; octets that are UTF-8 count as one. -/
def textOf? : Value → Option String
  | .str s => some s
  | .bytes bs => (Text.Utf8.decode bs).toOption
  | _ => none

/-- A severity's name in any case, with space around it or not. -/
def severityOf? : Value → Option Severity
  | .str s => Severity.ofText? (Text.strip s)
  | _ => none

/-- A snippet may be missing or null. -/
def snippetOf? : Option Value → Option (Option String)
  | none | some .null => some none
  | some v => (textOf? v).map some

/-! ## Keys of one's own -/

/-- The keys that a finding has or may have. -/
def findingKeys : List String := ["type", "location", "details", "severity", "code_snippet"]

def envelopeKey : String := "security_risks"

/-- A key as a text that has a form as bytes. -/
def keyOf? (v : Value) : Option String := (textOf? v).filter fun s => !Text.hasLoneHalf s

/-- The entries under other keys; a key that is no text is a misfit. -/
def extras (known : List String) (es : Entries) : Checked Entries :=
  Checked.all (fun e => (Checked.ofOption (keyOf? e.1)).map fun k => (.str k, e.2))
    (es.filter fun e => !known.any fun k => e.1.same (.str k))

/-- Other entries as a reply keeps them: plain, and without those that are null. -/
def keptExtras (es : Entries) : Entries :=
  (es.filter fun e => !e.2.isNull).map fun e => (e.1, e.2.plain)

/-! ## The check -/

/-- A finding in its checked form, the known keys first. -/
def findingOf (v : Value) : Checked Entries :=
  match v with
  | .map es =>
    let field (name : String) := (Entries.field? es name).getD .null
    let text (name : String) := Checked.ofOption (textOf? (field name))
    let place := Checked.both (text "type") (text "location")
    let content := Checked.both (text "details") (Checked.ofOption (severityOf? (field "severity")))
    let snippet := Checked.ofOption (snippetOf? (Entries.field? es "code_snippet"))
    (Checked.both (Checked.both place content) (Checked.both snippet (extras findingKeys es))).map
      fun (((type, location), (details, severity)), (snippet, more)) =>
        [(.str "type", .str type), (.str "location", .str location),
          (.str "details", .str details), (.str "severity", .str severity.name)] ++
        (match snippet with
          | some s => [(.str "code_snippet", .str s)]
          | none => []) ++
        more
  | _ => .error 1

/-- The findings of an envelope. -/
def findingsOf (v : Value) : Checked (List Entries) :=
  match v with
  | .list xs | .tuple xs | .set xs => Checked.all findingOf xs
  | _ => .error 1

/-- An envelope's findings and its other entries. -/
def envelopeOf (es : Entries) : Checked (List Entries × Entries) :=
  Checked.both (findingsOf ((Entries.field? es envelopeKey).getD .null)) (extras [envelopeKey] es)

/-- The entries of a finding as a reply keeps them. -/
def keptFinding (es : Entries) : Value :=
  let isKnown (e : Value × Value) := findingKeys.any fun k => e.1.same (.str k)
  .map (es.filter isKnown ++ keptExtras (es.filter fun e => !isKnown e))

/-- All other entries of a reply. -/
def otherEntries (findings : List Entries) (more : Entries) : Entries :=
  more ++ findings.flatMap fun es => es.filter fun e => !findingKeys.any fun k => e.1.same (.str k)

/-- An envelope in its checked form. What is nested too deep cannot be kept, nor can a map inside
that has a key without a form as bytes. -/
def checkedValue (findings : List Entries) (more : Entries) : Except Fault Value :=
  let others := otherEntries findings more
  if others.any fun e => !e.2.isNull && maxDepth < e.2.depth then
    .error (.badValue "Circular reference detected (depth exceeded)")
  else if others.any fun e => !e.2.keysEncodable then .error .unencodable
  else .ok (.map ((.str envelopeKey, .list (findings.map keptFinding)) :: keptExtras more))

end Reply

end SecurityScan
