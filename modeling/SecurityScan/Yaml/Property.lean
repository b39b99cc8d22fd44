import SecurityScan.Yaml.Cursor

/-!
# Properties and directives

The names of anchors, the tags of nodes and the directives before a document, each read at a
cursor that stands at its first character.
-/

namespace SecurityScan.Yaml

open Text (hexValue? isDigit)

/-- A tag as it is written: the handle that stands for a leading part, and the rest. -/
structure WrittenTag where
  handle : Option String
  suffix : String
deriving DecidableEq

inductive Directive
  | version (major : Nat)
  | tag (handle leading : String)
  | other
deriving DecidableEq

def isNameChar (c : Char) : Bool :=
  isDigit c || ('A' ≤ c && c ≤ 'Z') || ('a' ≤ c && c ≤ 'z') || c == '-' || c == '_'

def isUriChar (c : Char) : Bool := isNameChar c || ";/?:@&=+$,.!~*'()[]".toList.contains c

/-- A name that is not empty. -/
def nonemptyName (c : Cursor) : Except Stop (String × Cursor) :=
  match c.takeWhile isNameChar with
  | ([], _) => .error .malformed
  | (name, c) => .ok (String.ofList name, c)

/-- The name of an anchor, or of an alias for one. -/
def anchorName (c : Cursor) : Except Stop (String × Cursor) := do
  let (name, c) ← nonemptyName c.next
  if isBlankOrEnd c.peek || "?:,]\x7d%@`".toList.contains c.peek then return (name, c)
  else throw .malformed

/-! ## Tags -/

/-- One octet written as two hexadecimal digits after a percent sign. -/
def escapedOctet? (c : Cursor) : Option UInt8 := do
  return ((← hexValue? (c.peekAt 1)) * 16 + (← hexValue? (c.peekAt 2))).toUInt8

def escapedOctets : Nat → Cursor → Except Stop (List UInt8 × Cursor)
  | 0, _ => .error .malformed
  | fuel + 1, c =>
    if c.peek == '%' then
      match escapedOctet? c with
      | none => .error .malformed
      | some b => do
        let (bs, c) ← escapedOctets fuel (c.forward 3)
        return (b :: bs, c)
    else .ok ([], c)

/-- The characters of a resource name, its escapes undone. -/
def uriChars : Nat → Cursor → Except Stop (List Char × Cursor)
  | 0, _ => .error .malformed
  | fuel + 1, c =>
    let (start, c) := c.takeWhile isUriChar
    if c.peek == '%' then do
      let (octets, c) ← escapedOctets fuel c
      match Text.Utf8.decode octets with
      | .error _ => throw .malformed
      | .ok cs =>
        let (more, c) ← uriChars fuel c
        return (start ++ cs.toList ++ more, c)
    else .ok (start, c)

/-- A resource name that is not empty. -/
def uri (fuel : Nat) (c : Cursor) : Except Stop (String × Cursor) := do
  match ← uriChars fuel c with
  | ([], _) => throw .malformed
  | (cs, c) => return (String.ofList cs, c)

/-- A handle: `!`, or a name between two of them. -/
def tagHandle (c : Cursor) : Except Stop (String × Cursor) :=
  if c.peek != '!' then .error .malformed
  else if c.peekAt 1 == ' ' then .ok ("!", c.next)
  else
    let (name, after) := c.next.takeWhile isNameChar
    if after.peek == '!' then .ok (String.ofList ('!' :: name ++ ['!']), after.next)
    else .error .malformed

/-- Whether a second `!` follows before the tag ends. -/
def hasNamedHandle (c : Cursor) : Bool :=
  (c.next.rest.takeWhile fun ch => !isSpaceOrEnd ch).contains '!'

def tagText (fuel : Nat) (c : Cursor) : Except Stop (WrittenTag × Cursor) := do
  let (tag, c) ←
    if c.peekAt 1 == '<' then do
      let (suffix, c) ← uri fuel (c.forward 2)
      if c.peek == '>' then pure (WrittenTag.mk none suffix, c.next) else throw .malformed
    else if isBlankOrEnd (c.peekAt 1) then pure (WrittenTag.mk none "!", c.next)
    else do
      let (handle, c) ← if hasNamedHandle c then tagHandle c else pure ("!", c.next)
      let (suffix, c) ← uri fuel c
      pure (WrittenTag.mk (some handle) suffix, c)
  if isSpaceOrEnd c.peek then return (tag, c) else throw .malformed

/-! ## Directives -/

/-- What may follow a directive on its line. -/
def directiveEnd (c : Cursor) : Except Stop Cursor :=
  let c := c.skipSpaces
  let c := if c.peek == '#' then c.skipLine else c
  if isBreakOrEnd c.peek then .ok c.lineBreak.2 else .error .malformed

def versionNumber (c : Cursor) : Except Stop (Nat × Cursor) :=
  match c.takeWhile isDigit with
  | ([], _) => .error .malformed
  | (digits, c) =>
    if Number.maxDigits < digits.length then .error (.fault (.tooManyDigits digits.length))
    else .ok (Double.digitsNat digits, c)

/-- A directive with its line. -/
def directive (fuel : Nat) (c : Cursor) : Except Stop (Directive × Cursor) := do
  let (name, c) ← nonemptyName c.next
  if !isSpaceOrEnd c.peek then throw .malformed
  if name == "YAML" then
    let (major, c) ← versionNumber c.skipSpaces
    if c.peek != '.' then throw .malformed
    let (_, c) ← versionNumber c.next
    if !isSpaceOrEnd c.peek then throw .malformed
    return (.version major, ← directiveEnd c)
  else if name == "TAG" then
    let (handle, c) ← tagHandle c.skipSpaces
    if c.peek != ' ' then throw .malformed
    let (leading, c) ← uri fuel c.skipSpaces
    if !isSpaceOrEnd c.peek then throw .malformed
    return (.tag handle leading, ← directiveEnd c)
  else return (.other, ← directiveEnd c.skipLine)

end SecurityScan.Yaml
