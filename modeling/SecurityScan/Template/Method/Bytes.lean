import SecurityScan.Template.Method.Text

/-!
# Operations of bytes

What bytes can be asked to do. Most of it is what texts do too, with the ASCII characters that
bytes stand for; all other bytes are held meanwhile by characters that have no properties.
-/

namespace SecurityScan.Template.Method

open Render

/-! ## Bytes as text -/

/-- How far above a byte stands the character that holds it. -/
def byteShift : Nat := 0xF0000

/-- The character that holds a byte; `isHeld` says which bytes are not what they stand for. -/
def charOfByte (isHeld : UInt8 → Bool) (b : UInt8) : Char :=
  if isHeld b then Char.ofNat (byteShift + b.toNat) else Char.ofNat b.toNat

/-- The byte that a character holds. -/
def byteOfChar (c : Char) : UInt8 := UInt8.ofNat (c.toNat % 256)

/-- Bytes that texts would take for blanks or for characters. -/
def isNoAscii (b : UInt8) : Bool := 0x80 ≤ b || (0x1C ≤ b && b < 0x20)

/-- Bytes that end no line, beside those. -/
def endsNoLine (b : UInt8) : Bool := isNoAscii b || b == 0x0B || b == 0x0C

/-- An argument of an operation of bytes as the one of texts takes it. -/
def heldArgument (i : Item) : Render Item := do
  let held (bs : Text.Utf8.Bytes) : Item := ofChars (bs.map (charOfByte isNoAscii))
  match i with
  | .value (.bytes bs) => return held bs
  | .text _ | .markup _ => wrongKind "a bytes-like object is required, not 'str'"
  | .tuple items =>
    return .tuple (← items.mapM fun i =>
      match i with
      | .value (.bytes bs) => pure (held bs)
      | _ => wrongKind "a bytes-like object is required")
  | i => return i

/-- What an operation of texts comes to, as bytes. -/
def released (i : Item) : Render Item := do
  let free (i : Item) : Item :=
    match i.text? with
    | some s => Item.ofBytes (s.toList.map byteOfChar)
    | none => i
  match i with
  | .tuple items => return .tuple (items.map free)
  | .cell _ =>
    match ← i.sequence? with
    | some items => newList (items.map free)
    | none => return i
  | i => return free i

/-- Operations that look for a part, which may be a single byte given as a number. -/
def looking : List String := ["count", "find", "index", "rfind", "rindex"]

/-- The part that is looked for. -/
def soughtBytes (i : Item) : Render Item := do
  match i.whole? with
  | some n =>
    if n < 0 || 256 ≤ n then throw (.badValue "byte must be in range(0, 256)")
    return Item.ofBytes [UInt8.ofNat n.toNat]
  | none => return i

/-! ## Hexadecimal form -/

/-- The digits of bytes, with a separator between groups of so many bytes, which are counted from
the back unless the number is negative. -/
def hexOf (bs : Text.Utf8.Bytes) (sep : List Char) (group : Int) : List Char :=
  let size := group.natAbs
  let parts := bs.zipIdx.map fun (b, i) =>
    let isFirst := if group < 0 then i % size == 0 else (bs.length - i) % size == 0
    (if i != 0 && size != 0 && isFirst then sep else []) ++ Text.hexDigits 2 b.toNat
  parts.flatten

def hexForm (bs : Text.Utf8.Bytes) (b : Bound) : Render Item := do
  let group ← smallWhole (b.getD "bytes_per_sep" (.int 1))
  match b.get? "sep" with
  | none => return ofChars (hexOf bs [] 0)
  | some i =>
    if (← i.length) != 1 then throw (.badValue "sep must be length 1.")
    let sep ← match i with
      | .value (.bytes sep) => pure (sep.map fun b => Char.ofNat b.toNat)
      | i => match i.text? with
        | some s => pure s.toList
        | none => wrongKind "sep must be str or bytes."
    if sep.any fun c => 0x80 ≤ c.toNat then throw (.badValue "sep must be ASCII.")
    return ofChars (hexOf bs sep group)

/-! ## All of them -/

/-- What bytes come to when they are asked for an operation. -/
def ofBytes (bs : Text.Utf8.Bytes) (name : String) (g : Given) : Render Item := do
  let asText (isHeld : UInt8 → Bool) (g : Given) : Render Item := do
    let s := String.ofList (bs.map (charOfByte isHeld))
    let positional ← g.positional.mapM heldArgument
    let named ← g.named.mapM fun (k, i) => do return (k, ← heldArgument i)
    released (← ofText s name ⟨positional, named⟩)
  match name with
  | "decode" =>
    let (e, how) ← encodingOf (← g.bind [] ["encoding", "errors"])
    match e.decode how bs with
    | .ok s => return .text s
    | .error p => encodingFault (.template .undecodable) p
  | "hex" => hexForm bs (← g.bind [] ["sep", "bytes_per_sep"])
  | "join" =>
    let parts ← (← ((← g.inOrder 1 1).headD .undefined).members).mapM fun i =>
      match i with
      | .value (.bytes part) => pure part
      | _ => wrongKind "sequence item: expected a bytes-like object"
    return Item.ofBytes (bs.intercalate parts)
  | "translate" | "maketrans" | "fromhex" => problem .unsupported
  | "splitlines" => asText endsNoLine g
  | name =>
    if looking.contains name then
      let positional ← match g.positional with
        | i :: more => do pure ((← soughtBytes i) :: more)
        | [] => pure []
      try asText isNoAscii ⟨positional, g.named⟩
      catch f =>
        match f with
        | .badValue "substring not found" => throw (.badValue "subsection not found")
        | f => throw f
    else asText isNoAscii g

end SecurityScan.Template.Method
