import SecurityScan.Template.Method

/-!
# What filters share

The form in which filters take texts and keys of items, and the entries that they ask maps for.
-/

namespace SecurityScan.Template.Filter

open Render

/-- An item as a text; one that is a text already stays. -/
def asText (i : Item) : Render Item := do
  if i.text?.isSome then return i else return .text (← i.display)

/-- A text without its capital letters; any other item as it is. -/
def uncased (i : Item) : Item :=
  match i.text? with
  | some s => i.withText (Text.lower s)
  | none => i

/-- What an item is compared by: what it comes to by some steps, its case left out if asked for. -/
def keyOf (steps : List Item) (isCased : Bool) (i : Item) : Render Item := do
  let key ← i.lookInto steps none
  return if isCased then key else uncased key

/-- The steps of an argument that may be left out. -/
def stepsIn (b : Bound) : Render (List Item) := Item.stepsOf (b.getD "attribute" .null)

/-- Whether an argument that may be left out holds. -/
def flag (b : Bound) (name : String) (default : Bool) : Render Bool :=
  match b.get? name with
  | some i => i.holds
  | none => pure default

/-- An argument that may be left out, or be null. -/
def option? (b : Bound) (name : String) : Option Item :=
  match b.get? name with
  | none | some .null => none
  | some i => some i

/-- Whether what is put out is escaped. -/
def escapes : Render Bool := do return (← getThe World).escapes

/-- Text as markup where what is put out is escaped. -/
def asMarkup (s : String) : Render Item := do return if ← escapes then .markup s else .text s

/-- The two members of an item that has two. -/
def bothOf (i : Item) : Render (Item × Item) := do
  match ← i.members with
  | [a, b] => return (a, b)
  | [] | [_] => throw (.badValue "not enough values to unpack (expected 2)")
  | _ => throw (.badValue "too many values to unpack (expected 2)")

/-- What an item gives when it is asked for its entries. -/
def itemsOf (i : Item) : Render (List Item) := do
  match ← i.attribute? "items" with
  | some f => (← call f .none).members
  | none => throw (.noField "the item has no 'items'")

end SecurityScan.Template.Filter
