import SecurityScan.Template.Field

/-!
# What names stand for

The names that a template is given stand for values, or for parts of what other names stand for. A
part is the same for all names that it is known by: what one of them changes, the others see.
-/

namespace SecurityScan.Template

inductive Meaning
  | value (v : Value)
  /-- What is reached by some keys, one after the other. -/
  | part (of : String) (keys : List String)
  /-- A list of those members that stand at some places. -/
  | chosen (of : String) (keys : List String) (places : List Nat)

namespace Item

open Render

mutual

/-- A value, its collections put into cells. -/
def ofValue : Value → Render Item
  | .null => return .null
  | .bool b => return .bool b
  | .int n => return .int n
  | .float x => return .float x
  | .str s => return .text s
  | .list xs => do newList (← ofValues xs)
  | .tuple xs => do return .tuple (← ofValues xs)
  | .map es => do newMap (← ofEntries es)
  | .set xs => do newItem (.set (← ofValues xs))
  | .marked _ v => ofValue v
  | v => return .value v

def ofValues : List Value → Render (List Item)
  | [] => return []
  | v :: vs => do return (← ofValue v) :: (← ofValues vs)

def ofEntries : List (Value × Value) → Render (List (Item × Item))
  | [] => return []
  | (k, v) :: es => do return (← ofValue k, ← ofValue v) :: (← ofEntries es)

end

/-- What is reached from one of some names by keys. -/
def reached (known : List (String × Item)) (name : String) (keys : List String) : Render Item :=
  ((known.lookup name).getD .undefined).lookInto (keys.map .text) none

/-- What names stand for, each of which may refer to those before it. -/
def ofMeanings (known : List (String × Item)) :
    List (String × Meaning) → Render (List (String × Item))
  | [] => return known.reverse
  | (name, m) :: more => do
    let i ← match m with
      | .value v => ofValue v
      | .part name keys => reached known name keys
      | .chosen name keys places => do
        let members ← (← reached known name keys).members
        newList (places.filterMap fun n => members[n]?)
    ofMeanings ((name, i) :: known) more

end Item

end SecurityScan.Template
