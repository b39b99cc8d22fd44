import SecurityScan.Template.Filter.Collection
import SecurityScan.Template.Filter.Number
import SecurityScan.Template.Filter.Text
import SecurityScan.Template.Test

/-!
# Filters

What a template can make of an item by name.
-/

namespace SecurityScan.Template.Filter

open Render

/-- The filters that use other filters or tests, or chance, and so wait for a rendering. -/
def waiting : List String := ["map", "random", "reject", "rejectattr", "select", "selectattr"]

def names : List String :=
  ["abs", "attr", "batch", "capitalize", "center", "count", "d", "default", "dictsort", "e",
    "escape", "filesizeformat", "first", "float", "forceescape", "format", "groupby", "indent",
    "int", "items", "join", "last", "length", "list", "lower", "max", "min", "pprint", "replace",
    "reverse", "round", "safe", "slice", "sort", "string", "striptags", "sum", "title", "tojson",
    "trim", "truncate", "unique", "upper", "urlencode", "urlize", "wordcount", "wordwrap",
    "xmlattr"] ++ waiting

def isKnown (name : String) : Bool := names.contains name

/-- What a filter makes of an item. -/
def apply (name : String) (i : Item) (g : Given) : Render Item :=
  match (ofText? name i g).or ((ofNumber? name i g).or (ofCollection? name i g)) with
  | some r => r
  | none => problem .refused

/-- What a filter makes of an item, the filter's name being an item itself. -/
def applyNamed (name i : Item) (g : Given) : Render Item := do
  name.needKey
  match name.text? with
  | some s => apply s i g
  | none => problem .refused

/-- Whether an item passes a test. -/
def passes (name : String) (i : Item) (g : Given) : Render Bool :=
  if Test.isKnown name then Test.holds isKnown name i g else problem .refused

/-- Whether an item passes a test, the test's name being an item itself. -/
def passesNamed (name i : Item) (g : Given) : Render Bool := do
  name.needKey
  match name.text? with
  | some s => passes s i g
  | none => problem .refused

end SecurityScan.Template.Filter
