import SecurityScan.Value.Basic

/-!
# Grammars of commands

The switches and operands that a command takes, with the fields that they fill.
-/

namespace SecurityScan.CommandLine

/-- What a switch does. -/
inductive Effect
  /-- Shows the help of the command. -/
  | help
  /-- Sets its field. -/
  | flag
  /-- Sets its field to a text. -/
  | constant (text : String)
  /-- Takes a text, one of the choices if there are any. -/
  | text (choices : List String)
  /-- Takes a whole number. -/
  | whole

/-- Whether a switch takes a value. -/
def Effect.takesValue : Effect → Bool
  | .text _ | .whole => true
  | _ => false

structure Switch where
  names : List String
  field : String
  effect : Effect
  /-- Whether it has to be given. -/
  isRequired : Bool := false
  /-- Names of the switches that it cannot be given with. -/
  rivals : List String := []

namespace Switch

/-- All names of a switch as one text. -/
def title (s : Switch) : String := "/".intercalate s.names

/-- The value of the field before any switch is read. -/
def initial (s : Switch) : Option Value :=
  match s.effect with
  | .help => none
  | .flag => some (.bool false)
  | _ => some .null

end Switch

/-- A command of the program. -/
structure Grammar where
  name : String
  /-- What messages call it. -/
  title : String
  switches : List Switch
  /-- The field of all words that are no switches, if the command takes any. -/
  operands : Option String
  /-- Fields with other values than their switches leave them with. -/
  usual : List (String × Value)
  usage : String
  /-- What the help says after the usage. -/
  details : String

namespace Grammar

def help (g : Grammar) : String := g.usage ++ "\n" ++ g.details

/-- Every name of a switch with its switch. -/
def named (g : Grammar) : List (String × Switch) :=
  g.switches.flatMap fun s => s.names.map fun n => (n, s)

def switch? (g : Grammar) (name : String) : Option Switch := g.named.lookup name

/-- The fields before any word is read. -/
def initial (g : Grammar) : Entries :=
  let fields := g.switches.filterMap fun s => s.initial.map fun v => (Value.str s.field, v)
  let start : Entries := Entries.insertAll [(.str "command", .str g.name)] fields
  g.usual.foldl (fun es f => es.setField f.1 f.2) start

end Grammar

end SecurityScan.CommandLine
