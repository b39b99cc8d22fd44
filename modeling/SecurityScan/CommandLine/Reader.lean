import SecurityScan.CommandLine.Grammar
import SecurityScan.Fault
import SecurityScan.Value.Display

/-!
# Reading command lines

The words of a command are told apart first: switches, which may be cut short, and operands. Then
they are taken in order. Reading ends with the fields of the command, with its help, or with the
reason why the words are refused.
-/

namespace SecurityScan.CommandLine

/-- Why there are no fields. -/
inductive Stop
  | help (g : Grammar)
  /-- The words are refused by a command, with what its message says. -/
  | refused (title usage message : String)

/-- A value that is written in one word with its switch, after a sign or not. -/
structure Attached where
  afterSign : Bool
  text : String

/-- What one word is. -/
inductive Word
  | operand (s : String)
  /-- After this all words are operands. -/
  | dashes
  | unknown (s : String)
  | switch (s : Switch) (name : String) (value : Option Attached)

namespace Word

def raw : Word → String
  | .operand s | .unknown s => s
  | .dashes => "--"
  | .switch _ name _ => name

def isSwitch : Word → Bool
  | .unknown _ | .switch .. => true
  | _ => false

end Word

namespace Grammar

def refuse (g : Grammar) (message : String) : Stop := .refused g.title g.usage message

/-- A message about one switch. -/
def refuseSwitch (g : Grammar) (s : Switch) (message : String) : Stop :=
  g.refuse ("argument " ++ s.title ++ ": " ++ message)

/-! ## Telling words apart -/

/-- A word before its first sign, and the value after it. -/
def splitSign (s : String) : String × Option Attached :=
  let cs := s.toList
  if cs.contains '=' then
    (String.ofList (cs.takeWhile (· != '=')),
      some ⟨true, String.ofList ((cs.dropWhile (· != '=')).drop 1)⟩)
  else (s, none)

/-- The switches that a word can be short for. -/
def candidates (g : Grammar) (word : String) : List (Switch × String × Option Attached) :=
  if Text.startsWith word "--" then
    let (start, value) := splitSign word
    (g.named.filter fun n => Text.startsWith n.1 start).map fun (n, s) => (s, n, value)
  else
    let short := String.ofList (word.toList.take 2)
    g.named.filterMap fun (n, s) =>
      if n == short then some (s, n, some ⟨false, String.ofList (word.toList.drop 2)⟩)
      else if Text.startsWith n word then some (s, n, none)
      else none

/-- Whether a word is a number with a minus sign. -/
def isNegativeNumber (word : String) : Bool :=
  let isDigit (c : Char) : Bool := (Text.digitValue? c).isSome
  let cs := word.toList.drop 1
  let cs := if cs.getLast? == some '\n' then cs.dropLast else cs
  let fraction := (cs.dropWhile isDigit).drop 1
  match cs.dropWhile isDigit with
  | [] => !cs.isEmpty
  | c :: _ => c == '.' && !fraction.isEmpty && fraction.all isDigit

/-- What a word is. One that could be short for several switches is refused. -/
def classify (g : Grammar) (word : String) : Except Stop Word :=
  if !Text.startsWith word "-" then .ok (.operand word)
  else
    match g.switch? word with
    | some s => .ok (.switch s word none)
    | none =>
      if word == "-" then .ok (.operand word)
      else
        let (start, value) := splitSign word
        match value.bind fun _ => g.switch? start with
        | some s => .ok (.switch s start value)
        | none =>
          match g.candidates word with
          | [(s, name, value)] => .ok (.switch s name value)
          | [] =>
            if isNegativeNumber word || word.toList.contains ' ' then .ok (.operand word)
            else .ok (.unknown word)
          | many =>
            .error (g.refuse ("ambiguous option: " ++ word ++ " could match " ++
              commaSeparated (many.map fun c => c.2.1)))

def classifyAll (g : Grammar) : List String → Except Stop (List Word)
  | [] => .ok []
  | "--" :: rest => .ok (.dashes :: rest.map .operand)
  | s :: rest => do
    let w ← g.classify s
    return w :: (← classifyAll g rest)

/-! ## Taking switches -/

/-- What was read so far. -/
structure Progress where
  fields : Entries
  /-- The titles of the switches that were given. -/
  given : List String
  /-- Whether operands can still be taken. -/
  isOpen : Bool
  /-- The words that nothing takes. -/
  extras : List String

/-- The value of a switch. -/
def valueOf (g : Grammar) (s : Switch) (text : String) : Except Stop Value :=
  match s.effect with
  | .whole =>
    match Fault.wholeOf text with
    | .ok i => .ok (.int i)
    | .error _ => .error (g.refuseSwitch s ("invalid int value: " ++ Text.quoted text))
  | .text choices =>
    if choices.isEmpty || choices.contains text then .ok (.str text)
    else .error (g.refuseSwitch s ("invalid choice: " ++ Text.quoted text ++ " (choose from " ++
      commaSeparated (choices.map Text.quoted) ++ ")"))
  | .constant t => .ok (.str t)
  | _ => .ok (.bool true)

/-- Takes a switch with its value. -/
def takeSwitch (g : Grammar) (p : Progress) (s : Switch) (text : Option String) :
    Except Stop Progress := do
  match s.effect with
  | .help => throw (.help g)
  | _ =>
    let value ← g.valueOf s (text.getD "")
    match s.rivals.find? p.given.contains with
    | some rival => throw (g.refuseSwitch s ("not allowed with argument " ++ rival))
    | none =>
      return { p with fields := p.fields.setField s.field value, given := s.title :: p.given }

def takeSwitches (g : Grammar) (p : Progress) :
    List (Switch × Option String) → Except Stop Progress
  | [] => .ok p
  | (s, text) :: rest => do takeSwitches g (← g.takeSwitch p s text) rest

/-- The switches of one word, and what the words after it leave. -/
structure Unpacked where
  switches : List (Switch × Option String)
  extra : Option String
  rest : List Word

/-- The switches that are packed into one word; the last one may take its value from the next. -/
def unpack (g : Grammar) (fuel : Nat) (s : Switch) (name : String) (value : Option Attached)
    (rest : List Word) : Except Stop Unpacked :=
  match value, s.effect.takesValue with
  | none, false => .ok ⟨[(s, none)], none, rest⟩
  | none, true =>
    match rest with
    | .operand text :: rest => .ok ⟨[(s, some text)], none, rest⟩
    | _ => .error (g.refuseSwitch s "expected one argument")
  | some v, true => .ok ⟨[(s, some v.text)], none, rest⟩
  | some v, false =>
    let refused : Except Stop Unpacked :=
      .error (g.refuseSwitch s ("ignored explicit argument " ++ Text.quoted v.text))
    match fuel, v.text.toList with
    | fuel + 1, c :: cs =>
      if Text.startsWith name "--" || v.afterSign || c == '-' then refused
      else
        let next := String.ofList ['-', c]
        match g.switch? next with
        | none => .ok ⟨[(s, none)], some ("-" ++ v.text), rest⟩
        | some s' => do
          let value := match cs with
            | [] => none
            | '=' :: cs => some ⟨true, String.ofList cs⟩
            | cs => some ⟨false, String.ofList cs⟩
          let more ← g.unpack fuel s' next value rest
          return { more with switches := (s, none) :: more.switches }
    | _, _ => refused

/-! ## Taking words -/

/-- Operands as a field keeps them, without the first word that only ends switches. -/
def operandTexts (ws : List Word) : List Value :=
  let dashes (w : Word) : Bool := w.raw == "--"
  let before := ws.takeWhile (fun w => !dashes w)
  (before ++ (ws.dropWhile (fun w => !dashes w)).drop 1).map fun w => .str w.raw

/-- Takes a run of words that are no switches. -/
def takeOperands (g : Grammar) (p : Progress) (ws : List Word) : Progress :=
  match g.operands, p.isOpen with
  | some field, true =>
    { p with fields := p.fields.setField field (.list (operandTexts ws)), isOpen := false }
  | _, _ => { p with extras := p.extras ++ ws.map Word.raw }

/-- Takes all words, `run` being those before them that are no switches, reversed. -/
def takeWords (g : Grammar) (fuel : Nat) (p : Progress) (run : List Word) (ws : List Word) :
    Except Stop Progress :=
  let settled := if run.isEmpty then p else g.takeOperands p run.reverse
  match fuel, ws with
  | 0, _ => .ok settled
  | _, [] =>
    if run.isEmpty && p.isOpen then .ok (g.takeOperands p []) else .ok settled
  | fuel + 1, .unknown s :: rest =>
    g.takeWords fuel { settled with extras := settled.extras ++ [s] } [] rest
  | fuel + 1, .switch s name value :: rest => do
    let u ← g.unpack ((value.map (·.text.length)).getD 0 + 1) s name value rest
    let p ← g.takeSwitches { settled with extras := settled.extras ++ u.extra.toList } u.switches
    g.takeWords fuel p [] u.rest
  | fuel + 1, w :: rest => g.takeWords fuel p (w :: run) rest

/-- The fields that the words of a command fill, and the words that are left over. -/
def read (g : Grammar) (words : List String) : Except Stop (Entries × List String) := do
  let ws ← g.classifyAll words
  let p ← g.takeWords (ws.length + 1) ⟨g.initial, [], true, []⟩ [] ws
  let missing := g.switches.filter fun s => s.isRequired && !p.given.contains s.title
  if missing.isEmpty then return (p.fields, p.extras)
  else
    throw (g.refuse ("the following arguments are required: " ++
      commaSeparated (missing.map Switch.title)))

end Grammar

end SecurityScan.CommandLine
