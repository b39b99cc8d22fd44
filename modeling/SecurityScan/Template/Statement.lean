import SecurityScan.Template.Expression

/-!
# Reading statements

A template is read to its end. A body goes up to the word that ends its statement.
-/

namespace SecurityScan.Template.Reader

/-! ## Parts of statements -/

/-- Expressions with commas between them, up to the end of the tag. -/
def printed (depth : Nat) : Reader (List Piece) := do
  let found ← repeated [] fun found => do
    if (← peek) == some (.closing .block) then return none
    else
      if !found.isEmpty then expect (.op ",")
      return some (.value (← expression depth true) :: found)
  return found.reverse

/-- The bindings of a scope. -/
def bindings (depth : Nat) : Reader (List (Target String × Expr String)) := do
  let found ← repeated [] fun found => do
    if (← peek) == some (.closing .block) then return none
    else
      if !found.isEmpty then expect (.op ",")
      let t ← target depth false []
      expect (.op "=")
      return some ((t, ← expression depth true) :: found)
  return found.reverse

/-- What a routine takes, in brackets; those that may be left out come last. -/
def parameters (depth : Nat) : Reader (List Parameter) := do
  expect (.op "(")
  let found ← repeated ([] : List Parameter) fun found => do
    if (← peek) == some (.op ")") then return none
    else
      if !found.isEmpty then expect (.op ",")
      let s ← plainName
      if ← take (.op "=") then return some ((s, some (← expression depth true)) :: found)
      else if found.any fun p => p.2.isSome then malformed
      else return some ((s, none) :: found)
  expect (.op ")")
  return found.reverse

/-- Whether two names follow one another, which are then taken. -/
def takeNames (a b : String) : Reader Bool := do
  if (← peek) == some (.name a) then
    if (← lookBeyond) == some (.name b) then
      skip
      skip
      return true
    else return false
  else return false

/-- Whether another template is to know the names of this one, if that is said. -/
def takeContext : Reader Bool := do
  if ← takeNames "with" "context" then return true else takeNames "without" "context"

/-- The names that a statement takes from another template, each with the name it gets. -/
def imported : Reader (List String) := do
  let (found, _) ← repeated ([], true) fun (found, goesOn) => do
    if !goesOn then return none
    else
      if !found.isEmpty then expect (.op ",")
      if ← takeContext then return some (found, false)
      else
        let s ← plainName
        if s.startsWith "_" then malformed
        let s ← if ← take (.name "as") then plainName else pure s
        if ← takeContext then return some (s :: found, false)
        else return some (s :: found, (← peek) == some (.op ","))
  return found.reverse

/-- Whether a body has blanks and comments only. -/
def isBlankBody (ss : List Statement) : Bool :=
  ss.all fun
    | .output pieces => pieces.all fun
      | .data s => s.toList.all Text.isBlank
      | .value _ => false
    | _ => false

/-! ## Statements -/

mutual

/-- The body of a statement, and the word that ended it. -/
def body (depth : Nat) (ends : List String) : Reader (List Statement × String) := do
  match depth with
  | 0 => tooDeep
  | depth + 1 =>
    let _ ← take (.op ":")
    expect (.closing .block)
    let ss ← statements depth ends
    return (ss, ← name)

/-- Statements up to one of some words, or up to the end of the template. -/
def statements (depth : Nat) (ends : List String) : Reader (List Statement) := do
  match depth with
  | 0 => tooDeep
  | depth + 1 =>
    let flushed (found : List Statement) (pieces : List Piece) :=
      if pieces.isEmpty then found else .output pieces.reverse :: found
    let (found, pieces, _) ← repeated ([], [], true) fun (found, pieces, goesOn) => do
      if !goesOn then return none
      else
        match ← peek with
        | none => return none
        | some (.data s) =>
          skip
          return some (found, .data s :: pieces, true)
        | some (.opening .output) =>
          skip
          let e ← tuple depth true false []
          expect (.closing .output)
          return some (found, .value e :: pieces, true)
        | some (.opening .block) =>
          let found := flushed found pieces
          skip
          let stops := match ← peek with
            | some (.name s) => ends.contains s
            | _ => false
          if stops then return some (found, [], false)
          else
            let s ← statement depth
            expect (.closing .block)
            return some (s :: found, [], true)
        | _ => malformed
    return (flushed found pieces).reverse

/-- The statement that a tag's first word begins, up to the end of its last tag. -/
def statement (depth : Nat) : Reader Statement := do
  match depth with
  | 0 => tooDeep
  | depth + 1 => begunBy depth (← name)

/-- What a word begins. -/
def begunBy (depth : Nat) (word : String) : Reader Statement := do
  match depth with
  | 0 => tooDeep
  | depth + 1 =>
    match word with
    | "if" =>
      let branch : Reader ((Expr String × List Statement) × String) := do
        let test ← tuple depth false false []
        let (ss, stop) ← body depth ["elif", "else", "endif"]
        return ((test, ss), stop)
      let (first, stop) ← branch
      let (found, stop) ← repeated ([first], stop) fun (found, stop) => do
        if stop == "elif" then
          let (next, stop) ← branch
          return some (next :: found, stop)
        else return none
      let otherwise ← if stop == "else" then Prod.fst <$> body depth ["endif"] else pure []
      return .choose found.reverse otherwise
    | "for" =>
      let t ← target depth false ["in"]
      expect (.name "in")
      let members ← tuple depth false false ["recursive"]
      let test ← if ← take (.name "if") then some <$> expression depth true else pure none
      let recursive ← take (.name "recursive")
      let (ss, stop) ← body depth ["endfor", "else"]
      let otherwise ← if stop == "else" then Prod.fst <$> body depth ["endfor"] else pure []
      return .loop t members test recursive ss otherwise
    | "set" =>
      let t ← target depth true []
      if ← take (.op "=") then return .assign t (← tuple depth true false [])
      else
        let filter ←
          if (← peek) == some (.op "|") then some <$> filters depth .captured false
          else pure none
        let (ss, _) ← body depth ["endset"]
        return .capture t filter ss
    | "with" =>
      let bs ← bindings depth
      let (ss, _) ← body depth ["endwith"]
      return .scope bs ss
    | "filter" =>
      let e ← filters depth .captured true
      let (ss, _) ← body depth ["endfilter"]
      return .filtered e ss
    | "autoescape" =>
      let e ← expression depth true
      let (ss, _) ← body depth ["endautoescape"]
      return .escaping e ss
    | "block" =>
      let s ← name
      let isScoped ← take (.name "scoped")
      let isRequired ← take (.name "required")
      let (ss, _) ← body depth ["endblock"]
      if isRequired && !isBlankBody ss then malformed
      let _ ← take (.name s)
      return .block s isScoped isRequired ss
    | "macro" =>
      let s ← plainName
      let ps ← parameters depth
      let (ss, _) ← body depth ["endmacro"]
      return .define s ps ss
    | "call" =>
      let ps ← if (← peek) == some (.op "(") then parameters depth else pure []
      match ← expression depth true with
      | .call f a =>
        let (ss, _) ← body depth ["endcall"]
        return .calling ps f a ss
      | _ => malformed
    | "print" => return .output (← printed depth)
    | "extends" => return .elsewhere .extend (← expression depth true)
    | "include" =>
      let e ← expression depth true
      let ignoreMissing ← takeNames "ignore" "missing"
      let _ ← takeContext
      return .elsewhere (.include ignoreMissing) e
    | "import" =>
      let e ← expression depth true
      expect (.name "as")
      let s ← plainName
      let _ ← takeContext
      return .elsewhere (.import [s]) e
    | "from" =>
      let e ← expression depth true
      expect (.name "import")
      return .elsewhere (.import (← imported)) e
    | _ => malformed

end

/-- The statements of a whole template. -/
def template : Reader (List Statement) := do
  let ss ← statements maxDepth []
  match ← peek with
  | none => return ss
  | some _ => malformed

/-- The statements that a text is read as. -/
def statementsOf (source : String) : Except Defect (List Statement) :=
  template.run' (Token.read source)

end SecurityScan.Template.Reader
