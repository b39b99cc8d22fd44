import SecurityScan.Template.Token

/-!
# Reading expressions

Each level of precedence has a reader of its own, loosest first. A reader that is called from
another one stands one level deeper, and the levels are limited, so an expression can stand in
brackets only so deep.
-/

namespace SecurityScan.Template

abbrev Reader := StateT (List Token) (Except Defect)

namespace Reader

/-- How deep readers may call one another. -/
def maxDepth : Nat := 970

def malformed {α : Type} : Reader α := throw .malformed

def tooDeep {α : Type} : Reader α := throw (.fault .tooDeep)

/-! ## Single tokens -/

/-- The next token, none at the end. -/
def peek : Reader (Option Token) := do
  match ← getThe (List Token) with
  | .invalid d :: _ => throw d
  | t :: _ => return some t
  | [] => return none

/-- The token after the next one. -/
def lookBeyond : Reader (Option Token) := do
  match ← getThe (List Token) with
  | _ :: .invalid d :: _ => throw d
  | _ :: t :: _ => return some t
  | _ => return none

def skip : Reader Unit := modifyThe (List Token) List.tail

/-- Whether the next token is the one given, which is then taken. -/
def take (t : Token) : Reader Bool := do
  if (← peek) == some t then
    skip
    return true
  else return false

def expect (t : Token) : Reader Unit := do
  if ← take t then return () else malformed

def name : Reader String := do
  match ← peek with
  | some (.name s) =>
    skip
    return s
  | _ => malformed

/-- The operator that comes next, if it is one of a table. -/
def takeOf {α : Type} (table : List (String × α)) : Reader (Option α) := do
  match ← peek with
  | some (.op s) =>
    match table.lookup s with
    | some x =>
      skip
      return some x
    | none => return none
  | _ => return none

/-! ## Repetition -/

/-- Goes on from a result as long as `step` finds more, at most `fuel` times. -/
def goOn {α : Type} (step : α → Reader (Option α)) : Nat → α → Reader α
  | 0, a => return a
  | fuel + 1, a => do
    match ← step a with
    | some b => goOn step fuel b
    | none => return a

/-- Goes on from a result as long as `step`, which takes a token, finds more. -/
def repeated {α : Type} (a : α) (step : α → Reader (Option α)) : Reader α := do
  goOn step ((← getThe (List Token)).length + 1) a

/-- What `read` finds up to the token `stop`, which is taken, with commas in between and maybe
after the last one. -/
def listed {α : Type} (stop : Token) (read : Reader α) : Reader (List α) := do
  let found ← repeated [] fun found => do
    if (← peek) == some stop then return none
    else
      if !found.isEmpty then expect (.op ",")
      if (← peek) == some stop then return none
      else return some ((← read) :: found)
  expect stop
  return found.reverse

/-- The texts that stand next to one another. -/
def adjacentTexts : Reader String :=
  repeated "" fun s => do
    match ← peek with
    | some (.text t) =>
      skip
      return some (s ++ t)
    | _ => return none

/-- A name with parts after dots. -/
def dottedName : Reader String := do
  repeated (← name) fun s => do
    if ← take (.op ".") then return some (s ++ "." ++ (← name)) else return none

/-! ## Words -/

/-- The constants that names stand for. -/
def constantOf? : String → Option Constant
  | "true" | "True" => some (.bool true)
  | "false" | "False" => some (.bool false)
  | "none" | "None" => some .null
  | _ => none

def comparisons : List (String × Comparison) :=
  [("==", .eq), ("!=", .ne), ("<", .lt), ("<=", .le), (">", .gt), (">=", .ge)]

/-- A comparison that is written as a sign or as words. -/
def comparisonSign : Reader (Option Comparison) := do
  match ← takeOf comparisons with
  | some c => return some c
  | none =>
    if ← take (.name "in") then return some .isIn
    else if (← peek) == some (.name "not") then
      if (← lookBeyond) == some (.name "in") then
        skip
        skip
        return some .notIn
      else return none
    else return none

/-- Whether a list of expressions ends here. -/
def atTupleEnd (ends : List String) : Reader Bool := do
  match ← peek with
  | some (.closing _) => return true
  | some (.op ")") => return true
  | some (.name s) => return ends.contains s
  | _ => return false

/-- Whether a test has an argument that stands without brackets. -/
def atTestArgument : Reader Bool := do
  match ← peek with
  | some (.name s) => return !(["else", "or", "and"].contains s)
  | some (.text _) | some (.int _) | some (.float _) => return true
  | some (.op s) => return ["(", "[", "\x7b"].contains s
  | _ => return false

/-- A bound of a slice is missing where the next token is one of these. -/
def atBoundEnd : Reader Bool := do
  match ← peek with
  | some (.op s) => return s == "]" || s == ","
  | _ => return false

/-! ## Expressions -/

/-- The key of an item, or the bounds of a slice. -/
inductive Subscript
  | key (e : Expr String)
  | bounds (start stop step : Option (Expr String))

/-- What an owner has under some subscripts. -/
def Subscript.of (owner : Expr String) : List Subscript → Expr String
  | [.key e] => .item owner e
  | [.bounds a b c] => .slice owner a b c
  | subscripts =>
    let parts := subscripts.map fun
      | .key e => (false, [e])
      | .bounds a b c => (true, a.toList ++ b.toList ++ c.toList)
    let all := parts.flatMap (·.2)
    if parts.any (·.1) then .mixedSlice owner all else .item owner (.tuple all)

mutual

/-- An expression; with `cond`, one that may choose between two. -/
def expression (depth : Nat) (cond : Bool) : Reader (Expr String) := do
  match depth with
  | 0 => tooDeep
  | depth + 1 => if cond then choice depth else disjunction depth

def choice (depth : Nat) : Reader (Expr String) := do
  match depth with
  | 0 => tooDeep
  | depth + 1 =>
    repeated (← disjunction depth) fun yes => do
      if ← take (.name "if") then
        let test ← disjunction depth
        let no ← if ← take (.name "else") then some <$> choice depth else pure none
        return some (.choose test yes no)
      else return none

def disjunction (depth : Nat) : Reader (Expr String) := do
  match depth with
  | 0 => tooDeep
  | depth + 1 =>
    repeated (← conjunction depth) fun e => do
      if ← take (.name "or") then return some (.or e (← conjunction depth)) else return none

def conjunction (depth : Nat) : Reader (Expr String) := do
  match depth with
  | 0 => tooDeep
  | depth + 1 =>
    repeated (← negation depth) fun e => do
      if ← take (.name "and") then return some (.and e (← negation depth)) else return none

def negation (depth : Nat) : Reader (Expr String) := do
  match depth with
  | 0 => tooDeep
  | depth + 1 =>
    if ← take (.name "not") then return .not (← negation depth) else comparison depth

def comparison (depth : Nat) : Reader (Expr String) := do
  match depth with
  | 0 => tooDeep
  | depth + 1 =>
    let first ← sum depth
    let rest ← repeated [] fun found => do
      match ← comparisonSign with
      | some c => return some ((c, ← sum depth) :: found)
      | none => return none
    return if rest.isEmpty then first else .compare first rest.reverse

def sum (depth : Nat) : Reader (Expr String) := do
  match depth with
  | 0 => tooDeep
  | depth + 1 =>
    repeated (← concatenation depth) fun e => do
      match ← takeOf [("+", Operator.add), ("-", .sub)] with
      | some op => return some (.arith op e (← concatenation depth))
      | none => return none

def concatenation (depth : Nat) : Reader (Expr String) := do
  match depth with
  | 0 => tooDeep
  | depth + 1 =>
    let first ← product depth
    let rest ← repeated [] fun found => do
      if ← take (.op "~") then return some ((← product depth) :: found) else return none
    return if rest.isEmpty then first else .concat false (first :: rest.reverse)

def product (depth : Nat) : Reader (Expr String) := do
  match depth with
  | 0 => tooDeep
  | depth + 1 =>
    repeated (← power depth) fun e => do
      match ← takeOf [("*", Operator.mul), ("/", .div), ("//", .floorDiv), ("%", .mod)] with
      | some op => return some (.arith op e (← power depth))
      | none => return none

def power (depth : Nat) : Reader (Expr String) := do
  match depth with
  | 0 => tooDeep
  | depth + 1 =>
    repeated (← unary depth true) fun e => do
      if ← take (.op "**") then return some (.arith .pow e (← unary depth true)) else return none

/-- An operand with its sign and what follows it, filters only with `filters`. -/
def unary (depth : Nat) (filters : Bool) : Reader (Expr String) := do
  match depth with
  | 0 => tooDeep
  | depth + 1 =>
    let e ← match ← takeOf [("-", Expr.negate), ("+", .positive)] with
      | some f => f <$> unary depth false
      | none => primary depth
    let e ← postfixes depth e
    if filters then followed depth e else return e

def primary (depth : Nat) : Reader (Expr String) := do
  match depth with
  | 0 => tooDeep
  | depth + 1 =>
    match ← peek with
    | some (.name s) =>
      skip
      return match constantOf? s with
        | some c => .const c
        | none => .name s
    | some (.text _) => return .const (.text (← adjacentTexts))
    | some (.int i) =>
      skip
      return .const (.int i)
    | some (.float x) =>
      skip
      return .const (.float x)
    | some (.op "(") =>
      skip
      let e ← tuple depth true true []
      expect (.op ")")
      return e
    | some (.op "[") => list depth
    | some (.op "\x7b") => map depth
    | _ => malformed

/--
One expression, or several with commas between them. Where none is there, there have to be
`brackets` around it.
-/
def tuple (depth : Nat) (cond brackets : Bool) (ends : List String) : Reader (Expr String) := do
  match depth with
  | 0 => tooDeep
  | depth + 1 =>
    let (found, isTuple, _) ← repeated ([], false, true) fun (found, isTuple, goesOn) => do
      if !goesOn then return none
      else
        if !found.isEmpty then expect (.op ",")
        if ← atTupleEnd ends then return some (found, isTuple, false)
        else
          let found := (← member depth cond) :: found
          if (← peek) == some (.op ",") then return some (found, true, true)
          else return some (found, isTuple, false)
    match found, isTuple with
    | [e], false => return e
    | found, isTuple =>
      if isTuple || brackets then return .tuple found.reverse else malformed

/-- One expression of several. -/
def member (depth : Nat) (cond : Bool) : Reader (Expr String) := do
  match depth with
  | 0 => tooDeep
  | depth + 1 => expression depth cond

def list (depth : Nat) : Reader (Expr String) := do
  match depth with
  | 0 => tooDeep
  | depth + 1 =>
    expect (.op "[")
    return .list (← listed (.op "]") (expression depth true))

def map (depth : Nat) : Reader (Expr String) := do
  match depth with
  | 0 => tooDeep
  | depth + 1 =>
    expect (.op "\x7b")
    return .map (← listed (.op "\x7d") do
      let key ← expression depth true
      expect (.op ":")
      return (key, ← expression depth true))

/-- What follows an operand: fields, items and calls. -/
def postfixes (depth : Nat) (e : Expr String) : Reader (Expr String) := do
  match depth with
  | 0 => tooDeep
  | depth + 1 =>
    repeated e fun e => do
      match ← peek with
      | some (.op ".") | some (.op "[") => return some (← subscript depth e)
      | some (.op "(") => return some (← call depth e)
      | _ => return none

/-- The filters, tests and calls that follow an operand. -/
def followed (depth : Nat) (e : Expr String) : Reader (Expr String) := do
  match depth with
  | 0 => tooDeep
  | depth + 1 =>
    repeated e fun e => do
      match ← peek with
      | some (.op "|") => return some (← filters depth e false)
      | some (.name "is") => return some (← test depth e)
      | some (.op "(") => return some (← call depth e)
      | _ => return none

/-- A field after a dot, or what stands between brackets. -/
def subscript (depth : Nat) (e : Expr String) : Reader (Expr String) := do
  match depth with
  | 0 => tooDeep
  | depth + 1 =>
    if ← take (.op ".") then
      match ← peek with
      | some (.name s) =>
        skip
        return .field e s
      | some (.int i) =>
        skip
        return .item e (.const (.int i))
      | _ => malformed
    else
      expect (.op "[")
      let found ← repeated [] fun found => do
        if (← peek) == some (.op "]") then return none
        else
          if !found.isEmpty then expect (.op ",")
          return some ((← subscribed depth) :: found)
      expect (.op "]")
      return Subscript.of e found.reverse

/-- A key, or up to three bounds with colons between them. -/
def subscribed (depth : Nat) : Reader Subscript := do
  match depth with
  | 0 => tooDeep
  | depth + 1 =>
    let bound : Reader (Option (Expr String)) := do
      if ← atBoundEnd then return none else some <$> expression depth true
    let start ← if (← peek) == some (.op ":") then pure none else some <$> expression depth true
    if ← take (.op ":") then
      let stop ← if (← peek) == some (.op ":") then pure none else bound
      let step ← if ← take (.op ":") then bound else pure none
      return .bounds start stop step
    else
      match start with
      | some e => return .key e
      | none => malformed

def call (depth : Nat) (e : Expr String) : Reader (Expr String) := do
  match depth with
  | 0 => tooDeep
  | depth + 1 => return .call e (← arguments depth)

/-- Arguments between brackets: first those in order, then those by name. -/
def arguments (depth : Nat) : Reader (Arguments (Expr String)) := do
  match depth with
  | 0 => tooDeep
  | depth + 1 =>
    expect (.op "(")
    let (a, _) ← repeated (Arguments.none, true) fun (a, first) => do
      if (← peek) == some (.op ")") then return none
      else
        if !first then expect (.op ",")
        if (← peek) == some (.op ")") then return none
        else if (← peek) == some (.op "*") then
          if a.spread.isSome || a.spreadNamed.isSome then malformed
          skip
          return some ({ a with spread := some (← expression depth true) }, false)
        else if (← peek) == some (.op "**") then
          if a.spreadNamed.isSome then malformed
          skip
          return some ({ a with spreadNamed := some (← expression depth true) }, false)
        else
          match ← peek, ← lookBeyond with
          | some (.name s), some (.op "=") =>
            if a.spreadNamed.isSome then malformed
            skip
            skip
            let e ← expression depth true
            return some ({ a with named := a.named ++ [(s, e)] }, false)
          | _, _ =>
            if a.spread.isSome || a.spreadNamed.isSome || !a.named.isEmpty then malformed
            let e ← expression depth true
            return some ({ a with positional := a.positional ++ [e] }, false)
    expect (.op ")")
    return a

/-- One or more filters, the first of them without its sign where it stands `inline`. -/
def filters (depth : Nat) (e : Expr String) (inline : Bool) : Reader (Expr String) := do
  match depth with
  | 0 => tooDeep
  | depth + 1 =>
    let (e, _) ← repeated (e, inline) fun (e, inline) => do
      let goesOn ← if inline then pure true else take (.op "|")
      if goesOn then
        let s ← dottedName
        let a ← if (← peek) == some (.op "(") then arguments depth else pure .none
        return some (.filter e s a, false)
      else return none
    return e

/-- A test, its first word being the next token. -/
def test (depth : Nat) (e : Expr String) : Reader (Expr String) := do
  match depth with
  | 0 => tooDeep
  | depth + 1 =>
    expect (.name "is")
    let negated ← take (.name "not")
    let s ← dottedName
    let a ←
      if (← peek) == some (.op "(") then arguments depth
      else if ← atTestArgument then
        if (← peek) == some (.name "is") then malformed
        else
          let x ← postfixes depth (← primary depth)
          pure { Arguments.none with positional := [x] }
      else pure .none
    let found := Expr.test e s a
    return if negated then .not found else found

end

/-! ## Targets -/

mutual

/-- The target that an expression is, if values can be bound to it. -/
def targetOf? : Expr String → Option (Target String)
  | .name s => some (.name s)
  | .tuple es => (targetsOf? es).map .tuple
  | _ => none

def targetsOf? : List (Expr String) → Option (List (Target String))
  | [] => some []
  | e :: es => do return (← targetOf? e) :: (← targetsOf? es)

end

/-- A name that a value can be bound to. -/
def plainName : Reader String := do
  let s ← name
  if (constantOf? s).isSome then malformed else return s

/-- One target: a name, several between brackets, or with `members` a member of a name space. -/
def oneTarget (depth : Nat) (members : Bool) : Reader (Target String) := do
  match ← peek, ← lookBeyond with
  | some (.name s), some (.op ".") =>
    if members && (constantOf? s).isNone then
      skip
      skip
      return .member s (← name)
    else malformed
  | _, _ =>
    match targetOf? (← primary depth) with
    | some t => return t
    | none => malformed

/-- One target, or several with commas between them. -/
def target (depth : Nat) (members : Bool) (ends : List String) : Reader (Target String) := do
  let (found, isTuple, _) ← repeated ([], false, true) fun (found, isTuple, goesOn) => do
    if !goesOn then return none
    else
      if !found.isEmpty then expect (.op ",")
      if ← atTupleEnd ends then return some (found, isTuple, false)
      else
        let found := (← oneTarget depth members) :: found
        if (← peek) == some (.op ",") then return some (found, true, true)
        else return some (found, isTuple, false)
  match found, isTuple with
  | [t], false => return t
  | [], false => malformed
  | found, _ => return .tuple found.reverse

end Reader

end SecurityScan.Template
