import SecurityScan.Template.Constant
import SecurityScan.Template.Scope

/-!
# Making code

Statements are made into code: names become variables, expressions that come to constants become
these, and what can be told of a template without rendering it is told: a filter that nobody knows,
two blocks of one name, a loop that binds the name of its own state. Code that would stand too deep
in itself has no meaning.
-/

namespace SecurityScan.Template

/-! ## Limits -/

/-- How deep an expression may be for its names to be found. -/
def maxReadHeight : Nat := 487

/-- How deep an expression may be that does not come to a text by itself. -/
def maxCodeHeight : Nat := 325

/-- How deep brackets may stand in one another. -/
def maxBrackets : Nat := 200

/-- How deep statements may stand in one another. -/
def maxIndent : Nat := 99

/-- How deep loops may stand in one another in one routine. -/
def maxLoops : Nat := 20

/-! ## Where a statement stands -/

structure Place where
  scope : Scope
  /-- Whether names that are bound here are known around the template. -/
  isTop : Bool
  /-- Whether this is sure to be reached. -/
  isRoot : Bool
  inLoop : Bool
  inBlock : Bool
  /-- Whether filters that nobody knows are left to the rendering. -/
  isSoft : Bool
  /-- Whether nothing is put out when the template extends another one. -/
  checksOutput : Bool
  isGathered : Bool
  /-- Whether texts are escaped. -/
  escapes : Bool
  /-- Whether that is settled, and not found by the rendering. -/
  isSettled : Bool
  indent : Nat
  loops : Nat
  /-- The slots of a routine that may still be without an item. -/
  unfilled : List Var

namespace Place

def outermost (scope : Scope) : Place where
  scope := scope
  isTop := false
  isRoot := false
  inLoop := false
  inBlock := false
  isSoft := false
  checksOutput := false
  isGathered := false
  escapes := true
  isSettled := true
  indent := 1
  loops := 0
  unfilled := []

/-- The place of a part that has a scope of its own. -/
def inner (p : Place) (scope : Scope) : Place :=
  { p with
    scope := scope, isTop := false, isRoot := false, inLoop := false, inBlock := false,
    isSoft := false, unfilled := [] }

/-- The place of a part that may be left out. -/
def soft (p : Place) : Place := { p with isRoot := false, isSoft := true }

def deeper (p : Place) (steps : Nat) : Place := { p with indent := p.indent + steps }

/-- A place in a routine, whose output is gathered. -/
def gathered (p : Place) : Place := { p with isGathered := true, checksOutput := false }

def escaping (p : Place) : Escaping :=
  if !p.isSettled then .asSet else if p.escapes then .always else .never

end Place

/-! ## Preparing -/

/-- What is found while code is made. -/
structure Findings where
  /-- How many times the template extends others. -/
  extensions : Nat
  /-- Whether it is sure to extend one. -/
  isExtended : Bool
  isMeaningless : Bool
  isTooIndented : Bool

abbrev Prepare := StateT Findings (Except Defect)

namespace Prepare

def malformed {α : Type} : Prepare α := throw .malformed

def fault {α : Type} (f : Fault) : Prepare α := throw (.fault f)

def ofResult {α : Type} : Except Fault α → Prepare α
  | .ok a => return a
  | .error f => fault f

/-- Notes that code has no meaning. -/
def meaningless : Prepare Unit := modify fun s => { s with isMeaningless := true }

def checkIndent (p : Place) : Prepare Unit := do
  if maxIndent < p.indent then modify fun s => { s with isTooIndented := true }

/-! ### Expressions -/

def var (p : Place) (name : String) : Prepare Var :=
  match p.scope.find? name with
  | some v => return v
  | none => fault (.template .failedCheck)

def use (p : Place) (name : String) : Prepare Use := do
  let v ← var p name
  return ⟨v, p.scope.isBound v && !p.unfilled.contains v⟩

/-- Words that cannot name an argument as they stand. -/
def keywords : List String :=
  ["False", "None", "True", "and", "as", "assert", "async", "await", "break", "class", "continue",
    "def", "del", "elif", "else", "except", "finally", "for", "from", "global", "if", "import",
    "in", "is", "lambda", "nonlocal", "not", "or", "pass", "raise", "return", "try", "while",
    "with", "yield"]

/-- Names of arguments have to differ, unless there is a keyword among them: then the last one of
a name counts. -/
def checkNames (names : List String) : Prepare Unit := do
  if !names.any keywords.contains && !names.Nodup then meaningless

/-- The last argument of each name, at the place of the first one. -/
def lastNamed {α : Type} (named : List (String × α)) : List (String × α) :=
  named.foldl (fun es (s, x) => withEntry es s x) []

/-- Names that calls are given beside those that are written. -/
def addedNames (p : Place) : List String :=
  (if p.inLoop then ["_loop_vars"] else []) ++ if p.inBlock then ["_block_vars"] else []

/-- An expression with its names made variables. `captured` is what stands for a gathered text. -/
def resolved (p : Place) (captured : Option Var) (fuel : Nat) (e : Expr String) :
    Prepare Term := do
  match fuel with
  | 0 => fault .tooDeep
  | fuel + 1 =>
    let known (isKnown : Bool) : Prepare Unit := do
      if !isKnown && !p.isSoft then malformed
    let arguments (added : List String) (a : Arguments (Expr String)) :
        Prepare (Arguments (Expr String)) := do
      checkNames (a.named.map (·.1) ++ added)
      return { a with named := lastNamed a.named }
    let inside := match e with
      | .choose .. => p.soft
      | _ => p
    let e ← match e with
      | .const c => do
        if c.isTooLong then fault Fault.tooLongToWrite
        pure (.const c)
      | .filter base name a => do
        known (Filter.isKnown name)
        pure (.filter base name (← arguments [] a))
      | .test base name a => do
        known (Test.isKnown name)
        pure (.test base name (← arguments [] a))
      | .call f a => do pure (.call f (← arguments (addedNames p) a))
      | .concat _ es => pure (.concat (p.isSettled && p.escapes) es)
      | .mixedSlice e bounds => do
        meaningless
        pure (.mixedSlice e bounds)
      | .arith .pow (.const c) b =>
        /- The sign of a number is outside of its power. -/
        match c.unsigned? with
        | some c => pure (.negate (.arith .pow (.const c) b))
        | none => pure (.arith .pow (.const c) b)
      | .captured =>
        match captured with
        | some v => return .name ⟨v, true⟩
        | none => pure .captured
      | e => pure e
    e.mapParts (fun s => do return .name (← use p s)) (resolved inside captured fuel)

/-- The term of an expression, with its constant parts replaced. -/
def termWith (p : Place) (captured : Option Var) (around : Nat) (e : Expr String) :
    Prepare Term := do
  if maxCodeHeight < e.height then fault .tooDeep
  let e ← if p.isSettled then ofResult (e.folded p.escapes) else pure e
  let t ← resolved p captured (2 * e.height + 2) e
  if maxBrackets < around + t.brackets (·.sure) then meaningless
  return t

def term (p : Place) (e : Expr String) : Prepare Term := termWith p none 1 e

def targetOf (p : Place) : Target String → Prepare (Target Var)
  | .name n => do return .name (← var p n)
  | .tuple ts => do return .tuple (← targetsOf p ts)
  | .member space name => do return .member (← var p space) name
where
  targetsOf (p : Place) : List (Target String) → Prepare (List (Target Var))
    | [] => return []
    | t :: ts => do return (← targetOf p t) :: (← targetsOf p ts)

/-- The name spaces of which a target binds members, each once. -/
def spacesOf : Target String → List String
  | .name _ => []
  | .tuple ts => (spacesOfAll ts).eraseDups
  | .member space _ => [space]
where
  spacesOfAll : List (Target String) → List String
    | [] => []
    | t :: ts => spacesOf t ++ spacesOfAll ts

/-- Makes names known around the template that are bound at its top. -/
def published (p : Place) (names : List String) : Prepare (List Step) := do
  if p.isTop && !names.isEmpty then return [.publish (← names.mapM (var p))] else return []

/-! ### Statements -/

/-- The variable in which a routine is handed over. -/
def callerVar (p : Place) : Var := ⟨p.scope.top.level, "(caller)"⟩

/-- The variable for what a body puts out. -/
def textVar (p : Place) : Var := ⟨p.scope.top.level, "(text)"⟩

def checkHeights (es : List (Expr String)) : Prepare Unit := do
  if es.any fun e => maxReadHeight < e.height then fault .tooDeep

def outputOf (p : Place) (pieces : List Piece) : Prepare (List Step) := do
  checkHeights (pieceExprs pieces)
  if p.checksOutput && (← get).isExtended then return []
  pieces.mapM fun
    | .data s => return .text s
    | .value e => do
      match e.outputText? p.isSettled p.escapes with
      | some s => return .text s
      | none => return .put p.escaping (← termWith p none (if p.isGathered then 3 else 1) e)

/-- The scope and the head of a routine. -/
def routineOf (p : Place) (name : Option String) (ps : List Parameter) (body : List Statement) :
    Prepare (Place × Routine) := do
  let names := Parameter.names ps
  if !names.Nodup then meaningless
  let scope := (((names.foldl Scope.declare p.scope.inner).loadsOfAll
    (Parameter.defaults ps)).seeAll body)
  let wanted := undeclared ["caller", "kwargs", "varargs"] [] (mentionsIn body)
  let usesCaller := wanted.contains "caller"
  if usesCaller && ps.any fun (s, default) => s == "caller" && default.isNone then malformed
  let extra := ["caller", "kwargs", "varargs"].filter fun s =>
    wanted.contains s && !names.contains s
  let scope := extra.foldl Scope.declare scope
  let here := { ((p.inner scope).gathered).deeper 1 with loops := 0 }
  checkIndent here
  let vars ← (names ++ extra).mapM (var here)
  let slots ← ps.zipIdx.mapM fun ((s, default), n) => do
    let t ← default.mapM (term { here with unfilled := vars.drop n })
    return ⟨← var here s, t⟩
  let special (s : String) : Prepare (Option Var) :=
    if extra.contains s then some <$> var here s else return none
  return (here, ⟨name, slots, scope.starts, usesCaller, ← special "caller", ← special "kwargs",
    ← special "varargs"⟩)

mutual

/-- The steps of a statement, and whether no others of its body come after it. -/
def steps (p : Place) : Statement → Prepare (List Step × Bool)
  | .output pieces => do return (← outputOf p pieces, false)
  | .choose branches otherwise => do
    let inside := p.soft
    let branches ← stepsOfBranches inside branches
    let otherwise ← stepsOf (inside.deeper 1) otherwise
    checkIndent (inside.deeper 1)
    return ([.choose branches otherwise], false)
  | .loop t members test recursive body otherwise => do
    checkHeights (members :: test.toList)
    let isExtended := recursive || undeclared ["loop"] [] (mentionsIn body) == ["loop"] ||
      (blocksIn body ++ blocksIn otherwise).any (·.isScoped)
    let scope := p.scope.inner
    let bodyScope := (((if isExtended then scope.declare "loop" else scope).declareTarget t)).seeAll
      body
    let depth := if recursive then 2 else 1
    let here := { (p.inner bodyScope).deeper depth with
      inLoop := true, loops := if recursive then 1 else p.loops + 1,
      isGathered := p.isGathered || recursive }
    checkIndent here
    if maxLoops < here.loops then meaningless
    let testPart ← match test with
      | none => pure none
      | some e => do
        let testScope := (scope.declareTarget t).loadsOf e
        let there := (p.inner testScope).deeper 3
        checkIndent there
        pure (some ⟨testScope.starts, ← term there e⟩)
    let bound := t.names ++ (insideAll body ++ insideAll otherwise).flatMap Statement.binds
    if bound.contains "loop" then malformed
    let target ← targetOf here t
    let members ← term p members
    let state ← if isExtended then some <$> var here "loop" else pure none
    let bodySteps ← stepsOf here body
    let elseScope := scope.seeAll otherwise
    let elsePlace := { (p.inner elseScope).deeper depth with
      loops := if recursive then 0 else p.loops, isGathered := here.isGathered }
    let elseSteps ← stepsOf elsePlace otherwise
    let elsePart := if otherwise.isEmpty then none
      else some (.enter elseScope.starts :: elseSteps ++ [.leave elseScope.vars])
    let gone := if recursive && otherwise.isEmpty then [] else bodyScope.vars
    let l : Loop :=
      ⟨target, members, testPart, state, bodyScope.starts, gone, recursive, p.escaping⟩
    return ([.loop l bodySteps elsePart], false)
  | .assign t e => do
    checkHeights [e]
    let check ← match spacesOf t with
      | [] => pure []
      | spaces => do pure [Step.checkSpaces (← spaces.mapM (var p))]
    let target ← targetOf p t
    let e ← term p e
    return (check ++ .assign target e :: (← published p t.names), false)
  | .capture t filter body => do
    checkHeights filter.toList
    let scope := p.scope.inner.seeAll body
    let here := (p.inner scope).gathered
    let text := textVar here
    let bodySteps ← stepsOf here body
    let target ← targetOf p t
    let made ← match filter with
      | none => pure [.gather text .never bodySteps]
      | some e => do
        pure [.gather text here.escaping bodySteps,
          .assign (.name text) (← termWith here (some text) 2 e)]
    let last ← published p t.names
    return (.enter scope.starts :: made ++
      [.mark text, .assign target (.name ⟨text, true⟩)] ++ last ++ [.leave scope.vars], false)
  | .scope bindings body => do
    checkHeights (bindings.map (·.2))
    let scope := ((bindings.map (·.1)).foldl Scope.declareTarget p.scope.inner).seeAll body
    let here := p.inner scope
    let bound ← bindings.mapM fun (t, e) => do
      let target ← targetOf here t
      return Step.assign target (← term p e)
    let bodySteps ← stepsOf here body
    return (.enter scope.starts :: bound ++ bodySteps ++ [.leave scope.vars], false)
  | .filtered filter body => do
    checkHeights [filter]
    let scope := (p.scope.inner.seeAll body).loadsOf filter
    let here := (p.inner scope).gathered
    let text := textVar here
    let bodySteps ← stepsOf { here with checksOutput := p.checksOutput } body
    let e ← termWith here (some text) (if p.isGathered then 1 else 0) filter
    return ([.enter scope.starts, .gather text here.escaping bodySteps, .putPlain e,
      .leave scope.vars], false)
  | .escaping e body => do
    checkHeights [e]
    let scope := (p.scope.inner.loadsOf e).seeAll body
    let here := p.inner scope
    let t ← term here e
    let inside ← match ← ofResult (beforehand p.escapes (do
        match ← e.known? p.isSettled with
        | none => return none
        | some i => some <$> i.holds)) with
      | some escapes => pure { here with escapes := escapes }
      | none => pure { here with isSettled := false }
    let bodySteps ← stepsOf inside body
    return ([.enter scope.starts, .escaping t bodySteps, .leave scope.vars], false)
  | .block name isScoped isRequired _ => do
    if p.isTop && (← get).isExtended then return ([], false)
    return ([.block name isRequired (if isScoped then some p.scope.bound else none)], false)
  | .define name ps body => do
    checkHeights (Parameter.defaults ps)
    let (here, r) ← routineOf p (some name) ps body
    let bodySteps ← stepsOf here body
    return (.define (← var p name) r bodySteps :: (← published p [name]), false)
  | .calling ps function arguments body => do
    let call : Expr String := .call function arguments
    checkHeights (call :: Parameter.defaults ps)
    let (here, r) ← routineOf p none ps body
    let bodySteps ← stepsOf here body
    checkNames (arguments.named.map (·.1) ++ "caller" :: addedNames p)
    let caller := callerVar p
    match ← termWith p none (if p.isGathered then 1 else 0) call with
    | .call f a =>
      let named := withEntry a.named "caller" (.name ⟨caller, true⟩)
      return ([.define caller r bodySteps, .putPlain (.call f { a with named := named })], false)
    | t => return ([.putPlain t], false)
  | .elsewhere request e => do
    checkHeights [e]
    match request with
    | .extend =>
      if !p.isTop then malformed
      if (← get).isExtended then return ([], true)
      let t ← term p e
      modify fun s =>
        { s with isExtended := s.isExtended || p.isRoot, extensions := s.extensions + 1 }
      return ([.elsewhere request t], false)
    | request => return ([.elsewhere request (← term p e)], false)

/-- The steps of a body. -/
def stepsOf (p : Place) : List Statement → Prepare (List Step)
  | [] => return []
  | x :: xs => do
    let (here, stops) ← steps p x
    if stops then return here else return here ++ (← stepsOf p xs)

def stepsOfBranches (p : Place) :
    List (Expr String × List Statement) → Prepare (List (Term × List Step))
  | [] => return []
  | (test, body) :: more => do
    checkHeights [test]
    let t ← term p test
    let here ← stepsOf (p.deeper 1) body
    return (t, here) :: (← stepsOfBranches p more)

end

/-! ### Templates -/

/-- A body that stands by itself, with names that stand for something in it. -/
def bodySteps (p : Place) (given : List (String × Source)) (body : List Statement) :
    Prepare (List Step) := do
  let wanted := undeclared (given.map (·.1)) [] (mentionsIn body)
  let here := given.filter fun (s, _) => wanted.contains s
  let scope := ((here.map (·.1)).foldl Scope.declare p.scope).seeAll body
  let starts := here.map fun (s, source) => (⟨scope.top.level, s⟩, source)
  return .enter (starts ++ scope.starts) :: (← stepsOf { p with scope := scope } body)

/-- The code of a template. -/
def code (ss : List Statement) : Prepare Code := do
  let blocks := blocksIn ss
  if !(blocks.map (·.name)).Nodup then malformed
  let base := Place.outermost (.atLevel 0)
  let top := { base with
    isTop := true, isRoot := true, checksOutput := (insideAll ss).any isExtension }
  let body ← bodySteps top [("self", .self)] ss
  let blocks ← blocks.mapM fun b => do
    let steps ← bodySteps { base with inBlock := true } [("self", .self), ("super", .super)] b.body
    return (b.name, steps)
  return ⟨body, blocks⟩

end Prepare

/-- The code of statements, if it has a meaning. -/
def Code.ofStatements (ss : List Statement) : Except Defect Code := do
  let (code, found) ← (Prepare.code ss).run ⟨0, false, false, false⟩
  if found.isTooIndented then throw (.fault (.template .tooIndented))
  if found.isMeaningless then throw (.fault (.template .meaningless))
  return code

end SecurityScan.Template
