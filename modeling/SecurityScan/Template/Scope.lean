import SecurityScan.Template.Code

/-!
# Names of a part of a template

A part of a template, such as the body of a loop, has variables of its own beside those of the
parts around it. Which ones it has, and what they start from, is found by looking at what the part
reads and binds, in order; parts inside of it are looked at by themselves.
-/

namespace SecurityScan.Template

/-- The variables of one part. -/
structure Layer where
  level : Nat
  /-- Variables with what they start from; none for one that is bound as the part begins. -/
  loads : List (String × Option Source)
  /-- The names that the part binds. -/
  stores : List String
deriving Inhabited

/-- The variables of a part, and those of the parts around it, innermost first. -/
structure Scope where
  top : Layer
  outer : List Layer
deriving Inhabited

/-- An entry set in a list of entries, in its place if there is one. -/
def withEntry {α : Type} (entries : List (String × α)) (name : String) (x : α) :
    List (String × α) :=
  match entries with
  | [] => [(name, x)]
  | (s, y) :: rest => if s == name then (s, x) :: rest else (s, y) :: withEntry rest name x

namespace Scope

def atLevel (level : Nat) : Scope := ⟨⟨level, [], []⟩, []⟩

/-- The scope of a part inside of another one. -/
def inner (s : Scope) : Scope := ⟨⟨s.top.level + 1, [], []⟩, s.top :: s.outer⟩

def findIn? (layers : List Layer) (name : String) : Option Var :=
  layers.findSome? fun l => if (l.loads.lookup name).isSome then some ⟨l.level, name⟩ else none

/-- The variable that a name stands for. -/
def find? (s : Scope) (name : String) : Option Var := findIn? (s.top :: s.outer) name

/-- Whether a variable is bound as its part begins. -/
def isBound (s : Scope) (v : Var) : Bool :=
  match (s.top :: s.outer).find? fun l => l.level == v.level && (l.loads.lookup v.name).isSome with
  | some l =>
    match l.loads.lookup v.name with
    | some none => true
    | _ => false
  | none => false

def withLoad (s : Scope) (name : String) (source : Option Source) : Scope :=
  { s with top := { s.top with loads := withEntry s.top.loads name source } }

def withStore (s : Scope) (name : String) : Scope :=
  if s.top.stores.contains name then s
  else { s with top := { s.top with stores := s.top.stores ++ [name] } }

/-- A name that is read. -/
def load (s : Scope) (name : String) : Scope :=
  if (s.find? name).isSome then s else s.withLoad name (some .context)

/-- A name that is bound while the part runs. -/
def store (s : Scope) (name : String) : Scope :=
  let s := s.withStore name
  if (s.top.loads.lookup name).isSome then s
  else
    match findIn? s.outer name with
    | some v => s.withLoad name (some (.copy v))
    | none => s.withLoad name (some .nothing)

/-- A name that is bound as the part begins. -/
def declare (s : Scope) (name : String) : Scope := (s.withStore name).withLoad name none

def loadAll (s : Scope) (names : List String) : Scope := names.foldl load s

def loadsOf (s : Scope) (e : Expr String) : Scope := s.loadAll e.names

def loadsOfAll (s : Scope) (es : List (Expr String)) : Scope := es.foldl loadsOf s

/-- Branches of which at most one is taken. What only some of them bind starts from what it is
outside of them. -/
def joined (s : Scope) (branches : List Scope) : Scope :=
  let fresh := (branches.flatMap (·.top.stores)).eraseDups.filter (!s.top.stores.contains ·)
  let merged := branches.foldl (fun s b =>
    let s := b.top.loads.foldl (fun s (name, source) => s.withLoad name source) s
    b.top.stores.foldl withStore s) s
  fresh.foldl (fun s name =>
    match findIn? s.outer name with
    | some v => s.withLoad name (some (.copy v))
    | none => s.withLoad name (some .context)) merged

mutual

/-- A target that values are bound to. -/
def target (s : Scope) : Target String → Scope
  | .name n => s.store n
  | .tuple ts => s.targets ts
  | .member space _ => s.load space

def targets (s : Scope) : List (Target String) → Scope
  | [] => s
  | t :: ts => (s.target t).targets ts

end

mutual

/-- A target that is bound as the part begins. -/
def declareTarget (s : Scope) : Target String → Scope
  | .name n => s.declare n
  | .tuple ts => s.declareTargets ts
  | .member space _ => s.load space

def declareTargets (s : Scope) : List (Target String) → Scope
  | [] => s
  | t :: ts => (s.declareTarget t).declareTargets ts

end

/-- The variables with what they start from. -/
def starts (s : Scope) : Starts :=
  s.top.loads.filterMap fun (name, source) => source.map fun x => (⟨s.top.level, name⟩, x)

def vars (s : Scope) : List Var := s.top.loads.map fun (name, _) => ⟨s.top.level, name⟩

/-- All names that are bound so far, each with its variable. -/
def bound (s : Scope) : List (String × Var) :=
  ((s.top :: s.outer).flatMap (·.stores)).eraseDups.filterMap fun name =>
    (s.find? name).map fun v => (name, v)

end Scope

/-! ## What statements read and bind -/

def pieceExprs (pieces : List Piece) : List (Expr String) :=
  pieces.filterMap fun
    | .value e => some e
    | .data _ => none

def Parameter.names (ps : List Parameter) : List String := ps.map (·.1)

def Parameter.defaults (ps : List Parameter) : List (Expr String) := ps.filterMap (·.2)

mutual

/-- A scope after a statement. Of a part inside of it only that is seen which stands outside. -/
def Scope.see (s : Scope) : Statement → Scope
  | .output pieces => s.loadsOfAll (pieceExprs pieces)
  | .choose [] otherwise => s.seeAll otherwise
  | .choose ((test, body) :: more) otherwise =>
    let s := s.loadsOf test
    s.joined [s.seeAll body, s.seeBranches more, s.seeAll otherwise]
  | .loop _ members _ _ _ _ => s.loadsOf members
  | .assign t e => (s.loadsOf e).target t
  | .capture t _ _ => s.target t
  | .scope bindings _ => s.loadsOfAll (bindings.map (·.2))
  | .filtered filter _ => s.loadsOf filter
  | .escaping .. | .block .. => s
  | .define name _ _ => s.store name
  | .calling _ function arguments _ => s.loadsOf (.call function arguments)
  | .elsewhere request e =>
    let s := s.loadsOf e
    match request with
    | .import binds => binds.foldl Scope.store s
    | _ => s

def Scope.seeAll (s : Scope) : List Statement → Scope
  | [] => s
  | x :: xs => (s.see x).seeAll xs

/-- Further branches, each one seen as a choice of its own. -/
def Scope.seeBranches (s : Scope) : List (Expr String × List Statement) → Scope
  | [] => s
  | (test, body) :: more =>
    let s := s.loadsOf test
    (s.joined [s.seeAll body, s, s]).seeBranches more

end

/-! ## What is mentioned -/

/-- A name that is read, or one that is bound. -/
structure Mention where
  isRead : Bool
  name : String

def Expr.mentions (e : Expr String) : List Mention := e.names.map (⟨true, ·⟩)

def mentionsOfAll (es : List (Expr String)) : List Mention := es.flatMap Expr.mentions

mutual

def Target.names : Target String → List String
  | .name n => [n]
  | .tuple ts => Target.namesOfAll ts
  | .member .. => []

def Target.namesOfAll : List (Target String) → List String
  | [] => []
  | t :: ts => t.names ++ Target.namesOfAll ts

end

def bindingMentions (names : List String) : List Mention := names.map (⟨false, ·⟩)

def parameterMentions (ps : List Parameter) : List Mention :=
  bindingMentions (Parameter.names ps) ++ mentionsOfAll (Parameter.defaults ps)

mutual

/-- The names in a statement, in the order in which they are looked at; those in blocks are left
out. -/
def Statement.mentions : Statement → List Mention
  | .output pieces => mentionsOfAll (pieceExprs pieces)
  | .choose branches otherwise => mentionsInBranches branches ++ mentionsIn otherwise
  | .loop t members test _ body otherwise =>
    bindingMentions t.names ++ members.mentions ++ mentionsIn body ++ mentionsIn otherwise ++
      mentionsOfAll test.toList
  | .assign t e => bindingMentions t.names ++ e.mentions
  | .capture t filter body =>
    bindingMentions t.names ++ mentionsOfAll filter.toList ++ mentionsIn body
  | .scope bindings body =>
    bindingMentions (bindings.flatMap fun b => b.1.names) ++
      mentionsOfAll (bindings.map (·.2)) ++ mentionsIn body
  | .filtered filter body => mentionsIn body ++ filter.mentions
  | .escaping e body => e.mentions ++ mentionsIn body
  | .block .. => []
  | .define _ ps body => parameterMentions ps ++ mentionsIn body
  | .calling ps function arguments body =>
    Expr.mentions (.call function arguments) ++ parameterMentions ps ++ mentionsIn body
  | .elsewhere _ e => e.mentions

def mentionsIn : List Statement → List Mention
  | [] => []
  | x :: xs => x.mentions ++ mentionsIn xs

def mentionsInBranches : List (Expr String × List Statement) → List Mention
  | [] => []
  | (test, body) :: more => test.mentions ++ mentionsIn body ++ mentionsInBranches more

end

/-- Which of some names are read before they are bound; the search ends when all those that can
still be are found. -/
def undeclared (names found : List String) : List Mention → List String
  | [] => found
  | m :: more =>
    if m.isRead && names.contains m.name then
      let found := if found.contains m.name then found else m.name :: found
      if names.all found.contains && found.all names.contains then found
      else undeclared names found more
    else undeclared (names.erase m.name) found more

/-! ## What stands inside -/

mutual

/-- A statement and all that stand inside of it, from the outside to the inside. -/
def Statement.inside : Statement → List Statement
  | .choose branches otherwise =>
    .choose branches otherwise :: (insideBranches branches ++ insideAll otherwise)
  | .loop t members test recursive body otherwise =>
    .loop t members test recursive body otherwise :: (insideAll body ++ insideAll otherwise)
  | .capture t filter body => .capture t filter body :: insideAll body
  | .scope bindings body => .scope bindings body :: insideAll body
  | .filtered filter body => .filtered filter body :: insideAll body
  | .escaping e body => .escaping e body :: insideAll body
  | .block name isScoped isRequired body => .block name isScoped isRequired body :: insideAll body
  | .define name ps body => .define name ps body :: insideAll body
  | .calling ps function arguments body => .calling ps function arguments body :: insideAll body
  | x => [x]

def insideAll : List Statement → List Statement
  | [] => []
  | x :: xs => x.inside ++ insideAll xs

def insideBranches : List (Expr String × List Statement) → List Statement
  | [] => []
  | (_, body) :: more => insideAll body ++ insideBranches more

end

/-- A block: its name, whether it sees the names around it, whether it is required, its body. -/
structure Block where
  name : String
  isScoped : Bool
  isRequired : Bool
  body : List Statement

def blocksIn (ss : List Statement) : List Block :=
  (insideAll ss).filterMap fun
    | .block name isScoped isRequired body => some ⟨name, isScoped, isRequired, body⟩
    | _ => none

/-- The names that a statement itself binds to values. -/
def Statement.binds : Statement → List String
  | .loop t .. | .assign t _ | .capture t _ _ => t.names
  | _ => []

def isExtension : Statement → Bool
  | .elsewhere .extend _ => true
  | _ => false

end SecurityScan.Template
