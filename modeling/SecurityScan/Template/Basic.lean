import SecurityScan.Fault
import SecurityScan.Number.Double

/-!
# Templates

A template is a list of statements: text, values to put out, and statements that choose, repeat
and name. Expressions are what values are made from.
-/

namespace SecurityScan.Template

/-- Why a text cannot be used as a template: it is not well formed, or reading it stops. -/
inductive Defect
  | malformed
  | fault (f : Fault)
deriving DecidableEq

inductive Operator
  | add | sub | mul | div | floorDiv | mod | pow
deriving DecidableEq

inductive Comparison
  | eq | ne | lt | le | gt | ge | isIn | notIn
deriving DecidableEq

/-- Data that a template can have as it stands. -/
inductive Constant
  | null
  | bool (b : Bool)
  | int (i : Int)
  | float (x : Double)
  | complex (re im : Double)
  | text (s : String)
  | markup (s : String)
  | range (start stop step : Int)
  | tuple (items : List Constant)
  | list (items : List Constant)
  | map (entries : List (Constant × Constant))
deriving Inhabited

/-- What a call is given: in order, by name, and the members of further collections. -/
structure Arguments (α : Type) where
  positional : List α
  named : List (String × α)
  /-- A collection of further arguments in order. -/
  spread : Option α
  /-- A map of further arguments by name. -/
  spreadNamed : Option α

def Arguments.none {α : Type} : Arguments α := ⟨[], [], .none, .none⟩

/-- An expression in which names are of some kind. -/
inductive Expr (ν : Type)
  | const (c : Constant)
  | name (n : ν)
  /-- What the statement around it has captured. -/
  | captured
  | tuple (items : List (Expr ν))
  | list (items : List (Expr ν))
  | map (entries : List (Expr ν × Expr ν))
  | field (owner : Expr ν) (name : String)
  | item (owner key : Expr ν)
  | slice (owner : Expr ν) (start stop step : Option (Expr ν))
  /-- Several keys with a slice among them, which nothing has. -/
  | mixedSlice (owner : Expr ν) (bounds : List (Expr ν))
  | call (function : Expr ν) (arguments : Arguments (Expr ν))
  | filter (base : Expr ν) (name : String) (arguments : Arguments (Expr ν))
  | test (base : Expr ν) (name : String) (arguments : Arguments (Expr ν))
  | negate (e : Expr ν)
  | positive (e : Expr ν)
  | not (e : Expr ν)
  | and (a b : Expr ν)
  | or (a b : Expr ν)
  | arith (op : Operator) (a b : Expr ν)
  /-- Texts put together; where it `escapes`, markup makes markup of all. -/
  | concat (escapes : Bool) (items : List (Expr ν))
  | compare (first : Expr ν) (rest : List (Comparison × Expr ν))
  | choose (test yes : Expr ν) (no : Option (Expr ν))
deriving Inhabited

/-- What a value is bound to: a name, several for its members, or a member of a name space. -/
inductive Target (ν : Type)
  | name (n : ν)
  | tuple (targets : List (Target ν))
  | member (space : ν) (name : String)
deriving Inhabited

/-- A name that a routine takes, and what it stands for when nothing is given. -/
abbrev Parameter := String × Option (Expr String)

/-- What a statement about other templates asks for. There are no other templates. -/
inductive Request
  | extend
  | include (ignoreMissing : Bool)
  | import (binds : List String)

/-- A piece of what is put out. -/
inductive Piece
  | data (text : String)
  | value (e : Expr String)

inductive Statement
  | output (pieces : List Piece)
  | choose (branches : List (Expr String × List Statement)) (otherwise : List Statement)
  | loop (target : Target String) (members : Expr String) (test : Option (Expr String))
    (recursive : Bool) (body otherwise : List Statement)
  | assign (target : Target String) (e : Expr String)
  /-- Binds what the body puts out, which `filter` may change. -/
  | capture (target : Target String) (filter : Option (Expr String)) (body : List Statement)
  | scope (bindings : List (Target String × Expr String)) (body : List Statement)
  /-- Puts out what `filter` makes of the body. -/
  | filtered (filter : Expr String) (body : List Statement)
  | escaping (e : Expr String) (body : List Statement)
  | block (name : String) (isScoped isRequired : Bool) (body : List Statement)
  /-- Names a body that can be called. -/
  | define (name : String) (parameters : List Parameter) (body : List Statement)
  /-- Puts out a call that is given the body as a routine. -/
  | calling (parameters : List Parameter) (function : Expr String)
    (arguments : Arguments (Expr String)) (body : List Statement)
  | elsewhere (request : Request) (e : Expr String)
deriving Inhabited

/-! ## Parts -/

def Arguments.all {α : Type} (a : Arguments α) : List α :=
  a.positional ++ a.named.map (·.2) ++ a.spread.toList ++ a.spreadNamed.toList

/-- Arguments with something made of each of them, in order. -/
def Arguments.mapM {m : Type → Type} [Monad m] {α β : Type} (f : α → m β) (a : Arguments α) :
    m (Arguments β) := do
  let positional ← a.positional.mapM f
  let named ← a.named.mapM fun (s, x) => do return (s, ← f x)
  return ⟨positional, named, ← a.spread.mapM f, ← a.spreadNamed.mapM f⟩

namespace Expr

/-- The expressions that an expression is made of, in the order in which they are looked at. -/
def parts {ν : Type} : Expr ν → List (Expr ν)
  | .const _ | .name _ | .captured => []
  | .tuple es | .list es | .concat _ es => es
  | .map es => es.flatMap fun e => [e.1, e.2]
  | .field e _ | .negate e | .positive e | .not e => [e]
  | .item a b | .and a b | .or a b | .arith _ a b => [a, b]
  | .slice e a b c => e :: (a.toList ++ b.toList ++ c.toList)
  | .mixedSlice e bs => e :: bs
  | .call f a => f :: a.all
  | .filter e _ a | .test e _ a => e :: a.all
  | .compare e rest => e :: rest.map (·.2)
  | .choose t a b => t :: a :: b.toList

private theorem sizeOf_lt_of_mem_map_snd {α ν : Type} [SizeOf α] {p : Expr ν}
    {es : List (α × Expr ν)}
    (h : p ∈ es.map (·.2)) : sizeOf p < sizeOf es := by
  obtain ⟨⟨k, x⟩, hx, rfl⟩ := List.mem_map.1 h
  have := List.sizeOf_lt_of_mem hx
  simp only [Prod.mk.sizeOf_spec] at this ⊢
  omega

private theorem sizeOf_lt_of_mem_toList {ν : Type} {p : Expr ν} {o : Option (Expr ν)}
    (h : p ∈ o.toList) :
    sizeOf p < sizeOf o := by
  obtain rfl := Option.mem_toList.1 h
  simp

private theorem sizeOf_lt_of_mem_all {ν : Type} {p : Expr ν} {a : Arguments (Expr ν)}
    (h : p ∈ a.all) :
    sizeOf p < sizeOf a := by
  obtain ⟨ps, ns, s, m⟩ := a
  simp only [Arguments.all, List.mem_append] at h
  simp only [Arguments.mk.sizeOf_spec]
  rcases h with ((h | h) | h) | h
  · have := List.sizeOf_lt_of_mem h
    omega
  · have := sizeOf_lt_of_mem_map_snd h
    omega
  · have := sizeOf_lt_of_mem_toList h
    omega
  · have := sizeOf_lt_of_mem_toList h
    omega

theorem sizeOf_lt_of_mem_parts {ν : Type} {e p : Expr ν} (h : p ∈ e.parts) :
    sizeOf p < sizeOf e := by
  cases e <;> simp only [parts, List.mem_cons, List.mem_append, List.not_mem_nil, or_false] at h
  case tuple | list | concat =>
    have := List.sizeOf_lt_of_mem h
    simp
    omega
  case map es =>
    obtain ⟨⟨k, x⟩, hx, h⟩ := List.mem_flatMap.1 h
    have := List.sizeOf_lt_of_mem hx
    simp only [Prod.mk.sizeOf_spec] at this
    simp only [List.mem_cons, List.not_mem_nil, or_false] at h
    rcases h with rfl | rfl
    all_goals
      simp
      omega
  case slice =>
    rcases h with rfl | (h | h) | h
    · simp
      omega
    all_goals
      have := sizeOf_lt_of_mem_toList h
      simp
      omega
  case mixedSlice =>
    rcases h with rfl | h
    · simp
      omega
    · have := List.sizeOf_lt_of_mem h
      simp
      omega
  case call | filter | test =>
    rcases h with rfl | h
    · simp
      omega
    · have := sizeOf_lt_of_mem_all h
      simp
      omega
  case compare =>
    rcases h with rfl | h
    · simp
      omega
    · have := sizeOf_lt_of_mem_map_snd h
      simp
      omega
  case choose =>
    rcases h with rfl | rfl | h
    · simp
      omega
    · simp
      omega
    · have := sizeOf_lt_of_mem_toList h
      simp
      omega
  case item | and | or | arith =>
    rcases h with rfl | rfl
    all_goals
      simp only [item.sizeOf_spec, and.sizeOf_spec, or.sizeOf_spec, arith.sizeOf_spec]
      omega
  all_goals
    subst h
    simp
    try omega

/-- The names that stand in an expression, in the order in which they are looked at. -/
def names {ν : Type} (e : Expr ν) : List ν :=
  (match e with
    | .name s => [s]
    | _ => []) ++ e.parts.attach.flatMap fun ⟨p, _⟩ => p.names
termination_by sizeOf e
decreasing_by exact sizeOf_lt_of_mem_parts ‹_›

/-- An expression with something made of its names and of each of its parts. -/
def mapParts {m : Type → Type} [Monad m] {ν μ : Type} (onName : ν → m (Expr μ))
    (f : Expr ν → m (Expr μ)) : Expr ν → m (Expr μ)
  | .const c => return .const c
  | .name n => onName n
  | .captured => return .captured
  | .tuple es => return .tuple (← es.mapM f)
  | .list es => return .list (← es.mapM f)
  | .map es => return .map (← es.mapM fun (k, e) => do return (← f k, ← f e))
  | .field e s => return .field (← f e) s
  | .item a b => return .item (← f a) (← f b)
  | .slice e a b c => return .slice (← f e) (← a.mapM f) (← b.mapM f) (← c.mapM f)
  | .mixedSlice e bs => return .mixedSlice (← f e) (← bs.mapM f)
  | .call e a => return .call (← f e) (← a.mapM f)
  | .filter e s a => return .filter (← f e) s (← a.mapM f)
  | .test e s a => return .test (← f e) s (← a.mapM f)
  | .negate e => return .negate (← f e)
  | .positive e => return .positive (← f e)
  | .not e => return .not (← f e)
  | .and a b => return .and (← f a) (← f b)
  | .or a b => return .or (← f a) (← f b)
  | .arith op a b => return .arith op (← f a) (← f b)
  | .concat escapes es => return .concat escapes (← es.mapM f)
  | .compare e rest => return .compare (← f e) (← rest.mapM fun (c, e) => do return (c, ← f e))
  | .choose t a b => return .choose (← f t) (← f a) (← b.mapM f)

/-- How deep parts stand in one another. -/
def height {ν : Type} (e : Expr ν) : Nat :=
  (e.parts.attach.map fun ⟨p, _⟩ => p.height).foldl max 0 + 1
termination_by sizeOf e
decreasing_by exact sizeOf_lt_of_mem_parts ‹_›

/-- How deep brackets stand in one another where an expression is written out in full. -/
def brackets {ν : Type} (isSure : ν → Bool) (e : Expr ν) : Nat :=
  (match e with
    | .const _ | .captured => 0
    | .name n => if isSure n then 0 else 2
    | .concat .. => 2
    | _ => 1) + (e.parts.attach.map fun ⟨p, _⟩ => p.brackets isSure).foldl max 0
termination_by sizeOf e
decreasing_by exact sizeOf_lt_of_mem_parts ‹_›

end Expr

end SecurityScan.Template
