import SecurityScan.Template.Basic

/-!
# Code

What a template is made into before it is rendered. Each name is a variable at a level of nesting,
and it is settled beforehand which variables a part of the template starts with, what they start
from, and which of them are gone after it.
-/

namespace SecurityScan.Template

/-- A name at a level of nesting. -/
structure Var where
  level : Nat
  name : String
deriving DecidableEq

/-- A variable that is read. One that is not `sure` may not be bound yet. -/
structure Use where
  var : Var
  sure : Bool

abbrev Term := Expr Use

/-- What a variable starts from. -/
inductive Source
  /-- What its name stands for around the template. -/
  | context
  /-- Another variable. -/
  | copy (of : Var)
  | nothing
  /-- The blocks of the template. -/
  | self
  /-- What a block stands in place of, which is never there. -/
  | super

/-- Variables with what they start from. -/
abbrev Starts := List (Var × Source)

/-- Whether texts are escaped: settled beforehand, or as is set when they come. -/
inductive Escaping
  | always
  | never
  | asSet
deriving DecidableEq

structure LoopTest where
  starts : Starts
  condition : Term

/-- A loop without its body. -/
structure Loop where
  target : Target Var
  members : Term
  test : Option LoopTest
  /-- The variable that stands for the state of the loop, if it is asked for. -/
  state : Option Var
  starts : Starts
  /-- The variables that are gone after the loop. -/
  gone : List Var
  recursive : Bool
  escaping : Escaping

/-- A variable that a routine is given, and what it is when it is not given. -/
structure Slot where
  var : Var
  default : Option Term

/-- A routine without its body. -/
structure Routine where
  name : Option String
  slots : List Slot
  starts : Starts
  /-- Whether the body asks for the routine that a call hands over. -/
  usesCaller : Bool
  /-- The variables that take what is given beside the slots. -/
  caller : Option Var
  moreNamed : Option Var
  morePositional : Option Var

inductive Step
  | text (s : String)
  | put (escaping : Escaping) (e : Term)
  /-- Puts out what has to be a text already. -/
  | putPlain (e : Term)
  | enter (starts : Starts)
  | leave (vars : List Var)
  | assign (target : Target Var) (e : Term)
  /-- Looks whether variables have members that can be bound. -/
  | checkSpaces (vars : List Var)
  /-- Makes variables known around the template. -/
  | publish (vars : List Var)
  /-- Binds what the body puts out, as markup where it is to be escaped. -/
  | gather (into : Var) (escaping : Escaping) (body : List Step)
  /-- Makes markup of what a variable stands for, where texts are escaped. -/
  | mark (v : Var)
  | choose (branches : List (Term × List Step)) (otherwise : List Step)
  | loop (l : Loop) (body : List Step) (otherwise : Option (List Step))
  | define (into : Var) (r : Routine) (body : List Step)
  | block (name : String) (isRequired : Bool) (seen : Option (List (String × Var)))
  /-- Whether texts are escaped inside of the body. -/
  | escaping (e : Term) (body : List Step)
  | elsewhere (request : Request) (e : Term)
deriving Inhabited

/-- A template made ready. -/
structure Code where
  body : List Step
  blocks : List (String × List Step)

end SecurityScan.Template
