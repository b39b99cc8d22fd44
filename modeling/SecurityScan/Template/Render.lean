import SecurityScan.Template.Evaluation

/-!
# Rendering

Running the steps of code. A step puts out text, binds variables, or runs other steps. Routines,
blocks and loops that are gone through again are run by a machine, which runs out where calls stand
too deep in one another.
-/

namespace SecurityScan.Template

open Render

/-! ## Output -/

def put (s : String) : Render Unit :=
  modifyThe World fun w => { w with output := w.output ++ s }

/-- Puts out an item that has to be a text. -/
def putPlain (i : Item) : Render Unit := do
  match i.text? with
  | some s => put s
  | none => modifyThe World fun w => { w with isText := false }

/-- What steps put out, which is not put out itself. -/
def gathered (r : Render Unit) : Render String := do
  let before ← getThe World
  set { before with output := "", isText := true }
  r
  let after ← getThe World
  set { after with output := before.output, isText := before.isText }
  if after.isText then return after.output
  else wrongKind "sequence item: expected str instance"

def Escaping.holds (e : Escaping) : Render Bool :=
  match e with
  | .always => return true
  | .never => return false
  | .asSet => Filter.escapes

/-- A text that is markup where texts are escaped. -/
def Escaping.ofText (e : Escaping) (s : String) : Render Item := do
  return if ← e.holds then .markup s else .text s

/-! ## Loops -/

/-- The next item of a loop, from its state if it has one. -/
def nextRound (source : Nat) (state : Option Nat) : Render (Option Item) := do
  match state with
  | none => next source
  | some place =>
    match ← Item.loopAt place with
    | some l => l.advance place
    | none => return none

/-- Goes through the items of a loop; `found` says whether one has come before. -/
def rounds (place : Nat) (l : Loop) (body : Render Unit) (source : Nat) (state : Option Nat)
    (found : Bool) : Nat → Render Bool
  | 0 => throw .outOfMemory
  | fuel + 1 => do
    match ← nextRound source state with
    | none => return found
    | some i =>
      bindTarget place i l.target
      match l.state, state with
      | some v, some at' => Frame.set place v (.cell at')
      | _, _ => pure ()
      Frame.enter place l.starts
      body
      rounds place l body source state true fuel

/-- Items that pass the test of a loop. -/
def passing : Passing := fun source target condition frame =>
  look source target condition frame maxItems
where
  look (source : Nat) (target : Target Var) (condition : Term) (frame : Nat) :
      Nat → Render (Option Item)
    | 0 => throw .outOfMemory
    | fuel + 1 => do
      match ← next source with
      | none => return none
      | some i =>
        bindTarget frame i target
        if ← (← evaluate frame condition).holds then some <$> targetItem frame target
        else look source target condition frame fuel

/-- Goes through a loop over the members of an item. -/
def throughLoop (place : Nat) (l : Loop) (body : Render Unit) (otherwise : Option (Render Unit))
    (members : Item) (again : Option Nat) (depth : Int) : Render Unit := do
  let members ← match l.test with
    | none => pure members
    | some t => do
      let frame ← new (.frame ⟨[], some place, ← Frame.contextOf place⟩)
      Frame.enter frame t.starts
      newIterator (.passing (← members.iterate) l.target t.condition frame)
  let source ← members.iterate
  let state ← match l.state with
    | none => pure none
    | some v => do
      Frame.set place v .missing
      some <$> new (.loop ⟨members, source, none, -1, .undefined, .undefined, .missing, depth,
        again, .missing⟩)
  let found ← rounds place l body source state false maxItems
  l.gone.forM fun v => Frame.set place v .missing
  match found, otherwise with
  | false, some r => r
  | _, _ => return ()

/-! ## Steps -/

/-- Looks for another template, where there are none. -/
def lookElsewhere (request : Request) (i : Item) : Render Unit := do
  let none' {α : Type} : Render α := wrongKind "no loader for this environment specified"
  match request with
  | .include ignoreMissing =>
    if i.text?.isSome || i.isUndefined then none'
    else if ← i.holds then none'
    else if ignoreMissing then return ()
    else problem .nothingToInclude
  | _ => none'

/-- The context of a block that sees variables around it. -/
def seenContext (place : Nat) (seen : Option (List (String × Var))) : Render Nat := do
  let context ← Frame.contextOf place
  match seen, ← cellAt context with
  | some vars, .context published given =>
    let here ← vars.filterMapM fun (name, v) => do
      match ← Frame.lookup place v with
      | .missing => return none
      | i => return some (name, i)
    new (.context [] (here ++ published ++ given))
  | _, _ => return context

mutual

/-- Runs a step in a frame. -/
def runStep (place : Nat) : Step → Render Unit
  | .text s => put s
  | .put escaping e => do
    let i ← evaluate place e
    put (← if ← escaping.holds then i.escaped else i.display)
  | .putPlain e => do putPlain (← evaluate place e)
  | .enter starts => Frame.enter place starts
  | .leave vars => vars.forM fun v => Frame.set place v .missing
  | .assign target e => do bindTarget place (← evaluate place e) target
  | .checkSpaces vars => vars.forM fun v => do
    let isSpace ← match ← cellOf? (← Frame.lookup place v) with
      | some (.space _) => pure true
      | _ => pure false
    if !isSpace then problem .refused
  | .publish vars => do
    let context ← Frame.contextOf place
    vars.forM fun v => do
      let i ← Frame.lookup place v
      match ← cellAt context with
      | .context published given => setCell context (.context ((v.name, i) :: published) given)
      | _ => return ()
  | .gather into escaping body => do
    let s ← gathered (runSteps place body)
    Frame.set place into (← escaping.ofText s)
  | .mark v => do
    if ← Filter.escapes then
      Frame.set place v (.markup (← (← Frame.lookup place v).display))
  | .choose branches otherwise => runBranches place (runSteps place otherwise) branches
  | .loop l body otherwise => do
    if l.recursive then
      let again ← new (.again l body otherwise place)
      putPlain (← call (.cell again) ⟨[← evaluate place l.members, .int 0], []⟩)
    else
      throughLoop place l (runSteps place body) (runOption place otherwise)
        (← evaluate place l.members) none 0
  | .define into r body => do
    Frame.set place into (← newItem (.routine r body place (← Filter.escapes)))
  | .block name isRequired seen => do
    if isRequired then problem .refused
    let block ← newItem (.block name (← seenContext place seen))
    putPlain (← call block .none)
  | .escaping e body => do
    let before ← Filter.escapes
    let escapes ← (← evaluate place e).holds
    modifyThe World fun w => { w with escapes := escapes }
    runSteps place body
    modifyThe World fun w => { w with escapes := before }
  | .elsewhere request e => do lookElsewhere request (← evaluate place e)

def runSteps (place : Nat) : List Step → Render Unit
  | [] => return ()
  | s :: ss => do
    runStep place s
    runSteps place ss

def runOption (place : Nat) : Option (List Step) → Option (Render Unit)
  | none => none
  | some ss => some (runSteps place ss)

/-- Runs the first branch whose test holds. -/
def runBranches (place : Nat) (otherwise : Render Unit) :
    List (Term × List Step) → Render Unit
  | [] => otherwise
  | (test, body) :: more => do
    if ← (← evaluate place test).holds then runSteps place body
    else runBranches place otherwise more

end

/-! ## Calls -/

/-- How deep calls may stand in one another, counted in the steps that each of them takes. -/
def maxDepth : Nat := 980

/-- How many steps a call takes. -/
def callDepth : Nat := 4

/-- A computation inside of a call. -/
def deeper {α : Type} (r : Render α) : Render α := do
  let before := (← getThe World).depth
  if maxDepth < before + callDepth then throw .tooDeep
  modifyThe World fun w => { w with depth := before + callDepth }
  let a ← r
  modifyThe World fun w => { w with depth := before }
  return a

/-- The variables of a routine, with what it is given; `missing` for what it is not given. -/
def slotItems (r : Routine) (given : Given) : Render (List (Var × Item)) := do
  let count := r.slots.length
  let direct := given.positional.take count
  let others := r.slots.drop direct.length
  let bound := (r.slots.map (·.var)).zip direct ++
    others.map fun s => (s.var, (given.named.lookup s.var.name).getD .missing)
  let named := given.named.filter fun (s, _) => !others.any (·.var.name == s)
  let isExplicit (slots : List Slot) : Bool := slots.any (·.var.name == "caller")
  let hasCaller := isExplicit (if others.isEmpty then r.slots else others)
  if r.usesCaller && !hasCaller && r.caller.isNone then wrongKind "too many arguments"
  let takesCaller := r.usesCaller && !hasCaller
  let caller := match named.lookup "caller" with
    | none | some .null => .undefined
    | some i => i
  let named := if takesCaller then named.filter (·.1 != "caller") else named
  let callerPart := if takesCaller then r.caller.toList.map fun v => (v, caller) else []
  let namedPart ← match r.moreNamed with
    | some v => do pure [(v, ← newMap (named.map fun (s, i) => (.text s, i)))]
    | none => do
      if !named.isEmpty then wrongKind "the routine takes no such keyword argument"
      pure []
  let morePart ← match r.morePositional with
    | some v => pure [(v, .tuple (given.positional.drop count))]
    | none => do
      if count < given.positional.length then wrongKind "the routine takes not so many arguments"
      pure []
  return bound ++ callerPart ++ namedPart ++ morePart

/-- Gives a slot without an item what it has by default. -/
def fillSlot (place : Nat) (s : Slot) : Render Unit := do
  match ← Frame.lookup place s.var with
  | .missing =>
    let i ← match s.default with
      | some e => evaluate place e
      | none => pure .undefined
    Frame.set place s.var i
  | _ => return ()

/-- What a routine puts out. -/
def runRoutine (r : Routine) (body : List Step) (frame : Nat) (given : Given) : Render String := do
  let vars ← slotItems r given
  let place ← new (.frame ⟨vars, some frame, ← Frame.contextOf frame⟩)
  gathered do
    Frame.enter place r.starts
    r.slots.forM (fillSlot place)
    runSteps place body

/-- Calls an item. What a routine or a block puts out is markup where texts are escaped. -/
def invoke (byTemplate : Bool) (f : Item) (given : Given) : Render Item := do
  match ← cellOf? f with
  | some (.routine r body frame escapes) =>
    let escapes ← if byTemplate then Filter.escapes else pure escapes
    let s ← deeper (runRoutine r body frame given)
    return if escapes then .markup s else .text s
  | some (.again l body otherwise frame) =>
    let b ← given.bind ["reciter"] ["depth"]
    let place ← new (.frame ⟨[], some frame, ← Frame.contextOf frame⟩)
    let depth ← (b.getD "depth" (.int 0)).whole
    let again := match f with
      | .cell place => some place
      | _ => none
    let s ← deeper (gathered (throughLoop place l (runSteps place body) (runOption place otherwise)
      (b.getD "reciter" .undefined) again depth))
    l.escaping.ofText s
  | some (.block name context) =>
    let _ ← given.inOrder 0 0
    let steps := ((← getThe World).blocks.lookup name).getD []
    let place ← new (.frame ⟨[], none, context⟩)
    let s ← deeper (gathered (runSteps place steps))
    Filter.asMarkup s
  | _ => Method.callPlain f given

/-! ## Machines -/

/-- The machine of a rendering, `fuel` limiting how deep calls stand in one another. -/
def machine : Nat → Machine
  | 0 => ⟨fun _ _ _ => throw .tooDeep, fun _ => throw .tooDeep⟩
  | fuel + 1 =>
    ⟨fun byTemplate f given => invoke byTemplate f given (machine fuel),
      fun place => advance passing place (machine fuel)⟩

/-- More calls than this do not stand in one another. -/
def machineDepth : Nat := 1500

/-! ## Whole templates -/

/-- What names stand for in every template. -/
def builtIn : List (String × Item) := [
  ("range", .kind "range"),
  ("dict", .kind "dict"),
  ("lipsum", .function "generate_lorem_ipsum"),
  ("cycler", .kind "jinja2.utils.Cycler"),
  ("joiner", .kind "jinja2.utils.Joiner"),
  ("namespace", .kind "jinja2.utils.Namespace")]

/-- Runs code with names that stand for something. -/
def Code.run (c : Code) (names : List (String × Meaning)) : Render String := do
  modifyThe World fun w => { w with blocks := c.blocks }
  let given ← Item.ofMeanings [] names
  let context ← new (.context [] (given ++ builtIn))
  let place ← new (.frame ⟨[], none, context⟩)
  gathered (runSteps place c.body)

/-- The text that code comes to. -/
def Code.render (c : Code) (names : List (String × Meaning)) : Except Fault String :=
  (c.run names (machine machineDepth)).run' World.empty

end SecurityScan.Template
