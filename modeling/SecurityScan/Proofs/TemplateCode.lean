import SecurityScan.Proofs.Attempt
import SecurityScan.Template.Preparation

/-!
# What keeps statements from being made into code

Statements can keep the rules of templates and still have no code: parts stand too deep in one
another, a number is too long to be written, what they say has no meaning, or a constant part
cannot be computed beforehand.
-/

namespace SecurityScan.Template

namespace Expr

/-- Whether what an expression comes to counts as true, if all is known of it. -/
def holds? (filters : Bool) (e : Expr String) : Render (Option Bool) := do
  match ← e.known? filters with
  | none => return none
  | some i => some <$> i.holds

end Expr

/-- What keeps statements from being made into code. -/
inductive CodeDefect : Defect → Prop
  | malformed : CodeDefect .malformed
  | tooDeep : CodeDefect (.fault .tooDeep)
  | tooLong : CodeDefect (.fault Fault.tooLongToWrite)
  /-- A part uses a variable that it does not have. -/
  | noVariable : CodeDefect (.fault (.template .failedCheck))
  | tooIndented : CodeDefect (.fault (.template .tooIndented))
  | meaningless : CodeDefect (.fault (.template .meaningless))
  | constant {e : Expr String} {escapes : Bool} {f : Fault} (h : e.folded escapes = .error f) :
      CodeDefect (.fault f)
  | condition {e : Expr String} {filters escapes : Bool} {f : Fault}
      (h : beforehand escapes (e.holds? filters) = .error f) : CodeDefect (.fault f)

namespace Prepare

/-- A step of making code that stops for one of the causes at most. -/
abbrev Makes {α : Type} (x : Prepare α) : Prop := Keeps (fun _ => True) CodeDefect x

section
variable {α : Type}

theorem makes_malformed : Makes (malformed : Prepare α) := keeps_throw .malformed

theorem makes_tooDeep : Makes (fault .tooDeep : Prepare α) := keeps_throw .tooDeep

theorem makes_ofResult {x : Except Fault α} (h : ∀ f, x = .error f → CodeDefect (.fault f)) :
    Makes (ofResult x) := by
  cases x with
  | ok a => exact keeps_pure a
  | error f => exact keeps_throw (h f rfl)

theorem makes_modify (f : Findings → Findings) : Makes (modify f) := fun _ _ => ends_modify trivial

theorem makes_get : Makes (get : Prepare Findings) := fun _ _ => ends_get trivial

end

theorem makes_meaningless : Makes meaningless := makes_modify _

theorem makes_checkIndent (p : Place) : Makes (checkIndent p) :=
  keeps_ite (makes_modify _) (keeps_pure ())

theorem makes_checkNames (names : List String) : Makes (checkNames names) :=
  keeps_ite makes_meaningless (keeps_pure ())

theorem makes_checkHeights (es : List (Expr String)) : Makes (checkHeights es) :=
  keeps_ite makes_tooDeep (keeps_pure ())

theorem makes_var (p : Place) (name : String) : Makes (var p name) := by
  rw [var]
  split
  · exact keeps_pure _
  · exact keeps_throw .noVariable

theorem makes_use (p : Place) (name : String) : Makes (use p name) :=
  (makes_var p name).bind fun _ => keeps_pure _

theorem makes_published (p : Place) (names : List String) : Makes (published p names) :=
  keeps_ite ((keeps_mapM (makes_var p) names).bind fun _ => keeps_pure _) (keeps_pure _)

/-! ### Expressions -/

theorem makes_arguments {α β : Type} {f : α → Prepare β} (h : ∀ a, Makes (f a))
    (a : Arguments α) : Makes (a.mapM f) := by
  refine (keeps_mapM h _).bind fun _ => Keeps.bind (keeps_mapM (fun (s, x) => ?_) _) fun _ =>
    (keeps_option_mapM h _).bind fun _ => (keeps_option_mapM h _).bind fun _ => keeps_pure _
  exact (h x).bind fun _ => keeps_pure _

theorem makes_mapParts {ν μ : Type} {onName : ν → Prepare (Expr μ)} {f : Expr ν → Prepare (Expr μ)}
    (hname : ∀ n, Makes (onName n)) (h : ∀ e, Makes (f e)) (e : Expr ν) :
    Makes (e.mapParts onName f) := by
  cases e <;> rw [Expr.mapParts]
  case const | captured => exact keeps_pure _
  case name n => exact hname n
  case tuple es | list es | concat es => exact (keeps_mapM h es).bind fun _ => keeps_pure _
  case map es =>
    refine Keeps.bind (keeps_mapM (fun (k, e) => ?_) es) fun _ => keeps_pure _
    exact (h k).bind fun _ => (h e).bind fun _ => keeps_pure _
  case field e _ | negate e | positive e | not e => exact (h e).bind fun _ => keeps_pure _
  case item a b | and a b | or a b | arith a b =>
    exact (h a).bind fun _ => (h b).bind fun _ => keeps_pure _
  case slice e a b c =>
    exact (h e).bind fun _ => (keeps_option_mapM h a).bind fun _ =>
      (keeps_option_mapM h b).bind fun _ => (keeps_option_mapM h c).bind fun _ => keeps_pure _
  case mixedSlice e bounds =>
    exact (h e).bind fun _ => (keeps_mapM h bounds).bind fun _ => keeps_pure _
  case call e a | filter e _ a | test e _ a =>
    exact (h e).bind fun _ => (makes_arguments h a).bind fun _ => keeps_pure _
  case compare e rest =>
    refine (h e).bind fun _ => Keeps.bind (keeps_mapM (fun (c, e) => ?_) rest) fun _ => keeps_pure _
    exact (h e).bind fun _ => keeps_pure _
  case choose t a b =>
    exact (h t).bind fun _ => (h a).bind fun _ => (keeps_option_mapM h b).bind fun _ => keeps_pure _

theorem makes_resolved (p : Place) (captured : Option Var) (fuel : Nat) (e : Expr String) :
    Makes (resolved p captured fuel e) := by
  induction fuel generalizing p e with
  | zero =>
    rw [resolved]
    exact makes_tooDeep
  | succ fuel ih =>
    unfold resolved
    extract_lets known arguments inside rest
    have hrest : ∀ e, Makes (pure e >>= rest) := fun e => (keeps_pure e).bind
      (makes_mapParts (fun s => (makes_use p s).bind fun _ => keeps_pure _) (ih inside))
    have hknown : ∀ isKnown, Makes (known isKnown) := fun _ =>
      keeps_ite makes_malformed (keeps_pure ())
    have harguments : ∀ added a, Makes (arguments added a) := fun _ _ =>
      (makes_checkNames _).bind fun _ => keeps_pure _
    split
    case h_1 => exact keeps_when (keeps_throw .tooLong) fun _ => hrest _
    case h_2 | h_3 => exact (hknown _).bind fun _ => (harguments _ _).bind fun _ => hrest _
    case h_4 => exact (harguments _ _).bind fun _ => hrest _
    case h_6 => exact makes_meaningless.bind fun _ => hrest _
    case h_7 =>
      split
      · exact hrest _
      · exact hrest _
    case h_8 =>
      split
      · exact keeps_pure _
      · exact hrest _
    case h_5 | h_9 => exact hrest _

theorem makes_termWith (p : Place) (captured : Option Var) (around : Nat) (e : Expr String) :
    Makes (termWith p captured around e) := by
  have hfolded : Makes (ofResult (e.folded p.escapes)) := makes_ofResult fun f h => .constant h
  refine keeps_when makes_tooDeep fun _ => keeps_ite_bind hfolded (keeps_pure _) fun e => ?_
  refine (makes_resolved p captured _ e).bind fun t => ?_
  exact keeps_when makes_meaningless fun _ => keeps_pure _

theorem makes_term (p : Place) (e : Expr String) : Makes (term p e) := makes_termWith p none 1 e

mutual

theorem makes_targetOf (p : Place) : ∀ t : Target String, Makes (targetOf p t)
  | .name n => (makes_var p n).bind fun _ => keeps_pure _
  | .tuple ts => (makes_targetsOf p ts).bind fun _ => keeps_pure _
  | .member space _ => (makes_var p space).bind fun _ => keeps_pure _

theorem makes_targetsOf (p : Place) : ∀ ts : List (Target String), Makes (targetOf.targetsOf p ts)
  | [] => keeps_pure _
  | t :: ts => (makes_targetOf p t).bind fun _ => (makes_targetsOf p ts).bind fun _ => keeps_pure _

end

/-! ### Statements -/

theorem makes_outputOf (p : Place) (pieces : List Piece) : Makes (outputOf p pieces) := by
  refine (makes_checkHeights _).bind fun _ => makes_get.bind fun _ => keeps_ite (keeps_pure _) ?_
  refine keeps_mapM (fun piece => ?_) pieces
  cases piece with
  | data s => exact keeps_pure _
  | value e =>
    dsimp only
    split
    · exact keeps_pure _
    · exact (makes_termWith p none _ e).bind fun _ => keeps_pure _

/-- A variable that is only asked for where it is wanted. -/
theorem makes_ite_var {c : Prop} [Decidable c] (p : Place) (name : String) :
    Makes (if c then some <$> var p name else return none) :=
  keeps_ite ((makes_var p name).map some) (keeps_pure none)

theorem makes_routineOf (p : Place) (name : Option String) (ps : List Parameter)
    (body : List Statement) : Makes (routineOf p name ps body) := by
  unfold routineOf
  refine keeps_when makes_meaningless fun _ => keeps_when makes_malformed fun _ => ?_
  refine (makes_checkIndent _).bind fun _ => (keeps_mapM (makes_var _) _).bind fun vars => ?_
  refine Keeps.bind (keeps_mapM ?_ _) fun slots => ?_
  · rintro ⟨⟨s, default⟩, n⟩
    exact (keeps_option_mapM (makes_term _) _).bind fun _ => (makes_var _ _).bind fun _ =>
      keeps_pure _
  · exact (makes_ite_var _ _).bind fun _ => (makes_ite_var _ _).bind fun _ =>
      (makes_ite_var _ _).bind fun _ => keeps_pure _

mutual

/-- A statement is made into steps, whatever stands in it, or one of the causes stops that. -/
theorem makes_steps (p : Place) : ∀ x : Statement, Makes (steps p x)
  | .output pieces => by
    rw [steps]
    exact (makes_outputOf p pieces).bind fun _ => keeps_pure _
  | .choose branches otherwise => by
    rw [steps]
    exact (makes_stepsOfBranches _ branches).bind fun _ => (makes_stepsOf _ otherwise).bind
      fun _ => (makes_checkIndent _).bind fun _ => keeps_pure _
  | .loop t members test recursive body otherwise => by
    rw [steps]
    refine (makes_checkHeights _).bind fun _ => (makes_checkIndent _).bind fun _ =>
      keeps_when makes_meaningless fun _ => ?_
    dsimp only
    split
    case' h_1 => refine (keeps_pure none).bind fun _ => ?_
    case' h_2 =>
      refine (makes_checkIndent _).bind fun _ => (makes_term _ _).bind fun _ =>
        (keeps_pure _).bind fun _ => ?_
    -- with a test and without one the rest is the same
    all_goals
      refine keeps_when makes_malformed fun _ => (makes_targetOf _ t).bind fun _ =>
        (makes_term p members).bind fun _ => ?_
      refine keeps_ite_bind ((makes_var _ _).map some) (keeps_pure none) fun _ => ?_
      exact (makes_stepsOf _ body).bind fun _ => (makes_stepsOf _ otherwise).bind fun _ =>
        keeps_pure _
  | .assign t e => by
    rw [steps]
    refine (makes_checkHeights _).bind fun _ => ?_
    extract_lets rest
    have hrest : ∀ check, Makes (rest check) := fun _ =>
      (makes_targetOf p t).bind fun _ => (makes_term p e).bind fun _ =>
        (makes_published p _).bind fun _ => keeps_pure _
    split
    · exact (keeps_pure []).bind hrest
    · exact (keeps_mapM (makes_var p) _).bind fun _ => (keeps_pure _).bind hrest
  | .capture t filter body => by
    rw [steps]
    refine (makes_checkHeights _).bind fun _ => (makes_stepsOf _ body).bind fun _ =>
      (makes_targetOf _ t).bind fun _ => ?_
    extract_lets rest
    have hrest : ∀ made, Makes (rest made) := fun _ =>
      (makes_published p _).bind fun _ => keeps_pure _
    split
    · exact (keeps_pure _).bind hrest
    · exact (makes_termWith _ _ _ _).bind fun _ => (keeps_pure _).bind hrest
  | .scope bindings body => by
    rw [steps]
    refine (makes_checkHeights _).bind fun _ => Keeps.bind (keeps_mapM ?_ _) fun _ => ?_
    · rintro ⟨t, e⟩
      exact (makes_targetOf _ t).bind fun _ => (makes_term _ e).bind fun _ => keeps_pure _
    · exact (makes_stepsOf _ body).bind fun _ => keeps_pure _
  | .filtered filter body => by
    rw [steps]
    exact (makes_checkHeights _).bind fun _ => (makes_stepsOf _ body).bind fun _ =>
      (makes_termWith _ _ _ filter).bind fun _ => keeps_pure _
  | .escaping e body => by
    rw [steps]
    refine (makes_checkHeights _).bind fun _ => (makes_term _ e).bind fun _ => ?_
    have hknown : Makes (ofResult (beforehand p.escapes (e.holds? p.isSettled))) :=
      makes_ofResult fun f h => .condition h
    refine hknown.bind fun known => ?_
    extract_lets rest
    have hrest : ∀ inside, Makes (rest inside) := fun inside =>
      (makes_stepsOf inside body).bind fun _ => keeps_pure _
    split
    · exact (keeps_pure _).bind hrest
    · exact (keeps_pure _).bind hrest
  | .block name isScoped isRequired _ => by
    rw [steps]
    exact makes_get.bind fun _ => keeps_ite (keeps_pure _) (keeps_pure _)
  | .define name ps body => by
    rw [steps]
    exact (makes_checkHeights _).bind fun _ => (makes_routineOf p _ ps body).bind fun (here, r) =>
      (makes_stepsOf here body).bind fun _ => (makes_var p name).bind fun _ =>
        (makes_published p _).bind fun _ => keeps_pure _
  | .calling ps function arguments body => by
    rw [steps]
    refine (makes_checkHeights _).bind fun _ => (makes_routineOf p _ ps body).bind fun (here, r) =>
      (makes_stepsOf here body).bind fun _ => (makes_checkNames _).bind fun _ =>
        (makes_termWith p _ _ _).bind fun t => ?_
    split
    · exact keeps_pure _
    · exact keeps_pure _
  | .elsewhere request e => by
    cases request with
    | extend =>
      rw [steps]
      refine (makes_checkHeights _).bind fun _ => keeps_when makes_malformed fun _ =>
        makes_get.bind fun _ => keeps_ite (keeps_pure _) ?_
      exact (makes_term p e).bind fun _ => (makes_modify _).bind fun _ => keeps_pure _
    | _ =>
      rw [steps]
      · exact (makes_checkHeights _).bind fun _ => (makes_term p e).bind fun _ => keeps_pure _
      · rintro ⟨⟩

theorem makes_stepsOf (p : Place) : ∀ xs : List Statement, Makes (stepsOf p xs)
  | [] => keeps_pure _
  | x :: xs => by
    rw [stepsOf]
    refine (makes_steps p x).bind fun (here, stops) => ?_
    exact keeps_ite (keeps_pure _) ((makes_stepsOf p xs).bind fun _ => keeps_pure _)

theorem makes_stepsOfBranches (p : Place) :
    ∀ branches : List (Expr String × List Statement), Makes (stepsOfBranches p branches)
  | [] => keeps_pure _
  | (test, body) :: more => by
    rw [stepsOfBranches]
    exact (makes_checkHeights _).bind fun _ => (makes_term p test).bind fun _ =>
      (makes_stepsOf _ body).bind fun _ => (makes_stepsOfBranches p more).bind fun _ => keeps_pure _

end

/-! ### Templates -/

theorem makes_bodySteps (p : Place) (given : List (String × Source)) (body : List Statement) :
    Makes (bodySteps p given body) :=
  (makes_stepsOf _ body).bind fun _ => keeps_pure _

theorem makes_code (ss : List Statement) : Makes (code ss) := by
  unfold code
  refine keeps_when makes_malformed fun _ => (makes_bodySteps _ _ ss).bind fun _ =>
    Keeps.bind (keeps_mapM (fun b => ?_) _) fun _ => keeps_pure _
  exact (makes_bodySteps _ _ b.body).bind fun _ => keeps_pure _

end Prepare

/-- Statements that are not made into code are so for one of the causes. -/
theorem stops_ofStatements (ss : List Statement) : Stops CodeDefect (Code.ofStatements ss) := by
  refine (Prepare.makes_code ss _ trivial).stops.bind fun (code, found) _ => ?_
  dsimp only
  split
  · exact stops_error .tooIndented
  · split
    · exact stops_error .meaningless
    · exact stops_ok

end SecurityScan.Template
