import SecurityScan.Analyzer.Tool
import SecurityScan.Proofs.Ending
import SecurityScan.Proofs.Freezing

/-!
# How a run of a static analyzer ends

A tool is run once. What it prints is its report if it is a JSON object, whatever its exit status. It
has no report if it is missing, takes too long or prints anything else that is malformed. A run stops
where its options have no text, where the command fails in a way that nobody translates, and at a text
whose reading stops for another cause than being malformed.
-/

namespace SecurityScan

/-! ## Documents with space around them -/

namespace Json

theorem skipSpace_append {before : List Char} (h : ∀ c ∈ before, isSpace c = true) (cs : List Char) :
    skipSpace (before ++ cs) = skipSpace cs :=
  List.dropWhile_append_of_pos h

theorem skipSpace_eq_nil {after : List Char} (h : ∀ c ∈ after, isSpace c = true) :
    skipSpace after = [] := by
  have hskip := skipSpace_append h []
  rwa [List.append_nil] at hskip

theorem not_digit_of_isSpace {c : Char} (h : isSpace c = true) :
    Text.isDigit c = false ∧ c ≠ '.' ∧ c ≠ 'e' ∧ c ≠ 'E' := by
  simp only [isSpace, Bool.or_eq_true, beq_iff_eq] at h
  rcases h with ((rfl | rfl) | rfl) | rfl <;> decide

theorem endsNumber_spaces {after : List Char} (h : ∀ c ∈ after, isSpace c = true) :
    EndsNumber after := by
  cases after with
  | nil => exact endsNumber_nil
  | cons c cs => exact endsNumber_cons (not_digit_of_isSpace (h c (List.mem_cons_self ..))) cs

/-- The text of an object is read back with any space around it. -/
theorem read_spaced (style : Style) {es : Entries} (hes : (Value.map es).IsDocument)
    {before after : List Char} (hbefore : ∀ c ∈ before, isSpace c = true)
    (hafter : ∀ c ∈ after, isSpace c = true) :
    read (String.ofList (before ++ (valueText style 0 (.map es) ++ after))) =
      if (Value.map es).nesting ≤ maxDepth then .ok (.map es) else .error .tooDeep := by
  have hstarts := starts_valueText style 0 hes after
  have hmark : ∀ cs, before ++ (valueText style 0 (.map es) ++ after) ≠ '\uFEFF' :: cs := by
    intro cs h
    cases before with
    | nil =>
      obtain ⟨rest, hrest⟩ := List.head?_eq_some_iff.mp (head?_mapText style 0 es)
      rw [List.nil_append, hrest] at h
      cases h
    | cons c bs =>
      obtain rfl := (List.cons.inj h).1
      exact absurd (hbefore _ (List.mem_cons_self ..)) (by decide)
  rw [read, String.toList_ofList, readDocument]
  · rw [skipSpace_append hbefore, skipSpace_of_starts hstarts,
      (readsBack style _).value hes (endsNumber_spaces hafter) (by simp; omega)]
    split
    · simp only [bind, Except.bind, skipSpace_eq_nil hafter]
      rfl
    · rfl
  · exact hmark

end Json

namespace Analyzer

/-! ## The command -/

/-- An option that is left out, or one that has a text. -/
def HasArgument (option : Value × Value) : Prop :=
  option.2 = .bool false ∨ option.2 = .null ∨ option.1.HasText ∧ option.2.HasText

theorem hasArgument_iff {key v : Value} (hfalse : v ≠ .bool false) (hnull : v ≠ .null) :
    HasArgument (key, v) ↔ key.HasText ∧ v.HasText :=
  ⟨fun h => (h.resolve_left hfalse).resolve_left hnull, fun h => .inr (.inr h)⟩

theorem returns_optionArgument (option : Value × Value) :
    Returns (optionArgument option.1 option.2) ↔ HasArgument option := by
  obtain ⟨key, v⟩ := option
  dsimp only
  unfold optionArgument
  split
  · rw [returns_bind_iff fun _ => returns_pure, Value.returns_displayed_iff,
      hasArgument_iff (by simp) (by simp)]
    exact (and_iff_left rfl).symm
  · exact iff_of_true returns_ok (.inl rfl)
  · exact iff_of_true returns_ok (.inr (.inl rfl))
  · rename_i hfalse hnull
    rw [returns_bind_and fun _ => returns_bind_iff fun _ => returns_pure,
      Value.returns_displayed_iff, Value.returns_displayed_iff, hasArgument_iff hfalse hnull]

theorem stops_optionArgument (option : Value × Value) :
    Stops Value.TextFault (optionArgument option.1 option.2) := by
  unfold optionArgument
  split
  · exact (Value.stops_displayed _).bind fun _ _ => stops_ok
  · exact stops_ok
  · exact stops_ok
  · exact (Value.stops_displayed _).bind fun _ _ => (Value.stops_displayed _).bind fun _ _ => stops_ok

variable (a : Analyzer)

theorem returns_command : Returns a.command ↔ ∀ option ∈ a.options, HasArgument option := by
  rw [command, returns_bind_iff fun _ => returns_pure, optionArguments,
    returns_bind_iff fun _ => returns_pure, returns_mapM]
  simp only [returns_optionArgument]

theorem stops_command : Stops Value.TextFault a.command :=
  ((stops_mapM stops_optionArgument a.options).bind fun _ _ => stops_ok).bind fun _ _ => stops_ok

/-! ## What a command comes to -/

/-- A command that printed a report: a JSON object, whatever its exit status. -/
inductive Reports : Command.Outcome → Entries → Prop
  | printed {stdout stderr : Option String} {code : Int} {es : Entries}
    (h : Json.read (stdout.getD "") = .ok (.map es)) : Reports (.finished stdout stderr code) es

/-- What no step on the way to a report catches: a failure of the command that is not told as one of
the tool, and what stops the reading of a text but its being malformed. -/
inductive Escapes : Command.Outcome → Fault → Prop
  | failed {f : Fault} (h : ∀ reason, f ≠ .tool reason) : Escapes (.failed f) f
  | tooManyDigits {stdout stderr : Option String} {code : Int} {n : Nat}
    (h : Json.read (stdout.getD "") = .error (.tooManyDigits n)) :
    Escapes (.finished stdout stderr code) (.tooManyDigits n)
  | tooDeep {stdout stderr : Option String} {code : Int}
    (h : Json.read (stdout.getD "") = .error .tooDeep) : Escapes (.finished stdout stderr code) .tooDeep

theorem Reports.unique {outcome : Command.Outcome} {es fs : Entries} (h : Reports outcome es)
    (h' : Reports outcome fs) : es = fs := by
  obtain ⟨h⟩ := h
  obtain ⟨h'⟩ := h'
  exact Value.map.inj (Except.ok.inj (h.symm.trans h'))

theorem Escapes.unique {outcome : Command.Outcome} {f g : Fault} (h : Escapes outcome f)
    (h' : Escapes outcome g) : f = g := by
  cases h with
  | failed => cases h'; rfl
  | tooManyDigits h =>
    cases h' with
    | tooManyDigits h' =>
      rw [h] at h'
      cases h'
      rfl
    | tooDeep h' => cases h.symm.trans h'
  | tooDeep h =>
    cases h' with
    | tooManyDigits h' => cases h.symm.trans h'
    | tooDeep => rfl

theorem Reports.not_escapes {outcome : Command.Outcome} {es : Entries} (h : Reports outcome es)
    (f : Fault) : ¬Escapes outcome f := by
  obtain ⟨h⟩ := h
  intro hf
  cases hf with
  | tooManyDigits h' => cases h.symm.trans h'
  | tooDeep h' => cases h.symm.trans h'

/-- A run comes to a report, to a fault or to nothing. -/
inductive Comes (outcome : Command.Outcome) : Except Fault Value → Prop
  | report {es : Entries} (h : Reports outcome es) : Comes outcome (.ok (.map es))
  | fault {f : Fault} (h : Escapes outcome f) : Comes outcome (.error f)
  | nothing (hreport : ∀ es, ¬Reports outcome es) (hfault : ∀ f, ¬Escapes outcome f) :
    Comes outcome (.ok .null)

theorem comes_nothing {stdout stderr : Option String} {code : Int}
    (hreport : ∀ es, Json.read (stdout.getD "") ≠ .ok (.map es))
    (hdigits : ∀ n, Json.read (stdout.getD "") ≠ .error (.tooManyDigits n))
    (hdeep : Json.read (stdout.getD "") ≠ .error .tooDeep) :
    Comes (.finished stdout stderr code) (.ok .null) := by
  refine .nothing (fun es hes => ?_) fun f hf => ?_
  · obtain ⟨h⟩ := hes
    exact hreport es h
  · cases hf with
    | tooManyDigits h => exact hdigits _ h
    | tooDeep h => exact hdeep h

theorem comes_report (stdout stderr : Option String) (code : Int) :
    Comes (.finished stdout stderr code) (a.report (stdout.getD "")).run.value := by
  rw [report]
  cases hread : Json.read (stdout.getD "") with
  | error e =>
    cases e with
    | malformed => exact comes_nothing (by simp [hread]) (by simp [hread]) (by simp [hread])
    | tooManyDigits n => exact .fault (.tooManyDigits hread)
    | tooDeep => exact .fault (.tooDeep hread)
  | ok v =>
    cases v with
    | map es => exact .report (.printed hread)
    | _ => exact comes_nothing (by simp [hread]) (by simp [hread]) (by simp [hread])

theorem comes_reportOf (c : Command) (outcome : Command.Outcome) :
    Comes outcome (a.reportOf c outcome).run.value := by
  cases outcome with
  | finished stdout stderr code => exact a.comes_report stdout stderr code
  | missing => exact .nothing nofun nofun
  | timedOut => exact .nothing nofun nofun
  | failed f =>
    have hescapes (h : ∀ reason, f ≠ .tool reason) : Escapes (.failed f) f := .failed h
    cases f with
    | tool reason => exact .nothing nofun fun f hf => by cases hf with | failed h => exact h _ rfl
    | _ => exact .fault (hescapes nofun)

section
variable {outcome : Command.Outcome} {result : Except Fault Value} (h : Comes outcome result)
include h

theorem Comes.report_iff {es : Entries} : result = .ok (.map es) ↔ Reports outcome es := by
  constructor
  · rintro rfl
    cases h with
    | report h => exact h
  · intro hreport
    cases h with
    | report h => rw [h.unique hreport]
    | fault h => exact absurd h (hreport.not_escapes _)
    | nothing hno _ => exact absurd hreport (hno es)

theorem Comes.fault_iff {f : Fault} : result = .error f ↔ Escapes outcome f := by
  constructor
  · rintro rfl
    cases h with
    | fault h => exact h
  · intro hfault
    cases h with
    | report h => exact absurd hfault (h.not_escapes f)
    | fault h => rw [h.unique hfault]
    | nothing _ hno => exact absurd hfault (hno f)

theorem Comes.nothing_iff : result = .ok .null ↔
    (∀ es, ¬Reports outcome es) ∧ ∀ f, ¬Escapes outcome f := by
  constructor
  · rintro rfl
    cases h with
    | nothing hreport hfault => exact ⟨hreport, hfault⟩
  · rintro ⟨hreport, hfault⟩
    cases h with
    | report h => exact absurd h (hreport _)
    | fault h => exact absurd h (hfault _)
    | nothing => rfl

end

/-- What is in a text that a run ends at. -/
theorem cause_of_escapes {stdout stderr : Option String} {code : Int} {f : Fault}
    (h : Escapes (.finished stdout stderr code) f) :
    f = .tooDeep ∧ Json.maxDepth < (stdout.getD "").toList.countP Json.isOpening ∨
      ∃ ds, ds <:+: (stdout.getD "").toList ∧ Json.AllDigits ds ∧ Number.maxDigits < ds.length ∧
        f = .tooManyDigits ds.length := by
  cases h with
  | tooDeep h => exact .inl ⟨rfl, Json.countP_of_tooDeep h⟩
  | tooManyDigits h =>
    obtain ⟨hn, ds, hds, rfl, hdigits⟩ := Json.exists_of_tooManyDigits h
    exact .inr ⟨ds, hds, hdigits, hn, rfl⟩

/-! ## Runs -/

variable {σ : Type} (shell : Command.Shell σ) (w : σ)

theorem value_run_of_error {f : Fault} (h : a.command = .error f) :
    (a.run shell w).value = (.error f, w) := by
  rw [run, h]
  rfl

theorem value_run_of_ok {c : Command} (h : a.command = .ok c) :
    (a.run shell w).value =
      ((a.reportOf c (shell c w).value.1).run.value, (shell c w).value.2) := by
  rw [run, h]
  rfl

/-- **How a run of a static analyzer ends.** Its options make a command if each of them is left out or
has a text; else that fault is the end and nothing is run. The command is run once. The result is the
object that it printed, whatever its exit status; a fault if the command fails in a way that is not
told as one of the tool, or if its output has numbers too long or brackets too many to be read; and
nothing otherwise. The text of an object, with any space around it, is that object unless it nests
too deep. -/
theorem run_ends {σ : Type} (a : Analyzer) (shell : Command.Shell σ) (w : σ) :
    (Returns a.command ↔ ∀ option ∈ a.options, HasArgument option) ∧
    (∀ f, a.command = .error f → Value.TextFault f ∧ (a.run shell w).value = (.error f, w)) ∧
    ∀ c, a.command = .ok c →
      let outcome := (shell c w).value.1
      let result := (a.run shell w).value.1
      (a.run shell w).value.2 = (shell c w).value.2 ∧
      (∀ es, result = .ok (.map es) ↔ Reports outcome es) ∧
      (∀ f, result = .error f ↔ Escapes outcome f) ∧
      (result = .ok .null ↔ (∀ es, ¬Reports outcome es) ∧ ∀ f, ¬Escapes outcome f) ∧
      (∀ stdout stderr code f, outcome = .finished stdout stderr code → result = .error f →
        f = .tooDeep ∧ Json.maxDepth < (stdout.getD "").toList.countP Json.isOpening ∨
          ∃ ds, ds <:+: (stdout.getD "").toList ∧ Json.AllDigits ds ∧
            Number.maxDigits < ds.length ∧ f = .tooManyDigits ds.length) ∧
      ∀ style es before after stderr code, (Value.map es).IsDocument →
        (∀ c ∈ before, Json.isSpace c = true) → (∀ c ∈ after, Json.isSpace c = true) →
        outcome = .finished (some (String.ofList
          (before ++ (Json.valueText style 0 (.map es) ++ after)))) stderr code →
        result = if (Value.map es).nesting ≤ Json.maxDepth then .ok (.map es) else .error .tooDeep := by
  refine ⟨a.returns_command, fun f hf => ⟨a.stops_command f hf, a.value_run_of_error shell w hf⟩,
    fun c hc => ?_⟩
  intro outcome result
  have hrun := a.value_run_of_ok shell w hc
  have hcomes : Comes outcome result := by
    have hresult : result = (a.reportOf c outcome).run.value := congrArg Prod.fst hrun
    rw [hresult]
    exact a.comes_reportOf c outcome
  refine ⟨congrArg Prod.snd hrun, fun _ => hcomes.report_iff, fun _ => hcomes.fault_iff,
    hcomes.nothing_iff, fun stdout stderr code f hfinished hf => ?_,
    fun style es before after stderr code hes hbefore hafter hprinted => ?_⟩
  · have hescapes := hcomes.fault_iff.mp hf
    rw [hfinished] at hescapes
    exact cause_of_escapes hescapes
  · have hread := Json.read_spaced style hes hbefore hafter
    split
    · rename_i hshallow
      rw [if_pos hshallow] at hread
      refine hcomes.report_iff.mpr ?_
      rw [hprinted]
      exact .printed hread
    · rename_i hdeep
      rw [if_neg hdeep] at hread
      refine hcomes.fault_iff.mpr ?_
      rw [hprinted]
      exact .tooDeep hread

/-- Brakeman with one option. -/
def quietBrakeman : Analyzer where
  tool := .brakeman
  options := [(.str "-q", .bool true)]
  directory := none
  timeout := .int 600

/-- Commands that all end in one way. -/
def ending (outcome : Command.Outcome) : Command.Shell Unit := fun _ => pure outcome

theorem command_quietBrakeman : quietBrakeman.command =
    .ok ⟨["brakeman", "-f", "json", ".", "--force", "-q"], none, .int 600⟩ := rfl

/-- A report of no warnings is the result though the command says by its status that it failed. -/
theorem run_ends_quietBrakeman :
    let es : Entries := [(.str "warnings", .list [])]
    let printed := String.ofList (Json.valueText .compact 0 (.map es) ++ ['\n'])
    (∃ c, quietBrakeman.command = .ok c) ∧ (Value.map es).IsDocument ∧
      (quietBrakeman.run (ending (.finished (some printed) none 3)) ()).value.1 = .ok (.map es) := by
  intro es printed
  have hes : (Value.map es).IsDocument :=
    ⟨List.pairwise_singleton _ _, ⟨"warnings", rfl, by decide⟩, trivial, trivial⟩
  obtain ⟨-, -, -, -, -, hprinted⟩ :=
    (run_ends quietBrakeman (ending (.finished (some printed) none 3)) ()).2.2 _ command_quietBrakeman
  have hresult := hprinted .compact es [] ['\n'] none 3 hes (List.forall_mem_nil _)
    (List.forall_mem_singleton.mpr rfl) rfl
  rw [if_pos (by decide)] at hresult
  exact ⟨⟨_, command_quietBrakeman⟩, hes, hresult⟩

theorem run_long_number {n : Nat} (h : Number.maxDigits < n) :
    (quietBrakeman.run (ending (.finished (some (Manager.oneReply n)) (some "") 0)) ()).value.1 =
      .error (.tooManyDigits n) := by
  have hescapes : Escapes (.finished (some (Manager.oneReply n)) (some "") 0) (.tooManyDigits n) :=
    .tooManyDigits (Json.read_ones h)
  rw [value_run_of_ok quietBrakeman _ () command_quietBrakeman]
  exact (quietBrakeman.comes_reportOf _ _).fault_iff.mpr hescapes

/-- A command that may not be run, or a number of 4301 digits in what it prints, is not told as a tool
without a report. -/
theorem uncaught_failure_stops_run :
    let denied := Fault.outside "PermissionError" "[Errno 13] Permission denied"
    (quietBrakeman.run (ending (.failed denied)) ()).value.1 = .error denied ∧
      (quietBrakeman.run (ending (.finished (some (Manager.oneReply 4301)) (some "") 0))
        ()).value.1 = .error (.tooManyDigits 4301) :=
  ⟨rfl, run_long_number (by decide)⟩

end Analyzer

end SecurityScan
