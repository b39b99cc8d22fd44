import SecurityScan.Proofs.Outcome

/-!
# Reading staged changes

The version control system is asked once. What it shows is the text to scan; where it is missing,
takes too long or fails, nothing is staged and one warning says why. Any other failure of asking it
is not caught, neither by the reader nor by the scan that needs the text.
-/

namespace SecurityScan

open Files (FileSystem)

/-! ## Asking -/

namespace DiffReader

variable {σ : Type}

theorem staged_eq (r : DiffReader) (shell : Command.Shell σ) (w : σ) {x : Except Fault Value}
    (h : outputOf (r.command stagedArguments) (shell (r.command stagedArguments) w).value.1 = x) :
    r.staged shell w =
      ⟨((stagedOf x).run.value, (shell (r.command stagedArguments) w).value.2),
        (shell (r.command stagedArguments) w).notes ++ (stagedOf x).run.notes⟩ := by
  subst h
  have hnotes : (r.staged shell w).notes =
      ((shell (r.command stagedArguments) w).notes ++ []) ++ (_ ++ []) := rfl
  rw [List.append_nil, List.append_nil] at hnotes
  exact congrArg (Noted.mk _) hnotes

/-- The note that no changes could be read. -/
def unread (reason : String) : Note :=
  ⟨.warning, "⚠️  Could not read staged changes: " ++ reason⟩

theorem run_stagedOf_git (reason : String) :
    (stagedOf (.error (.git reason))).run = ⟨.ok (.str ""), [unread reason]⟩ := rfl

theorem run_stagedOf_ok (v : Value) : (stagedOf (.ok v)).run = ⟨.ok v, []⟩ := rfl

theorem run_stagedOf_error {f : Fault} (h : ∀ reason, f ≠ .git reason) :
    (stagedOf (.error f)).run = ⟨.error f, []⟩ := by
  cases f with
  | git reason => exact absurd rfl (h reason)
  | _ => rfl

/-- How a command ends that shows no changes: it cannot be run, takes too long or fails. -/
inductive Unshown : Command.Outcome → Prop
  | missing : Unshown .missing
  | timedOut : Unshown .timedOut
  | refused {code : Int} (stdout : Option String) (stderr : String) (h : code ≠ 0) :
    Unshown (.finished stdout (some stderr) code)

/-- How a command ends whose outputs are kept as texts: it has both when it finished, and what it
fails with is no reason of the reader's own. -/
def Kept : Command.Outcome → Prop
  | .finished stdout stderr _ => stdout.isSome = true ∧ stderr.isSome = true
  | .failed f => ∀ reason, f ≠ .git reason
  | .missing | .timedOut => True

theorem Kept.cases {outcome : Command.Outcome} (h : Kept outcome) :
    (∃ stdout stderr, outcome = .finished (some stdout) stderr 0) ∨ Unshown outcome ∨
      ∃ f, outcome = .failed f ∧ ∀ reason, f ≠ .git reason := by
  cases outcome with
  | finished stdout stderr code =>
    obtain ⟨hout, herr⟩ := h
    obtain ⟨out, rfl⟩ := Option.isSome_iff_exists.mp hout
    obtain ⟨err, rfl⟩ := Option.isSome_iff_exists.mp herr
    by_cases hcode : code = 0
    · subst hcode
      exact .inl ⟨out, some err, rfl⟩
    · exact .inr (.inl (.refused _ _ hcode))
  | missing => exact .inr (.inl .missing)
  | timedOut => exact .inr (.inl .timedOut)
  | failed f => exact .inr (.inr ⟨f, rfl, h⟩)

theorem outputOf_of_unshown (c : Command) {outcome : Command.Outcome} (h : Unshown outcome) :
    ∃ reason, outputOf c outcome = .error (.git reason) := by
  cases h with
  | missing => exact ⟨_, rfl⟩
  | timedOut => exact ⟨_, rfl⟩
  | refused stdout stderr h => simp [outputOf]

section
variable (r : DiffReader) (shell : Command.Shell σ) (w : σ)

theorem staged_of_shown {stdout : String} {stderr : Option String}
    (h : (shell (r.command stagedArguments) w).value.1 = .finished (some stdout) stderr 0) :
    r.staged shell w = ⟨(.ok (.str stdout), (shell (r.command stagedArguments) w).value.2),
      (shell (r.command stagedArguments) w).notes⟩ := by
  rw [r.staged_eq shell w (x := .ok (.str stdout)) (by rw [h]; rfl), run_stagedOf_ok,
    List.append_nil]

theorem staged_of_unshown (h : Unshown (shell (r.command stagedArguments) w).value.1) :
    ∃ reason, outputOf (r.command stagedArguments) (shell (r.command stagedArguments) w).value.1 =
        .error (.git reason) ∧
      r.staged shell w = ⟨(.ok (.str ""), (shell (r.command stagedArguments) w).value.2),
        (shell (r.command stagedArguments) w).notes ++ [unread reason]⟩ := by
  obtain ⟨reason, hreason⟩ := outputOf_of_unshown (r.command stagedArguments) h
  refine ⟨reason, hreason, ?_⟩
  rw [r.staged_eq shell w hreason, run_stagedOf_git]

theorem staged_of_failed {f : Fault} (hf : ∀ reason, f ≠ .git reason)
    (h : (shell (r.command stagedArguments) w).value.1 = .failed f) :
    r.staged shell w = ⟨(.error f, (shell (r.command stagedArguments) w).value.2),
      (shell (r.command stagedArguments) w).notes⟩ := by
  rw [r.staged_eq shell w (x := .error f) (by rw [h]; rfl), run_stagedOf_error hf, List.append_nil]

/-- Only a failure that nothing translates keeps the reader from a text. -/
theorem exists_staged_iff (h : Kept (shell (r.command stagedArguments) w).value.1) :
    (∃ text, (r.staged shell w).value.1 = .ok (.str text)) ↔
      ∀ f, (shell (r.command stagedArguments) w).value.1 ≠ .failed f := by
  rcases h.cases with ⟨stdout, stderr, hshown⟩ | hunshown | ⟨f, hfailed, hf⟩
  · rw [r.staged_of_shown shell w hshown, hshown]
    exact ⟨fun _ => nofun, fun _ => ⟨stdout, rfl⟩⟩
  · obtain ⟨reason, -, hread⟩ := r.staged_of_unshown shell w hunshown
    rw [hread]
    refine ⟨fun _ f hf => ?_, fun _ => ⟨"", rfl⟩⟩
    rw [hf] at hunshown
    cases hunshown
  · rw [r.staged_of_failed shell w hf hfailed]
    refine ⟨?_, fun hno => absurd hfailed (hno f)⟩
    rintro ⟨text, htext⟩
    cases htext

end

end DiffReader

namespace Scanner

variable {σ : Type}

/-- The outputs of a scan's analyzers by name, unless they are left out. -/
def outputs? (services : Services σ) (onlyAi : Bool) (w : σ) : Option Entries :=
  if onlyAi then none
  else some (Entries.insertAll [] (outputsOf (runsOf services.analyzers w).1))

theorem value_staticOutputs_run (services : Services σ) (onlyAi : Bool) (w : σ) :
    ((staticOutputs services onlyAi).run w).value =
      (.ok (outputs? services onlyAi w), (staticRuns services onlyAi w).2) := by
  cases onlyAi with
  | true => rfl
  | false =>
    have hvalue : (runAnalyzers services.analyzers w).value =
        (Entries.insertAll [] (outputsOf (runsOf services.analyzers w).1),
          (runsOf services.analyzers w).2) := by
      rw [← value_outputs]
      rfl
    show ((some <$> ScanStep.ofSession (runAnalyzers services.analyzers)).run w).value = _
    rw [ScanStep.value_map, ScanStep.value_ofSession, hvalue]
    rfl

section
variable (s : Scanner) (services : Services σ) (fs : FileSystem) (paths : List String)
  (onlyAi force : Bool) {w w' : σ}

theorem dispatched_eq_none {us : List AnalysisUnit} :
    (s.dispatched services us w).1 = none ↔ us = [] := by
  by_cases h : us = [] <;> simp [dispatched, h]

/-- A scan of staged changes that were read has a report, but when there is nothing at all. -/
theorem value_run_of_staged {diff : String}
    (h : ((DiffReader.ofRepository s.root).staged services.shell
      (staticRuns services onlyAi w).2).value = (.ok (.str diff), w')) :
    let units := if diff = "" then [] else AnalysisUnit.ofText s.limit diff none
    let results := s.dispatched services units w'
    ((s.run services fs ⟨.diff, paths, onlyAi, force⟩).run w).value =
      (.ok (if results.1 = none ∧ outputs? services onlyAi w = none then none
        else some (reportOf (results.1.getD []) (outputs? services onlyAi w)).value), results.2) := by
  intro units results
  rw [run, ScanStep.value_bind, value_staticOutputs_run]
  dsimp only
  rw [ScanStep.value_bind, analyzeMode, value_scanDiff s services h]
  dsimp only
  rw [value_conclude]

/-- A scan of staged changes ends with what reading them ends with. -/
theorem value_run_of_unread {f : Fault}
    (h : ((DiffReader.ofRepository s.root).staged services.shell
      (staticRuns services onlyAi w).2).value = (.error f, w')) :
    ((s.run services fs ⟨.diff, paths, onlyAi, force⟩).run w).value = (.error f, w') := by
  have hread : ((ExceptT.mk ((DiffReader.ofRepository s.root).staged services.shell) :
      ScanStep σ Value).run (staticRuns services onlyAi w).2).value = (.error f, w') := h
  rw [run, ScanStep.value_bind, value_staticOutputs_run]
  dsimp only
  rw [ScanStep.value_bind, analyzeMode, scanDiff, ScanStep.value_bind, hread]

end

/-- **Staged changes are read, passed over or stop the scan.** What the command shows is the text.
If it cannot be run, takes too long or fails, the text is empty and one warning gives the reason.
Whatever else keeps it from ending is the end of the reader and of a scan that needs the text, though
its analyzers have run. In the other cases the scan has a report, whose tools are what the analyzers
put out, unless these are left out and there is no text. -/
theorem staged_or_stopped {σ : Type} (s : Scanner) (services : Services σ) (fs : FileSystem)
    (paths : List String) (onlyAi force : Bool) (w : σ) :
    let start := (staticRuns services onlyAi w).2
    let reader := DiffReader.ofRepository s.root
    let command := reader.command DiffReader.stagedArguments
    let asked := services.shell command start
    let read := reader.staged services.shell start
    let ran := ((s.run services fs ⟨.diff, paths, onlyAi, force⟩).run w).value
    (∀ stdout stderr, asked.value.1 = .finished (some stdout) stderr 0 →
      read = ⟨(.ok (.str stdout), asked.value.2), asked.notes⟩) ∧
    (DiffReader.Unshown asked.value.1 → ∃ reason,
      DiffReader.outputOf command asked.value.1 = .error (.git reason) ∧
      read = ⟨(.ok (.str ""), asked.value.2), asked.notes ++ [DiffReader.unread reason]⟩) ∧
    (∀ f, asked.value.1 = .failed f → (∀ reason, f ≠ .git reason) →
      read = ⟨(.error f, asked.value.2), asked.notes⟩ ∧ ran = (.error f, asked.value.2)) ∧
    (DiffReader.Kept asked.value.1 →
      ((∃ text, read.value.1 = .ok (.str text)) ↔ ∀ f, asked.value.1 ≠ .failed f)) ∧
    ∀ text, read.value.1 = .ok (.str text) → ∃ report?, ran.1 = .ok report? ∧
      (report? = none ↔ onlyAi = true ∧ text = "") ∧
      ∀ r ∈ report?, r.tools =
        (CombinedReport.normalizeAll ((outputs? services onlyAi w).getD [])).value := by
  intro start reader command asked read ran
  refine ⟨fun stdout stderr h => reader.staged_of_shown services.shell start h,
    fun h => reader.staged_of_unshown services.shell start h, fun f h hf => ?_,
    fun h => reader.exists_staged_iff services.shell start h, fun text h => ?_⟩
  · have hread : read = _ := reader.staged_of_failed services.shell start hf h
    refine ⟨hread, s.value_run_of_unread services fs paths onlyAi force ?_⟩
    exact congrArg Noted.value hread
  · have hran : ran = _ := s.value_run_of_staged services fs paths onlyAi force (Prod.ext h rfl)
    refine ⟨_, congrArg Prod.fst hran, ?_, fun r hr => ?_⟩
    · have hunits : (if text = "" then [] else AnalysisUnit.ofText s.limit text none) = [] ↔
          text = "" := by
        by_cases htext : text = "" <;> simp [htext, AnalysisUnit.ofText_ne_nil]
      have hleft : outputs? services onlyAi w = none ↔ onlyAi = true := by
        cases onlyAi <;> simp [outputs?]
      rw [ite_eq_left_iff, dispatched_eq_none, hunits, hleft]
      simp [and_comm]
    · rw [Option.mem_def, Option.ite_none_left_eq_some] at hr
      rw [← Option.some.inj hr.2, tools_reportOf]

/-- An analyzer that finds nothing, and commands that all end in one way. -/
def servicesEnding (outcome : Command.Outcome) : Services Unit where
  ask _ _ := pure (.ok .null)
  shell _ := pure outcome
  analyzers := [⟨"brakeman", pure (.ok (.record [("warnings", .list [])]))⟩]

/-- A command that takes too long is one warning and a report all the same. -/
theorem staged_or_stopped_late :
    let read := (DiffReader.ofRepository wideScanner.root).staged (servicesEnding .timedOut).shell ()
    read = ⟨(.ok (.str ""), ()),
      [DiffReader.unread "git command timed out: git diff --staged"]⟩ ∧
    ∃ r, ((wideScanner.run (servicesEnding .timedOut) oneFile ⟨.diff, [], false, false⟩).run
        ()).value.1 = .ok (some r) ∧
      r.tools = [(.str "brakeman", .record [("warnings", .list [])])] := by
  intro read
  obtain ⟨-, hunshown, -, -, hreport⟩ := staged_or_stopped wideScanner (servicesEnding .timedOut)
    oneFile [] false false ()
  obtain ⟨reason, hreason, hread⟩ := hunshown .timedOut
  have hgiven : reason = "git command timed out: git diff --staged" := by
    have hcommand : Except.error (Fault.git "git command timed out: git diff --staged") =
        (.error (.git reason) : Except Fault Value) := hreason
    cases hcommand
    rfl
  obtain ⟨report?, hran, hnone, htools⟩ := hreport "" (congrArg (·.value.1) hread)
  cases report? with
  | none => exact absurd (hnone.mp rfl).1 Bool.false_ne_true
  | some r =>
    have hkept : (CombinedReport.normalizeOutput (.str "brakeman")
        (.record [("warnings", .list [])])).value = .record [("warnings", .list [])] := by
      simp [CombinedReport.normalizeOutput, Value.record, CombinedReport.toolName, Value.str?,
        CombinedReport.resultField?, Entries.field?_cons_str, Value.list?, Value.opened]
    refine ⟨by rw [← hgiven]; exact hread, r, hran, (htools r rfl).trans ?_⟩
    rw [← hkept]
    rfl

/-- A command that may not be run, or whose output is no text, ends the scan without a warning. -/
theorem uncaught_failure_stops_staged :
    let denied := Fault.outside "PermissionError" "[Errno 13] Permission denied"
    let undecodable := Fault.undecodable ⟨0xff, 0, 1, .badStart⟩
    let reader := DiffReader.ofRepository wideScanner.root
    let scan (f : Fault) :=
      (wideScanner.run (servicesEnding (.failed f)) oneFile ⟨.diff, [], false, false⟩).run ()
    reader.staged (servicesEnding (.failed denied)).shell () = ⟨(.error denied, ()), []⟩ ∧
      (scan denied).value.1 = .error denied ∧
      reader.staged (servicesEnding (.failed undecodable)).shell () =
        ⟨(.error undecodable, ()), []⟩ ∧
      (scan undecodable).value.1 = .error undecodable :=
  ⟨rfl, rfl, rfl, rfl⟩

end Scanner

end SecurityScan
