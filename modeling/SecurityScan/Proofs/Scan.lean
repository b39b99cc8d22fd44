import SecurityScan.Proofs.Collect
import SecurityScan.Proofs.Dispatch
import SecurityScan.Proofs.Prompt

/-!
# Scans of paths

A scan of paths asks about the units of the files that can be read, file by file in ascending order,
each unit once and in its turn, whatever the replies are. The findings of its report are those of
the replies, in the order of the questions. Only a template that is too wide for a unit keeps the
scan from asking about it.
-/

namespace SecurityScan

open Files (FileSystem)

/-! ## Recorded services -/

/-- A question to the backend, the form of its reply, and what came of it. -/
abbrev Exchange := (String × Value) × Except Fault Value

/-- The services with every question to the backend put on record. -/
def Services.recorded {σ : Type} (services : Services σ) : Services (σ × List Exchange) where
  ask prompt schema :=
    Session.recorded (fun q : String × Value => services.ask q.1 q.2) (prompt, schema)
  shell command := Session.unrecorded (services.shell command)
  analyzers := services.analyzers.map fun a => ⟨a.name, Session.unrecorded a.run⟩

namespace Scanner

variable {σ : Type}

/-! ## Questions -/

/-- The findings of replies, in order. -/
def findingsOf (calls : List Exchange) : List Value :=
  calls.flatMap fun c => (CombinedReport.findingsOf? (entryOf c.2)).getD []

/-- The question that a scan asks about a unit, if it can. -/
def questionOf? (s : Scanner) (u : AnalysisUnit) : Option (String × Value) :=
  (s.prompt? u).map fun prompt => (prompt, Reply.schema)

/-- The calls ask about the units, each once and in order, and their findings are all those of the
results. -/
structure Answers (s : Scanner) (us : List AnalysisUnit) (rs : List Value) (calls : List Exchange) :
    Prop where
  asked : calls.map (·.1) = us.filterMap s.questionOf?
  found : CombinedReport.combine rs = findingsOf calls

section
variable (s : Scanner) (services : Services σ)

theorem Answers.nil : s.Answers [] [] [] := ⟨rfl, rfl⟩

theorem Answers.append {us vs : List AnalysisUnit} {rs ss : List Value} {cs ds : List Exchange}
    (h : s.Answers us rs cs) (h' : s.Answers vs ss ds) : s.Answers (us ++ vs) (rs ++ ss) (cs ++ ds) where
  asked := by rw [List.map_append, h.asked, h'.asked, List.filterMap_append]
  found := by
    rw [CombinedReport.combine_append, h.found, h'.found]
    exact List.flatMap_append.symm

/-- What one unit is asked: nothing when it has no prompt, else the one question with that prompt. -/
theorem askAbout_writes (u : AnalysisUnit) :
    Session.Writes (s.askAbout services.recorded u) fun o calls =>
      s.Answers [u] [entryOf o] calls := by
  refine (Session.writes_ofNoted _).bind fun r es h => ?_
  obtain ⟨hr, rfl⟩ := h
  cases hb : (s.prompts.build (s.question u) Prompts.usualKey).run.value with
  | error f =>
    rw [hr, hb]
    refine (Session.writes_pure _).imp fun o calls h => ?_
    have hq : s.questionOf? u = none := by simp [questionOf?, prompt?, hb, Except.toOption]
    rw [h.1, h.2]
    exact ⟨by simp [hq], rfl⟩
  | ok prompt =>
    rw [hr, hb]
    refine (Session.writes_recorded (fun q : String × Value => services.ask q.1 q.2) _).imp
      fun o calls h => ?_
    have hq : s.questionOf? u = some (prompt, Reply.schema) := by
      simp [questionOf?, prompt?, hb, Except.toOption]
    rw [h]
    exact ⟨by simp [hq], by simp [CombinedReport.combine, findingsOf]⟩

theorem analyzeText_writes (content : String) (label : Option String) :
    ScanStep.Writes (s.analyzeText services.recorded content label)
      (s.Answers (AnalysisUnit.ofText s.limit content label)) :=
  ScanStep.writes_ofSession (AnalysisUnit.analyzeText_writes
    (AnalysisUnit.analyzeAll_writes (s.askAbout_writes services) (Answers.nil s)
      (fun _ _ _ _ _ _ hu hus => Answers.append s hu hus) _))

/-! ## Files -/

/-- The files that can be read, each with its text. -/
def readable (fs : FileSystem) (files : List String) : List (String × String) :=
  files.filterMap fun p => (fs.readText (Path.tidy p)).toOption.map (p, ·)

/-- The units of a text, labelled by its file. -/
def unitsOf (s : Scanner) (file : String × String) : List AnalysisUnit :=
  AnalysisUnit.ofText s.limit file.2 (some (s.project.displayPath file.1))

theorem value_sourceText {fs : FileSystem} {path : String} (h : Files.pathFault? path = none) :
    (sourceText? fs path).run.value = .ok (fs.readText (Path.tidy path)).toOption := by
  unfold sourceText?
  cases hr : fs.readText (Path.tidy path) with
  | ok text => rfl
  | error f =>
    simp only [Files.isUnreadable_of_readText (Files.pathFault?_tidy h) hr, if_true]
    rfl

/-- Files are asked about one after the other, and those that cannot be read not at all. -/
theorem analyzeFiles_writes (fs : FileSystem) : ∀ files : List String,
    (∀ p ∈ files, Files.pathFault? p = none) →
      ScanStep.Writes (s.analyzeFiles services.recorded fs files) fun results calls =>
        s.Answers ((readable fs files).flatMap s.unitsOf) (results.getD []) calls ∧
          (results = none ↔ readable fs files = [])
  | [], _ => ScanStep.writes_pure ⟨Answers.nil s, iff_of_true rfl rfl⟩
  | path :: rest, h => by
    obtain ⟨hp, hrest⟩ := List.forall_mem_cons.mp h
    have ih := analyzeFiles_writes fs rest hrest
    refine (ScanStep.writes_ofAttempt (value_sourceText hp)).after fun text? ht => ?_
    -- what is read of this file stands before what is read of the others
    have hread : readable fs (path :: rest) =
        (text?.map (path, ·)).toList ++ readable fs rest := by
      rw [ht, readable, List.filterMap_cons]
      cases (fs.readText (Path.tidy path)).toOption <;> rfl
    cases text? with
    | none => rw [hread]; exact ih
    | some text =>
      refine (ScanStep.writes_note _ _).after fun _ _ => ?_
      refine (s.analyzeText_writes services text _).bind fun here cs hcs => ih.bind fun later ds hds =>
        ScanStep.writes_pure ?_
      rw [hread, List.append_nil]
      exact ⟨Answers.append s hcs hds.1, iff_of_false (by simp) (by simp)⟩

/-! ## Scans -/

/-- The files that a scan of paths looks at. -/
def pathFiles (s : Scanner) (fs : FileSystem) (paths : List String) (force : Bool) : List String :=
  (s.collector force).collection fs paths

theorem scanPaths_writes (fs : FileSystem) (paths : List String) (onlyAi force : Bool) :
    let files := readable fs (s.pathFiles fs paths force)
    ScanStep.Writes (s.scanPaths services.recorded fs ⟨.paths, paths, onlyAi, force⟩)
      fun results calls =>
        s.Answers (files.flatMap s.unitsOf) (results.getD []) calls ∧
          (results = none ↔ files = []) := by
  intro files
  refine (ScanStep.writes_ofSession (Session.writes_ofNoted _)).after fun found hf => ?_
  have hf : found = s.pathFiles fs paths force := hf
  split
  · rename_i hempty
    have hnone : files = [] := by
      have : s.pathFiles fs paths force = [] := by simpa [hf] using hempty
      simp only [files, this]
      rfl
    refine (ScanStep.writes_note _ _).after fun _ _ => ScanStep.writes_pure ?_
    rw [hnone]
    exact ⟨Answers.nil s, iff_of_true rfl rfl⟩
  · refine (ScanStep.writes_note _ _).after fun _ _ => ?_
    rw [hf]
    refine s.analyzeFiles_writes services fs _ fun p hp => ?_
    exact Files.pathFault?_of_hasFile (Collector.hasFile_of_mem_collection hp)

theorem outputs_writes : ∀ (analyzers : List (StaticAnalyzer (σ × List Exchange))) (es : Entries),
    (∀ a ∈ analyzers, Session.Writes a.run fun _ calls => calls = []) →
      Session.Writes (outputs es analyzers) fun _ calls => calls = []
  | [], es, _ => (Session.writes_pure _).imp fun _ _ h => h.2
  | a :: rest, es, h => by
    obtain ⟨ha, hrest⟩ := List.forall_mem_cons.mp h
    refine ha.bind fun o cs hcs => (Session.writes_ofNoted _).bind fun out ds hds => ?_
    rw [hcs, hds.2]
    exact outputs_writes rest _ hrest

theorem findings_reportOf (results : List Value) (outputs : Option Entries) :
    (reportOf results outputs).value.findings = CombinedReport.combine results := by
  have hb : ∀ os, (CombinedReport.build (CombinedReport.ofFindings (CombinedReport.combine results))
      os).value.findings = CombinedReport.combine results := by
    intro os
    simp [CombinedReport.build]
  simp only [reportOf]
  split <;> simp [hb]

theorem staticOutputs_writes (onlyAi : Bool) :
    ScanStep.Writes (staticOutputs services.recorded onlyAi) fun outputs calls =>
      (outputs = none ↔ onlyAi = true) ∧ calls = [] := by
  unfold staticOutputs
  split
  · rename_i ho
    exact ScanStep.writes_pure ⟨iff_of_true rfl ho, rfl⟩
  · rename_i ho
    have hrun : Session.Writes (runAnalyzers services.recorded.analyzers)
        fun _ calls => calls = [] := by
      refine (Session.writes_ofNoted _).bind fun _ es hes => ?_
      rw [hes.2]
      refine outputs_writes _ [] fun a ha => ?_
      obtain ⟨b, -, rfl⟩ := List.mem_map.mp ha
      exact Session.writes_unrecorded b.run
    exact (ScanStep.writes_ofSession hrun).map some fun outputs calls h =>
      ⟨iff_of_false (by simp) ho, h⟩

theorem conclude_writes (results : UnitResults) (outputs : Option Entries) :
    ScanStep.Writes (conclude results outputs : ScanStep (σ × List Exchange) _) fun report? calls =>
      calls = [] ∧ report?.map (·.findings) =
        if results = none ∧ outputs = none then none
        else some (CombinedReport.combine (results.getD [])) := by
  have hreport : ScanStep.Writes (some <$> ScanStep.ofSession (Session.ofNoted
      (reportOf (results.getD []) outputs)) : ScanStep (σ × List Exchange) (Option CombinedReport))
      fun report? calls =>
        calls = [] ∧ report?.map (·.findings) = some (CombinedReport.combine (results.getD [])) := by
    refine (ScanStep.writes_ofSession (Session.writes_ofNoted _)).map some fun report calls h => ?_
    rw [h.1, Option.map_some, findings_reportOf]
    exact ⟨h.2, rfl⟩
  cases results with
  | some rs => exact hreport.imp fun report? es h => ⟨h.1, by rw [h.2, if_neg (by simp)]⟩
  | none =>
    cases outputs with
    | some os => exact hreport.imp fun report? es h => ⟨h.1, by rw [h.2, if_neg (by simp)]⟩
    | none => exact (ScanStep.writes_note _ _).after fun _ _ => ScanStep.writes_pure ⟨rfl, rfl⟩

/-- A scan of paths comes to a report of what its calls have found, unless it had nothing to do. -/
theorem run_writes (fs : FileSystem) (paths : List String) (onlyAi force : Bool) :
    let files := readable fs (s.pathFiles fs paths force)
    ScanStep.Writes (s.run services.recorded fs ⟨.paths, paths, onlyAi, force⟩) fun report? calls =>
      calls.map (·.1) = (files.flatMap s.unitsOf).filterMap s.questionOf? ∧
        report?.map (·.findings) =
          if onlyAi = true ∧ files = [] then none else some (findingsOf calls) := by
  intro files
  refine (staticOutputs_writes services onlyAi).after fun outputs ho => ?_
  refine (s.scanPaths_writes services fs paths onlyAi force).bind fun results calls hres => ?_
  obtain ⟨hans, hnone⟩ := hres
  refine (conclude_writes results outputs).imp fun report? es h => ?_
  -- the two ways in which there was nothing to do
  have hc : results = none ∧ outputs = none ↔ onlyAi = true ∧ files = [] := by
    rw [hnone, ho, and_comm]
  rw [h.1, List.append_nil, h.2, if_congr hc rfl rfl, hans.found]
  exact ⟨hans.asked, rfl⟩

/-! ## Recording a scan -/

theorem askAbout_follows (u : AnalysisUnit) :
    Session.Follows (s.askAbout services.recorded u) (s.askAbout services u) := by
  refine (Session.follows_ofNoted _).bind fun r => ?_
  cases r with
  | error f => exact Session.follows_pure _
  | ok prompt =>
    exact Session.follows_recorded (fun q : String × Value => services.ask q.1 q.2)
      (prompt, Reply.schema)

theorem analyzeFiles_follows (fs : FileSystem) : ∀ files : List String,
    ScanStep.Follows (s.analyzeFiles services.recorded fs files) (s.analyzeFiles services fs files)
  | [] => ScanStep.follows_pure _
  | path :: rest => by
    refine (ScanStep.follows_ofAttempt _).bind fun text? => ?_
    cases text? with
    | none => exact analyzeFiles_follows fs rest
    | some text =>
      refine (ScanStep.follows_note _ _).bind fun _ => (ScanStep.follows_ofSession ?_).bind fun _ =>
        (analyzeFiles_follows fs rest).bind fun _ => ScanStep.follows_pure _
      exact AnalysisUnit.follows_analyzeText (s.askAbout_follows services) _ _ _

theorem scanPaths_follows (fs : FileSystem) (request : ScanRequest) :
    ScanStep.Follows (s.scanPaths services.recorded fs request) (s.scanPaths services fs request) := by
  refine (ScanStep.follows_ofSession (Session.follows_ofNoted _)).bind fun files => ?_
  split
  · exact (ScanStep.follows_note _ _).bind fun _ => ScanStep.follows_pure _
  · exact (ScanStep.follows_note _ _).bind fun _ => s.analyzeFiles_follows services fs files

theorem outputs_follows : ∀ (analyzers : List (StaticAnalyzer σ)) (es : Entries),
    Session.Follows (τ := List Exchange)
      (outputs es (analyzers.map fun a => ⟨a.name, Session.unrecorded a.run⟩)) (outputs es analyzers)
  | [], _ => Session.follows_pure _
  | a :: rest, _ => (Session.follows_unrecorded a.run).bind fun _ =>
      (Session.follows_ofNoted _).bind fun _ => outputs_follows rest _

theorem staticOutputs_follows (onlyAi : Bool) :
    ScanStep.Follows (staticOutputs services.recorded onlyAi) (staticOutputs services onlyAi) := by
  unfold staticOutputs
  split
  · exact ScanStep.follows_pure _
  · exact (ScanStep.follows_ofSession ((Session.follows_ofNoted _).bind fun _ =>
      outputs_follows services.analyzers [])).map some

theorem conclude_follows (results : UnitResults) (outputs : Option Entries) :
    ScanStep.Follows (τ := List Exchange) (conclude results outputs : ScanStep (σ × List Exchange) _)
      (conclude results outputs) := by
  unfold conclude
  split
  · exact (ScanStep.follows_note _ _).bind fun _ => ScanStep.follows_pure _
  · exact (ScanStep.follows_ofSession (Session.follows_ofNoted _)).map some

/-- A scan of paths does the same whether its calls are recorded or not. -/
theorem run_follows (fs : FileSystem) (paths : List String) (onlyAi force : Bool) :
    ScanStep.Follows (s.run services.recorded fs ⟨.paths, paths, onlyAi, force⟩)
      (s.run services fs ⟨.paths, paths, onlyAi, force⟩) :=
  (staticOutputs_follows services onlyAi).bind fun outputs =>
    (s.scanPaths_follows services fs _).bind fun results => conclude_follows results outputs

end

/-! ## Units -/

/-- The units of a text: together they are the text, there is at least one of them, and each has the
label of the text, with its number behind it unless it is the only one. -/
structure UnitsOf (label text : String) (us : List AnalysisUnit) : Prop where
  joined : String.join (us.map (·.content)) = text
  ne_nil : us ≠ []
  of_empty : text = "" → us = [⟨"", some label⟩]
  labelled : ∀ j (hj : j < us.length), (us[j]).label = some (
    if us.length = 1 then label
    else label ++ " (chunk " ++ toString (j + 1) ++ "/" ++ toString us.length ++ ")")

theorem unitsOf_ofText (limit : Nat) (text : String) {label : String} (hl : label ≠ "") :
    UnitsOf label text (AnalysisUnit.ofText limit text (some label)) where
  joined := AnalysisUnit.join_ofText limit text _
  ne_nil := AnalysisUnit.ofText_ne_nil limit text _
  of_empty h := by rw [h, AnalysisUnit.ofText_empty]
  labelled j hj := AnalysisUnit.label_ofText limit text hl j hj

theorem displayPath_ne_empty {fs : FileSystem} (p : Project) {path : String}
    (h : fs.isFile path = true) : p.displayPath path ≠ "" := by
  simp only [Project.displayPath]
  split
  · exact FileSystem.baseName_ne_empty h
  · rename_i hr
    simpa using hr

/-! ## One call for each unit -/

/-- **A scan of paths.** It looks at the files in ascending order and leaves out those that cannot
be read or decoded. It asks about the units of the others in their order, and about all of them
exactly when the template is not too wide for any; a unit that it is too wide for is left out. The
scan comes to an end in every case, and its report has the findings of the replies in the order of
the calls. -/
theorem run_asks_units {σ : Type} (s : Scanner) (services : Services σ) (fs : FileSystem)
    (paths : List String) (onlyAi force : Bool) (w : σ) :
    let request : ScanRequest := ⟨.paths, paths, onlyAi, force⟩
    let files := s.pathFiles fs paths force
    let texts := readable fs files
    let units := texts.flatMap s.unitsOf
    let calls := ((s.run services.recorded fs request).run (w, [])).value.2.2
    ScanStep.Follows (s.run services.recorded fs request) (s.run services fs request) ∧
      files.Pairwise (· < ·) ∧
      (∀ p ∈ files, ∀ f, fs.readText (Path.tidy p) = .error f → Files.isUnreadable f = true) ∧
      (∀ t ∈ texts, UnitsOf (s.project.displayPath t.1) t.2 (s.unitsOf t)) ∧
      calls.map (·.1) = units.filterMap s.questionOf? ∧
      (∀ u, s.questionOf? u = none ↔ s.TooWide u) ∧
      (calls.length = units.length ↔ ∀ u ∈ units, ¬s.TooWide u) ∧
      ∃ report?, ((s.run services fs request).run w).value.1 = .ok report? ∧
        report?.map (·.findings) =
          if onlyAi = true ∧ texts = [] then none else some (findingsOf calls) := by
  intro request files texts units calls
  have hfile : ∀ p ∈ files, fs.hasFile p = true := fun p hp => Collector.hasFile_of_mem_collection hp
  have hquestion : ∀ u, s.questionOf? u = none ↔ s.TooWide u := fun u => by
    rw [← s.prompt?_eq_none_iff, questionOf?, Option.map_eq_none_iff]
  obtain ⟨cs, hcs, report?, hrun, hasked, hreport⟩ :=
    s.run_writes services fs paths onlyAi force w []
  have hcalls : calls = cs := hcs
  have hfollows := s.run_follows services fs paths onlyAi force
  rw [hcalls]
  refine ⟨hfollows, Collector.pairwise_collection paths, ?_, ?_, hasked, hquestion, ?_, report?, ?_,
    hreport⟩
  · intro p hp f hf
    have hfault := Files.pathFault?_of_hasFile (hfile p hp)
    exact Files.isUnreadable_of_readText (Files.pathFault?_tidy hfault) hf
  · intro t ht
    obtain ⟨p, hp, hr⟩ := List.mem_filterMap.mp ht
    obtain ⟨text, -, rfl⟩ := Option.map_eq_some_iff.mp hr
    exact unitsOf_ofText s.limit text
      (displayPath_ne_empty s.project (Files.isFile_of_hasFile (hfile p hp)))
  · rw [← cs.length_map (·.1), hasked, List.filterMap_length_eq_length]
    refine forall₂_congr fun u _ => ?_
    rw [← hquestion, Option.isSome_iff_ne_none]
  · rw [← (hfollows w []).1, hrun]

/-! ## A unit without a call -/

/-- Settings that set this template for all prompts and leave all else as usual. -/
def wideConfig : Config where
  provider := "auto"
  model := "auto"
  anthropicKey := .str ""
  openaiKey := .str ""
  ollamaEndpoint := .str ""
  maxTokens := 4096
  requestTimeout := .ofRatio false 300 1
  checks := Risk.usualNames
  language := "en"
  promptTemplates := [(.str "default", .str Prompts.wideTemplate)]
  chunkSize := 8000
  sourceExtensions := [.str ".rb"]
  ignoreFile := ".codewardignore"
  brakemanOptions := []
  bundlerAuditOptions := []
  toolTimeout := 600
  reportPath := "./codeward_report"
  htmlTemplate := none
  githubActionsPath := ".github/workflows/codeward_scan.yml"
  gitlabPath := ".gitlab-ci.yml"

def wideScanner : Scanner where
  config := wideConfig
  project := ⟨"/work", some "/work"⟩
  prompts := Prompts.ofTemplates wideConfig.promptTemplates wideConfig.language
  rules := []
  limit := 8000

theorem tooWide_wideScanner (u : AnalysisUnit) : wideScanner.TooWide u := by
  have ht : wideScanner.prompts.template Prompts.usualKey = .str Prompts.wideTemplate := by
    simp [wideScanner, wideConfig, Prompts.template, Prompts.ofTemplates, Entries.insertAll,
      Entries.insert, Entries.field?, Entries.get?, Prompts.usualKey]
  obtain ⟨values, hv⟩ := @Prompts.values_ok wideScanner.prompts (wideScanner.question u) _ rfl
    (show Json.writable Reply.schema = true by decide)
  exact ⟨values, hv, by rw [ht]; exact Prompts.fill_wideTemplate values⟩

def oneFile : FileSystem where
  top := [("work", .dir [("a.rb", .file [120, 10])])]
  cwd := "/work"

theorem find_oneFile : oneFile.find "/work/a.rb" = .ok (.file ["work", "a.rb"] [120, 10]) := by
  have hn : Text.splitOn '/' "/work/a.rb" = ["", "work", "a.rb"] := by decide
  simp +decide [FileSystem.find, hn, Files.walk, oneFile, Files.Dir.at, Files.Dir.child?]

theorem readable_oneFile :
    readable oneFile (wideScanner.pathFiles oneFile ["a.rb"] false) = [("/work/a.rb", "x\n")] := by
  have hp : Files.pathFault? "/work/a.rb" = none := by decide
  have ht : (wideScanner.collector false).takes "/work/a.rb" = true := by
    have hs : Path.suffix "/work/a.rb" = ".rb" := by decide
    simp [Collector.takes, Collector.isSource, collector, wideScanner, wideConfig, hs,
      Project.excludes, IgnoreRule.excludes]
  have hf : wideScanner.pathFiles oneFile ["a.rb"] false = ["/work/a.rb"] := by
    have ha : Path.absolute oneFile.cwd "a.rb" = "/work/a.rb" := by decide
    simp [pathFiles, Collector.collection_eq, ha, Collector.filesAt?, hp, find_oneFile, ht,
      ascending, dropRepeats]
  have hr : oneFile.readText (Path.tidy "/work/a.rb") = .ok "x\n" := by
    have htidy : Path.tidy "/work/a.rb" = "/work/a.rb" := by decide
    simp [FileSystem.readText, htidy, hp, FileSystem.read, find_oneFile]
    decide
  rw [hf, readable, List.filterMap_cons, hr]
  rfl

/-- A backend that finds the same in every unit. -/
def oneFinding : Services Unit where
  ask _ _ := pure (.ok (.record [("security_risks", .list [.str "risk"])]))
  shell _ := pure .missing
  analyzers := []

/-- A unit about which nothing is asked. -/
theorem unit_without_call :
    let texts := readable oneFile (wideScanner.pathFiles oneFile ["a.rb"] false)
    (texts.flatMap wideScanner.unitsOf).map (·.content) = ["x\n"] ∧
      ((wideScanner.run oneFinding.recorded oneFile ⟨.paths, ["a.rb"], true, false⟩).run
        ((), [])).value.2.2 = [] := by
  intro texts
  have ht : texts = [("/work/a.rb", "x\n")] := readable_oneFile
  obtain ⟨cs, hcs, report?, -, hasked, -⟩ :=
    wideScanner.run_writes oneFinding oneFile ["a.rb"] true false () []
  refine ⟨?_, hcs.trans ?_⟩
  · rw [ht]
    rfl
  · have hnone : ∀ u, wideScanner.questionOf? u = none := fun u => by
      rw [questionOf?, Option.map_eq_none_iff, prompt?_eq_none_iff]
      exact tooWide_wideScanner u
    rw [List.nil_append, ← List.map_eq_nil_iff, hasked, List.filterMap_eq_nil_iff]
    exact fun u _ => hnone u

end Scanner

end SecurityScan
