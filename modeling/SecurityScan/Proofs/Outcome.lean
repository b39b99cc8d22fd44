import SecurityScan.Proofs.Attempt
import SecurityScan.Proofs.Mapping
import SecurityScan.Proofs.Scan
import SecurityScan.Proofs.Trim

/-!
# What a scan comes to

A scan is the runs of its analyzers and then the analysis of its units, whatever the mode. Each step
is given by what it returns and what it leaves of its surroundings, with the lines it logs left out;
the run is assembled from the steps.
-/

namespace SecurityScan

open Files (FileSystem)

namespace ScanStep

variable {σ α β : Type}

theorem value_bind (x : ScanStep σ α) (f : α → ScanStep σ β) (w : σ) :
    ((x >>= f).run w).value = match (x.run w).value with
      | (.ok a, w') => ((f a).run w').value
      | (.error e, w') => (.error e, w') := by
  rw [ExceptT.run_bind, Session.bind_apply, Noted.value_bind]
  obtain ⟨r, w'⟩ := (x.run w).value
  cases r <;> rfl

@[simp] theorem value_pure (a : α) (w : σ) : ((pure a : ScanStep σ α).run w).value = (.ok a, w) := rfl

@[simp] theorem value_ofSession (x : Session σ α) (w : σ) :
    ((ofSession x).run w).value = (.ok (x w).value.1, (x w).value.2) := rfl

@[simp] theorem value_ofAttempt (x : Attempt α) (w : σ) :
    ((ofAttempt x : ScanStep σ α).run w).value = (x.run.value, w) := rfl

@[simp] theorem value_note (level : Level) (text : String) (w : σ) :
    ((note level text : ScanStep σ Unit).run w).value = (.ok (), w) := rfl

theorem value_map (f : α → β) (x : ScanStep σ α) (w : σ) :
    ((f <$> x).run w).value = ((x.run w).value.1.map f, (x.run w).value.2) := by
  rw [map_eq_bind, value_bind]
  obtain ⟨r, w'⟩ := (x.run w).value
  cases r <;> rfl

end ScanStep

namespace AnalysisUnit

variable {σ : Type}

theorem value_analyzeAll_cons (call : Analyze σ) (u : AnalysisUnit) (us : List AnalysisUnit) (w : σ) :
    (analyzeAll call (u :: us) w).value =
      (entryOf (call u w).value.1 :: (analyzeAll call us (call u w).value.2).value.1,
        (analyzeAll call us (call u w).value.2).value.2) := by
  have hentry := value_resultOf u (call u w).value.1
  simp only [analyzeAll, analyze, Session.bind_apply, Noted.value_bind]
  rw [← hentry]
  rfl

theorem value_analyzeAll_append (call : Analyze σ) (us vs : List AnalysisUnit) (w : σ) :
    (analyzeAll call (us ++ vs) w).value =
      ((analyzeAll call us w).value.1 ++
          (analyzeAll call vs (analyzeAll call us w).value.2).value.1,
        (analyzeAll call vs (analyzeAll call us w).value.2).value.2) := by
  induction us generalizing w with
  | nil => rfl
  | cons u us ih => simp only [List.cons_append, value_analyzeAll_cons, ih]

end AnalysisUnit

theorem Text.strip_ne_empty {s : String} {c : Char} (hs : s.toList.head? = some c)
    (hc : isBlank c = false) : strip s ≠ "" := by
  obtain ⟨cs, hcs⟩ := List.head?_eq_some_iff.mp hs
  obtain ⟨rest, hrest⟩ := trimRightBy_cons hc cs
  have hleft : trimLeftBy isBlank (c :: cs) = c :: cs := List.dropWhile_cons_of_neg (by simp [hc])
  intro hstrip
  have hlist := congrArg String.toList hstrip
  rw [strip, String.toList_ofList, hcs, trimBy, hleft, hrest] at hlist
  cases hlist

namespace Scanner

variable {σ : Type}

/-! ## The units of a scan -/

def sectionOf (s : Scanner) (file : String × String) : String :=
  sourceSection (s.project.displayPath file.1) file.2

/-- The units of all that a scan looks at, `diff` being the staged changes. -/
def unitsFor (s : Scanner) (fs : FileSystem) (request : ScanRequest) (diff : String) :
    List AnalysisUnit :=
  match request.mode with
  | .paths => (readable fs (s.pathFiles fs request.paths request.force)).flatMap s.unitsOf
  | .diff => if diff = "" then [] else AnalysisUnit.ofText s.limit diff none
  | .all =>
    let files := readable fs (s.pathFiles fs [s.root] request.force)
    if files = [] then []
    else AnalysisUnit.ofText s.limit (String.join (files.map s.sectionOf)) none

theorem readable_cons (fs : FileSystem) (path : String) (rest : List String) :
    readable fs (path :: rest) =
      ((fs.readText (Path.tidy path)).toOption.map (path, ·)).toList ++ readable fs rest := by
  rw [readable, List.filterMap_cons]
  cases (fs.readText (Path.tidy path)).toOption <;> rfl

theorem value_concatenated (s : Scanner) (fs : FileSystem) : ∀ {files : List String},
    (∀ p ∈ files, Files.pathFault? p = none) → (concatenated fs s.project files).run.value =
      .ok (String.join ((readable fs files).map s.sectionOf))
  | [], _ => rfl
  | path :: rest, h => by
    obtain ⟨hpath, hrest⟩ := List.forall_mem_cons.mp h
    have ih := value_concatenated s fs hrest
    rw [concatenated, Attempt.value_bind, value_sourceText hpath, readable_cons]
    simp only [Attempt.value_bind, ih]
    cases (fs.readText (Path.tidy path)).toOption with
    | none => simp
    | some text => simp [sectionOf]

/-! ## Analyzing the units -/

/-- What comes of analyzing units one after the other; nothing when there are none. -/
def dispatched (s : Scanner) (services : Services σ) (us : List AnalysisUnit) (w : σ) :
    UnitResults × σ :=
  let r := (AnalysisUnit.analyzeAll (s.askAbout services) us w).value
  (if us = [] then none else some r.1, r.2)

section
variable (s : Scanner) (services : Services σ) (fs : FileSystem)

theorem value_analyzeText (content : String) (label : Option String) (w : σ) :
    ((s.analyzeText services content label).run w).value =
      (.ok (AnalysisUnit.analyzeAll (s.askAbout services)
          (AnalysisUnit.ofText s.limit content label) w).value.1,
        (AnalysisUnit.analyzeAll (s.askAbout services)
          (AnalysisUnit.ofText s.limit content label) w).value.2) := by
  rw [analyzeText, ScanStep.value_ofSession, AnalysisUnit.value_analyzeText]

theorem dispatched_of_ne_nil {us : List AnalysisUnit} (h : us ≠ []) (w : σ) :
    s.dispatched services us w =
      (some (AnalysisUnit.analyzeAll (s.askAbout services) us w).value.1,
        (AnalysisUnit.analyzeAll (s.askAbout services) us w).value.2) := by
  simp only [dispatched, if_neg h]

theorem value_analyzeFiles : ∀ {files : List String}, (∀ p ∈ files, Files.pathFault? p = none) →
    ∀ w, ((s.analyzeFiles services fs files).run w).value =
      (.ok (s.dispatched services ((readable fs files).flatMap s.unitsOf) w).1,
        (s.dispatched services ((readable fs files).flatMap s.unitsOf) w).2)
  | [], _, w => rfl
  | path :: rest, h, w => by
    obtain ⟨hpath, hrest⟩ := List.forall_mem_cons.mp h
    have ih := value_analyzeFiles hrest
    rw [analyzeFiles, ScanStep.value_bind, ScanStep.value_ofAttempt, value_sourceText hpath,
      readable_cons]
    cases (fs.readText (Path.tidy path)).toOption with
    | none => simpa using ih w
    | some text =>
      -- this file has a unit, so that something is analyzed whatever the others have
      have hunits : s.unitsOf (path, text) ≠ [] := AnalysisUnit.ofText_ne_nil _ _ _
      have hne : s.unitsOf (path, text) ++ (readable fs rest).flatMap s.unitsOf ≠ [] := by
        simp [hunits]
      have hlater : ∀ w, (s.dispatched services ((readable fs rest).flatMap s.unitsOf) w).1.getD [] =
          (AnalysisUnit.analyzeAll (s.askAbout services)
            ((readable fs rest).flatMap s.unitsOf) w).value.1 := by
        intro w
        by_cases hnil : (readable fs rest).flatMap s.unitsOf = []
        · rw [hnil]; rfl
        · rw [dispatched_of_ne_nil s services hnil]; rfl
      simp only [Option.map_some, Option.toList_some, List.singleton_append, List.flatMap_cons,
        ScanStep.value_bind, ScanStep.value_note, value_analyzeText, ih, ScanStep.value_pure, hlater,
        dispatched_of_ne_nil s services hne, AnalysisUnit.value_analyzeAll_append]
      rfl

theorem pathFault?_pathFiles {paths : List String} {force : Bool} :
    ∀ p ∈ s.pathFiles fs paths force, Files.pathFault? p = none :=
  fun _ hp => Files.pathFault?_of_hasFile (Collector.hasFile_of_mem_collection hp)

theorem value_collect (paths : List String) (force : Bool) (w : σ) :
    ((ScanStep.ofSession (Session.ofNoted ((s.collector force).collect fs
      (paths.map (ScanTarget.ofPath fs.cwd))))).run w).value =
      (.ok (s.pathFiles fs paths force), w) := rfl

theorem value_scanPaths (request : ScanRequest) (w : σ) :
    let files := readable fs (s.pathFiles fs request.paths request.force)
    ((s.scanPaths services fs request).run w).value =
      (.ok (s.dispatched services (files.flatMap s.unitsOf) w).1,
        (s.dispatched services (files.flatMap s.unitsOf) w).2) := by
  intro files
  rw [scanPaths, ScanStep.value_bind, value_collect]
  by_cases hempty : s.pathFiles fs request.paths request.force = []
  · have hfiles : files = [] := by simp [files, hempty, readable]
    rw [hfiles, hempty]
    rfl
  · have hsome : (s.pathFiles fs request.paths request.force).isEmpty = false := by simp [hempty]
    have hvalue := s.value_analyzeFiles services fs
      (@pathFault?_pathFiles s fs request.paths request.force) w
    simp only [hsome, Bool.false_eq_true, if_false, ScanStep.value_bind, ScanStep.value_note, hvalue,
      files]

theorem value_scanDiff {diff : String} {w w' : σ}
    (h : ((DiffReader.ofRepository s.root).staged services.shell w).value = (.ok (.str diff), w')) :
    let units := if diff = "" then [] else AnalysisUnit.ofText s.limit diff none
    ((s.scanDiff services).run w).value =
      (.ok (s.dispatched services units w').1, (s.dispatched services units w').2) := by
  intro units
  have hread : ((ExceptT.mk ((DiffReader.ofRepository s.root).staged services.shell) :
      ScanStep σ Value).run w).value = (.ok (.str diff), w') := h
  rw [scanDiff, ScanStep.value_bind, hread]
  by_cases hempty : diff = ""
  · simp only [units, hempty]
    rfl
  · have hne : AnalysisUnit.ofText s.limit diff none ≠ [] := AnalysisUnit.ofText_ne_nil _ _ _
    simp only [Value.str?, Option.getD_some, units, if_neg hempty, dispatched_of_ne_nil s services hne,
      ScanStep.value_bind, ScanStep.value_note, value_analyzeText, ScanStep.value_pure]

theorem value_scanAll (request : ScanRequest) (w : σ) :
    let files := readable fs (s.pathFiles fs [s.root] request.force)
    let units := if files = [] then []
      else AnalysisUnit.ofText s.limit (String.join (files.map s.sectionOf)) none
    ((s.scanAll services fs request).run w).value =
      (.ok (s.dispatched services units w).1, (s.dispatched services units w).2) := by
  intro files units
  have hfault := @pathFault?_pathFiles s fs [s.root] request.force
  have hcollect := s.value_collect fs [s.root] request.force w
  rw [List.map_singleton] at hcollect
  rw [scanAll, ScanStep.value_bind, hcollect]
  simp only [ScanStep.value_bind, ScanStep.value_ofAttempt, s.value_concatenated fs hfault]
  by_cases hempty : files = []
  · have hblank : Text.strip (String.join (files.map s.sectionOf)) = "" := by
      rw [hempty]; rfl
    simp only [files] at hblank
    rw [if_pos (by simp [hblank])]
    simp only [units, if_pos hempty]
    rfl
  · have hblank : Text.strip (String.join (files.map s.sectionOf)) ≠ "" := by
      obtain ⟨file, rest, hfiles⟩ := List.exists_cons_of_ne_nil hempty
      rw [hfiles]
      -- every file goes in under a heading, so that even empty ones give no blank text
      exact Text.strip_ne_empty (c := '#') (by simp [sectionOf, sourceSection]) (by decide)
    have hne : units ≠ [] := by
      simp only [units, if_neg hempty]
      exact AnalysisUnit.ofText_ne_nil _ _ _
    have hunits : units = AnalysisUnit.ofText s.limit (String.join (files.map s.sectionOf)) none :=
      if_neg hempty
    simp only [files] at hblank
    rw [dispatched_of_ne_nil s services hne, if_neg (by simp [hblank])]
    simp only [ScanStep.value_bind, ScanStep.value_note, value_analyzeText, ScanStep.value_pure, hunits,
      files]

/-- The staged changes as a scan reads them and what is left of its surroundings; a scan of anything
else does not read them. -/
def readDiff (request : ScanRequest) (w : σ) : Except Fault Value × σ :=
  if request.mode = .diff then ((DiffReader.ofRepository s.root).staged services.shell w).value
  else (.ok (.str ""), w)

/-- A scan analyzes its units one after the other and nothing else. -/
theorem value_analyzeMode {request : ScanRequest} {diff : String} {w w' : σ}
    (h : s.readDiff services request w = (.ok (.str diff), w')) :
    ((s.analyzeMode services fs request).run w).value =
      (.ok (s.dispatched services (s.unitsFor fs request diff) w').1,
        (s.dispatched services (s.unitsFor fs request diff) w').2) := by
  obtain ⟨mode, paths, onlyAi, force⟩ := request
  cases mode with
  | paths =>
    obtain rfl : w = w' := (Prod.mk.inj h).2
    exact s.value_scanPaths services fs _ w
  | diff => exact s.value_scanDiff services h
  | all =>
    obtain rfl : w = w' := (Prod.mk.inj h).2
    exact s.value_scanAll services fs _ w

end

/-! ## Running the analyzers -/

/-- Analyzers run one after the other, each with what came of it, and what is left of their
surroundings. -/
def runsOf : List (StaticAnalyzer σ) → σ → List (String × Except Fault Value) × σ
  | [], w => ([], w)
  | a :: rest, w =>
    let outcome := (a.run w).value
    ((a.name, outcome.1) :: (runsOf rest outcome.2).1, (runsOf rest outcome.2).2)

theorem map_name_runsOf (analyzers : List (StaticAnalyzer σ)) (w : σ) :
    (runsOf analyzers w).1.map (·.1) = analyzers.map (·.name) := by
  induction analyzers generalizing w with
  | nil => rfl
  | cons a rest ih => simp [runsOf, ih]

/-- The outputs of runs by name. -/
def outputsOf (runs : List (String × Except Fault Value)) : Entries :=
  runs.map fun r => (.str r.1, entryOf r.2)

theorem value_outputOf (name : String) (outcome : Except Fault Value) :
    (outputOf name outcome).value = entryOf outcome := by
  cases outcome <;> rfl

theorem value_outputs (analyzers : List (StaticAnalyzer σ)) (es : Entries) (w : σ) :
    (outputs es analyzers w).value =
      (es.insertAll (outputsOf (runsOf analyzers w).1), (runsOf analyzers w).2) := by
  induction analyzers generalizing es w with
  | nil => rfl
  | cons a rest ih =>
    have houtput : (Session.ofNoted (outputOf a.name (a.run w).value.1) (a.run w).value.2).value =
        (entryOf (a.run w).value.1, (a.run w).value.2) := by
      rw [← value_outputOf a.name]
      rfl
    simp only [outputs, Session.bind_apply, Noted.value_bind, houtput, ih]
    rfl

theorem distinct_outputsOf {runs : List (String × Except Fault Value)}
    (h : (runs.map (·.1)).Nodup) : (outputsOf runs).Distinct := by
  unfold outputsOf Entries.Distinct
  rw [List.map_map, List.pairwise_map]
  refine (List.pairwise_map.mp h).imp fun hne => ?_
  simpa using hne

section
variable (services : Services σ)

/-- The runs of a scan's analyzers and what is left after them: none when only units are analyzed. -/
def staticRuns (onlyAi : Bool) (w : σ) : List (String × Except Fault Value) × σ :=
  if onlyAi then ([], w) else runsOf services.analyzers w

theorem value_staticOutputs {services : Services σ} (h : (services.analyzers.map (·.name)).Nodup)
    (onlyAi : Bool) (w : σ) : ((staticOutputs services onlyAi).run w).value =
      (.ok (if onlyAi then none else some (outputsOf (staticRuns services onlyAi w).1)),
        (staticRuns services onlyAi w).2) := by
  cases onlyAi with
  | true => rfl
  | false =>
    have hdistinct : (outputsOf (runsOf services.analyzers w).1).Distinct :=
      distinct_outputsOf (by rwa [map_name_runsOf])
    have hall : Entries.insertAll [] (outputsOf (runsOf services.analyzers w).1) =
        outputsOf (runsOf services.analyzers w).1 := @Entries.insertAll_append [] _ hdistinct
    have hvalue : (runAnalyzers services.analyzers w).value =
        (outputsOf (runsOf services.analyzers w).1, (runsOf services.analyzers w).2) := by
      rw [← hall, ← value_outputs]
      rfl
    show ((some <$> ScanStep.ofSession (runAnalyzers services.analyzers)).run w).value = _
    rw [ScanStep.value_map, ScanStep.value_ofSession, hvalue]
    rfl

end

/-! ## The report -/

/-- The outputs of runs in the shape of reports. -/
def toolsOf (runs : List (String × Except Fault Value)) : Entries :=
  runs.map fun r => (.str r.1, (CombinedReport.normalizeOutput (.str r.1) (entryOf r.2)).value)

theorem value_normalizeAll (es : Entries) : (CombinedReport.normalizeAll es).value =
    es.map fun e => (e.1, (CombinedReport.normalizeOutput e.1 e.2).value) := by
  induction es with
  | nil => rfl
  | cons e es ih => simp [CombinedReport.normalizeAll, ih]

theorem tools_reportOf (results : List Value) (outputs : Option Entries) :
    (reportOf results outputs).value.tools =
      (CombinedReport.normalizeAll (outputs.getD [])).value := by
  simp only [reportOf]
  split <;> simp [CombinedReport.build]

theorem value_conclude (results : UnitResults) (outputs : Option Entries) (w : σ) :
    ((conclude results outputs : ScanStep σ _).run w).value =
      (.ok (if results = none ∧ outputs = none then none
        else some (reportOf (results.getD []) outputs).value), w) := by
  cases results <;> cases outputs <;> rfl

section
variable (s : Scanner) (services : Services σ) (fs : FileSystem)

theorem value_run {request : ScanRequest} {diff : String} {w w' : σ}
    (hnames : (services.analyzers.map (·.name)).Nodup)
    (hdiff : s.readDiff services request (staticRuns services request.onlyAi w).2 =
      (.ok (.str diff), w')) :
    let runs := (staticRuns services request.onlyAi w).1
    let results := s.dispatched services (s.unitsFor fs request diff) w'
    ((s.run services fs request).run w).value =
      (.ok (if results.1 = none ∧ request.onlyAi = true then none
        else some (reportOf (results.1.getD [])
          (if request.onlyAi then none else some (outputsOf runs))).value), results.2) := by
  intro runs results
  rw [run, ScanStep.value_bind, value_staticOutputs hnames]
  simp only [ScanStep.value_bind, s.value_analyzeMode services fs hdiff, value_conclude]
  cases h : request.onlyAi <;> simp [results, runs, h]

/-- The tools of a report are those of the runs, whatever else the scan has done. -/
theorem tools_run {request : ScanRequest} {w : σ} (hnames : (services.analyzers.map (·.name)).Nodup)
    {r : CombinedReport} (hr : ((s.run services fs request).run w).value.1 = .ok (some r)) :
    r.tools = toolsOf (staticRuns services request.onlyAi w).1 := by
  rw [run, ScanStep.value_bind, value_staticOutputs hnames] at hr
  simp only [ScanStep.value_bind] at hr
  generalize ((s.analyzeMode services fs request).run
    (staticRuns services request.onlyAi w).2).value = results at hr
  obtain ⟨f | results, w'⟩ := results
  · cases hr
  · simp only [value_conclude] at hr
    by_cases hnone : results = none ∧
        (if request.onlyAi then none
          else some (outputsOf (staticRuns services request.onlyAi w).1)) = none
    · rw [if_pos hnone] at hr
      cases hr
    · rw [if_neg hnone] at hr
      rw [← Option.some.inj (Except.ok.inj hr), tools_reportOf, value_normalizeAll]
      cases request.onlyAi
      · simp [outputsOf, toolsOf]
      · simp [staticRuns, toolsOf]

end

end Scanner

/-! ## Runs on record -/

/-- The services with every run of an analyzer put on record. -/
def Services.watched {σ : Type} (services : Services σ) :
    Services (σ × List (String × Except Fault Value)) where
  ask prompt schema := Session.unrecorded (services.ask prompt schema)
  shell command := Session.unrecorded (services.shell command)
  analyzers := services.analyzers.map fun a =>
    ⟨a.name, Session.recorded (fun _ : String => a.run) a.name⟩

namespace Scanner

section
variable {σ : Type} (s : Scanner) (services : Services σ)

theorem runsOf_watched (analyzers : List (StaticAnalyzer σ)) (w : σ)
    (t : List (String × Except Fault Value)) :
    runsOf (analyzers.map fun a =>
      (⟨a.name, Session.recorded (fun _ : String => a.run) a.name⟩ : StaticAnalyzer _)) (w, t) =
      ((runsOf analyzers w).1, ((runsOf analyzers w).2, t ++ (runsOf analyzers w).1)) := by
  induction analyzers generalizing w t with
  | nil => simp [runsOf]
  | cons a rest ih => simp [runsOf, Session.recorded, ih]

theorem unrecorded_bind {α β τ : Type} (x : Session σ α) (f : α → Session σ β) :
    Session.unrecorded (τ := τ) (x >>= f) =
      Session.unrecorded x >>= fun a => Session.unrecorded (f a) := rfl

theorem askAbout_watched (u : AnalysisUnit) :
    s.askAbout services.watched u = Session.unrecorded (s.askAbout services u) := by
  unfold askAbout
  rw [unrecorded_bind]
  refine congrArg _ (funext fun r => ?_)
  cases r <;> rfl

theorem value_analyzeAll_unrecorded {τ : Type} (call : Analyze σ) (us : List AnalysisUnit) (w : σ)
    (t : τ) : (AnalysisUnit.analyzeAll (fun u => Session.unrecorded (call u)) us (w, t)).value =
      ((AnalysisUnit.analyzeAll call us w).value.1,
        ((AnalysisUnit.analyzeAll call us w).value.2, t)) := by
  induction us generalizing w with
  | nil => rfl
  | cons u us ih =>
    have hcall : (Session.unrecorded (τ := τ) (call u) (w, t)).value =
        ((call u w).value.1, ((call u w).value.2, t)) := rfl
    simp only [AnalysisUnit.value_analyzeAll_cons, hcall, ih]

theorem dispatched_watched (us : List AnalysisUnit) (w : σ)
    (t : List (String × Except Fault Value)) : s.dispatched services.watched us (w, t) =
      ((s.dispatched services us w).1, ((s.dispatched services us w).2, t)) := by
  have hcall : s.askAbout services.watched = fun u => Session.unrecorded (s.askAbout services u) :=
    funext (s.askAbout_watched services)
  simp only [dispatched, hcall, value_analyzeAll_unrecorded]

theorem readDiff_watched (request : ScanRequest) (w : σ) (t : List (String × Except Fault Value)) :
    s.readDiff services.watched request (w, t) =
      ((s.readDiff services request w).1, ((s.readDiff services request w).2, t)) := by
  unfold readDiff
  split <;> rfl

theorem staticRuns_watched (onlyAi : Bool) (w : σ) (t : List (String × Except Fault Value)) :
    staticRuns services.watched onlyAi (w, t) =
      ((staticRuns services onlyAi w).1,
        ((staticRuns services onlyAi w).2, t ++ (staticRuns services onlyAi w).1)) := by
  cases onlyAi with
  | true => simp [staticRuns]
  | false => exact runsOf_watched services.analyzers w t

theorem value_run_watched (fs : FileSystem) {request : ScanRequest} {diff : String} {w w' : σ}
    (hnames : (services.analyzers.map (·.name)).Nodup)
    (hdiff : s.readDiff services request (staticRuns services request.onlyAi w).2 =
      (.ok (.str diff), w')) :
    ((s.run services.watched fs request).run (w, [])).value =
      (((s.run services fs request).run w).value.1,
        (((s.run services fs request).run w).value.2, (staticRuns services request.onlyAi w).1)) := by
  have hwatched : (services.watched.analyzers.map (·.name)).Nodup := by
    simpa [Services.watched, Function.comp_def] using hnames
  have hruns := staticRuns_watched services request.onlyAi w []
  have hread : s.readDiff services.watched request
      (staticRuns services.watched request.onlyAi (w, [])).2 =
      (.ok (.str diff), (w', (staticRuns services request.onlyAi w).1)) := by
    rw [hruns, readDiff_watched, hdiff, List.nil_append]
  rw [value_run s services.watched fs hwatched hread, value_run s services fs hnames hdiff,
    dispatched_watched, hruns]

end

/-! ## What a scan comes to -/

/-- **A scan comes to an end, and its analyzers stand alone.** Once the staged changes are a text
there is no fault. There is no report exactly when the analyzers are left out and there is no unit;
apart from the analyzers a scan does what analyzing its units one after the other does. Each analyzer
is run once and in order, and the tools of the report are what the runs came to, whatever is scanned
and whatever comes of the units. -/
theorem run_isolates_analyzers {σ : Type} (s : Scanner) (services : Services σ) (fs : FileSystem)
    (request : ScanRequest) (w : σ) (diff : String)
    (hnames : (services.analyzers.map (·.name)).Nodup)
    (hdiff : (s.readDiff services request (staticRuns services request.onlyAi w).2).1 =
      .ok (.str diff)) :
    let runs := (runsOf services.analyzers w).1
    let units := s.unitsFor fs request diff
    let start := (s.readDiff services request (staticRuns services request.onlyAi w).2).2
    let analysis := (AnalysisUnit.analyzeAll (s.askAbout services) units start).value
    runs.map (·.1) = services.analyzers.map (·.name) ∧
      (∃ report?, ((s.run services fs request).run w).value = (.ok report?, analysis.2) ∧
        ((s.run services.watched fs request).run (w, [])).value =
          (.ok report?, (analysis.2, if request.onlyAi then [] else runs)) ∧
        (report? = none ↔ request.onlyAi = true ∧ units = []) ∧
        (∀ r ∈ report?, r.findings = CombinedReport.combine analysis.1) ∧
        (request.onlyAi = true → ∀ r ∈ report?, r.tools = [])) ∧
      ∀ (s' : Scanner) (services' : Services σ) (fs' : FileSystem) (request' : ScanRequest)
        (r : CombinedReport), services'.analyzers = services.analyzers → request'.onlyAi = false →
        ((s'.run services' fs' request').run w).value.1 = .ok (some r) → r.tools = toolsOf runs := by
  intro runs units start analysis
  have hread : s.readDiff services request (staticRuns services request.onlyAi w).2 =
      (.ok (.str diff), start) := Prod.ext hdiff rfl
  have hrun := value_run s services fs hnames hread
  have hwatched := value_run_watched s services fs hnames hread
  have hresults : (s.dispatched services units start).1 = none ↔ units = [] := by
    by_cases h : units = [] <;> simp [dispatched, h]
  have hfound : (s.dispatched services units start).1.getD [] = analysis.1 := by
    by_cases h : units = []
    · simp only [dispatched, analysis, h]
      rfl
    · simp only [dispatched, if_neg h, Option.getD_some, analysis]
  refine ⟨map_name_runsOf _ _, ⟨_, hrun, ?_, ?_, ?_, ?_⟩, ?_⟩
  · rw [hwatched, hrun]
    cases request.onlyAi <;> rfl
  · simp only [ite_eq_left_iff, reduceCtorEq, imp_false, not_not]
    exact and_comm.trans (and_congr_right fun _ => hresults)
  · intro r hr
    rw [Option.mem_def, Option.ite_none_left_eq_some] at hr
    rw [← Option.some.inj hr.2, findings_reportOf, hfound]
  · intro honly r hr
    have hr : ((s.run services fs request).run w).value.1 = .ok (some r) := by rw [hrun, hr]
    rw [tools_run s services fs hnames hr, honly]
    rfl
  · intro s' services' fs' request' r hsame honly hr
    have htools := tools_run s' services' fs' (by rw [hsame]; exact hnames) hr
    rw [htools, honly, staticRuns, hsame]
    rfl

/-- Two analyzers, one of which fails, and staged changes about which the backend fails too. -/
def failingServices : Services Unit where
  ask _ _ := pure (.error (.outside "RuntimeError" "no reply"))
  shell _ := pure (.finished (some "+eval(x)\n") (some "") 0)
  analyzers := [⟨"brakeman", pure (.error (.outside "RuntimeError" "boom"))⟩,
    ⟨"bundler_audit", pure (.ok (.record [("results", .list [])]))⟩]

theorem run_isolates_failures :
    (failingServices.analyzers.map (·.name)).Nodup ∧
      (wideScanner.readDiff failingServices ⟨.diff, [], false, false⟩
        (staticRuns failingServices false ()).2).1 = .ok (.str "+eval(x)\n") ∧
      ∃ r, ((wideScanner.run failingServices oneFile ⟨.diff, [], false, false⟩).run ()).value.1 =
          .ok (some r) ∧
        r.tools = [(.str "brakeman", CombinedReport.unavailableOutput "brakeman"),
          (.str "bundler_audit", .record [("scan", .record [("results", .list [])])])] := by
  have hnames : (failingServices.analyzers.map (·.name)).Nodup := by decide
  have hdiff : (wideScanner.readDiff failingServices ⟨.diff, [], false, false⟩
      (staticRuns failingServices false ()).2).1 = .ok (.str "+eval(x)\n") := rfl
  obtain ⟨-, ⟨report?, hrun, -, hnone, -⟩, htools⟩ := run_isolates_analyzers wideScanner failingServices
    oneFile ⟨.diff, [], false, false⟩ () "+eval(x)\n" hnames hdiff
  refine ⟨hnames, hdiff, ?_⟩
  cases report? with
  | none => exact absurd (hnone.mp rfl).1 Bool.false_ne_true
  | some r =>
    have hvalue : ((wideScanner.run failingServices oneFile ⟨.diff, [], false, false⟩).run
      ()).value.1 = .ok (some r) := by rw [hrun]
    refine ⟨r, hvalue, ?_⟩
    have hkept : (CombinedReport.normalizeOutput (.str "bundler_audit")
        (.record [("results", .list [])])).value =
          .record [("scan", .record [("results", .list [])])] := by
      simp [CombinedReport.normalizeOutput, Value.record, CombinedReport.toolName, Value.str?,
        CombinedReport.resultField?, Entries.field?_cons_str, Value.list?, Value.opened]
    rw [htools wideScanner failingServices oneFile _ r rfl rfl hvalue, ← hkept]
    rfl

end Scanner

end SecurityScan
