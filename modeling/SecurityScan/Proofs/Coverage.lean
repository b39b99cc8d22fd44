import SecurityScan.Proofs.Outcome

/-!
# What a scan of the whole project covers

A scan of the whole project finds, reads and orders the files as a scan of its root directory does,
but it puts their texts together, each under a heading, before it cuts them into units. The two
cover the same text all the same: the units of either, put together, are the texts of the same files.
-/

namespace SecurityScan

open Files (FileSystem)

namespace Scanner

variable {σ : Type}

/-! ## Dispatched units -/

/-- A scan analyzes these units one after the other and nothing else, and whatever came before, it
asks the backend about just these. -/
structure Dispatches (s : Scanner) (services : Services σ) (fs : FileSystem) (request : ScanRequest)
    (us : List AnalysisUnit) : Prop where
  analyzed : ∀ w, ((s.analyzeMode services fs request).run w).value =
    (.ok (s.dispatched services us w).1, (s.dispatched services us w).2)
  asked : ∀ w, ((s.run services.recorded fs request).run (w, [])).value.2.2.map (·.1) =
    us.filterMap s.questionOf?

section
variable (s : Scanner) (services : Services σ) (fs : FileSystem)

theorem dispatched_writes (us : List AnalysisUnit) (w : σ) (calls : List Exchange) :
    ∃ more, (s.dispatched services.recorded us (w, calls)).2.2 = calls ++ more ∧
      more.map (·.1) = us.filterMap s.questionOf? := by
  obtain ⟨more, hmore, hanswers⟩ := AnalysisUnit.analyzeAll_writes (s.askAbout_writes services)
    (Answers.nil s) (fun _ _ _ _ _ _ hu hus => Answers.append s hu hus) us w calls
  exact ⟨more, hmore, hanswers.asked⟩

theorem analyzeMode_writes {request : ScanRequest} (h : request.mode ≠ .diff) :
    ScanStep.Writes (s.analyzeMode services.recorded fs request) fun _ calls =>
      calls.map (·.1) = (s.unitsFor fs request "").filterMap s.questionOf? := by
  intro w calls
  have hdiff : s.readDiff services.recorded request (w, calls) = (.ok (.str ""), (w, calls)) :=
    if_neg h
  have hvalue := s.value_analyzeMode services.recorded fs hdiff
  obtain ⟨more, hmore, hasked⟩ :=
    s.dispatched_writes services (s.unitsFor fs request "") w calls
  refine ⟨more, ?_, _, congrArg Prod.fst hvalue, hasked⟩
  rw [hvalue]
  exact hmore

/-- A scan of anything but the staged changes dispatches its units. -/
theorem dispatches_unitsFor {request : ScanRequest} (h : request.mode ≠ .diff) :
    s.Dispatches services fs request (s.unitsFor fs request "") where
  analyzed _ := s.value_analyzeMode services fs (if_neg h)
  asked w := by
    have hrun : ScanStep.Writes (s.run services.recorded fs request) fun _ calls =>
        calls.map (·.1) = (s.unitsFor fs request "").filterMap s.questionOf? := by
      refine (staticOutputs_writes services request.onlyAi).after fun outputs _ => ?_
      refine (s.analyzeMode_writes services fs h).bind fun results calls hcalls => ?_
      refine (conclude_writes results outputs).imp fun _ none hnone => ?_
      rw [hnone.1, List.append_nil]
      exact hcalls
    obtain ⟨calls, hcalls, _, _, hasked⟩ := hrun w []
    rw [hcalls]
    exact hasked

end

/-! ## The same text -/

theorem flatMap_unitsOf_eq_nil_iff (s : Scanner) {texts : List (String × String)} :
    texts.flatMap s.unitsOf = [] ↔ texts = [] := by
  rw [List.flatMap_eq_nil_iff]
  constructor
  · intro h
    refine List.eq_nil_iff_forall_not_mem.mpr fun t ht => ?_
    exact AnalysisUnit.ofText_ne_nil _ _ _ (h t ht)
  · rintro rfl t ht
    cases ht

section
variable (s : Scanner) (fs : FileSystem) {paths : List String} {onlyAi force : Bool}

theorem join_unitsFor_all :
    String.join ((s.unitsFor fs ⟨.all, paths, onlyAi, force⟩ "").map (·.content)) =
      String.join ((readable fs (s.pathFiles fs [s.root] force)).map s.sectionOf) := by
  simp only [unitsFor]
  split
  · rename_i hnone
    rw [hnone]
    rfl
  · exact AnalysisUnit.join_ofText _ _ _

/-- Whatever files can be read give the whole project a unit, as each goes in under a heading. -/
theorem unitsFor_all_eq_nil_iff :
    s.unitsFor fs ⟨.all, paths, onlyAi, force⟩ "" = [] ↔
      readable fs (s.pathFiles fs [s.root] force) = [] := by
  simp only [unitsFor, ite_eq_left_iff]
  refine ⟨fun h => ?_, fun h hne => absurd h hne⟩
  by_contra hne
  exact AnalysisUnit.ofText_ne_nil _ _ _ (h hne)

end

/-- **A scan of the whole project covers what a scan of its root directory does.** The scan of the
root directory dispatches the units of the files that can be read, file by file, and the units of
each are its text. Those of the whole project are, put together, the texts of exactly these files in
the same order, each under a heading with its name. One has no unit just when the other has none. -/
theorem all_covers_paths (s : Scanner) (services : Services σ) (fs : FileSystem)
    (paths : List String) (onlyAi force : Bool) :
    let whole : ScanRequest := ⟨.all, paths, onlyAi, force⟩
    let byPath : ScanRequest := ⟨.paths, [s.root], onlyAi, force⟩
    let texts := readable fs (s.pathFiles fs [s.root] force)
    ∃ units, s.Dispatches services fs whole units ∧
      s.Dispatches services fs byPath (texts.flatMap s.unitsOf) ∧
      (∀ t ∈ texts, s.unitsOf t ≠ [] ∧ String.join ((s.unitsOf t).map (·.content)) = t.2) ∧
      String.join (units.map (·.content)) = String.join (texts.map fun t =>
        "# File: " ++ s.project.displayPath t.1 ++ "\n" ++ t.2 ++ "\n\n") ∧
      (units = [] ↔ texts.flatMap s.unitsOf = []) := by
  intro whole byPath texts
  refine ⟨s.unitsFor fs whole "", s.dispatches_unitsFor services fs nofun,
    s.dispatches_unitsFor services fs nofun, ?_, s.join_unitsFor_all fs, ?_⟩
  · intro t _
    exact ⟨AnalysisUnit.ofText_ne_nil _ _ _, AnalysisUnit.join_ofText _ _ _⟩
  · rw [flatMap_unitsOf_eq_nil_iff]
    exact s.unitsFor_all_eq_nil_iff fs

end Scanner

end SecurityScan
