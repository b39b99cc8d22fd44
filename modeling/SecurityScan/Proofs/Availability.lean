import SecurityScan.Proofs.Rendering

/-!
# Tools without results

What each report shows of the two tools is told by the list that the tool has put out, or by its having
put out none. An output of Brakeman that has a list and says itself that it is unavailable is shown as
if it had none.
-/

namespace SecurityScan

namespace CombinedReport

/-- What a tool has put out; null when it is not among the outputs. -/
def outputFor (static : Entries) (tool : String) : Value := (static.field? tool).getD .null

/-! ## The parts of reports -/

/-- A warning on the console. -/
def warningLines (warning : Value) : List String :=
  let text (name : String) := (warning.fieldOr name .null).display
  ["    - Warning Type: " ++ text "warning_type",
    "      Confidence: " ++ text "confidence",
    "      Message: " ++ text "message",
    "      File: " ++ text "file",
    "      Line: " ++ text "line",
    "      Code: " ++ text "code",
    "      Link: " ++ text "link"]

def noBrakemanLine : String := "  ⚠️  Brakeman results not available."

def noAuditLine : String := "  ⚠️  Bundler-Audit results not available."

/-- What the console says of Brakeman. -/
def brakemanLines : Option (List Value) → List String
  | none => [noBrakemanLine]
  | some [] => ["  ✅ No Brakeman warnings found."]
  | some warnings => warnings.flatMap warningLines

/-- What the console says of bundler-audit, with the lines of the gems. -/
def auditLines (gemLines : List (List String)) : Option (List Value) → List String
  | none => [noAuditLine]
  | some [] => ["  ✅ No vulnerable gems found."]
  | some _ => gemLines.flatten

/-- The report on the console, with the lines of the findings and of the gems. -/
def consoleText (findings : List Value) (findingLines : List (List String))
    (warnings gems : Option (List Value)) (gemLines : List (List String)) : String :=
  let head := [rule, "🔒 CODEWARD SECURITY SCAN", rule, "", "--- AI Analysis Results ---"] ++
    (if findings.isEmpty then ["✅ No AI-detected security risks."] else findingLines.flatten) ++
    ["", "--- Static Analysis Results ---"]
  let static := ["Brakeman:"] ++ brakemanLines warnings ++ ["", "Bundler-Audit:"] ++
    auditLines gemLines gems ++ [""]
  let counts := Severity.all.map fun s =>
    "   " ++ s.icon ++ " " ++ severityColumn s ++ toString (listed s findings).length
  String.intercalate "\n" (head ++ static ++
    ["--- Scan Summary ---", "📊 AI Analysis: " ++ toString findings.length ++ " issues"] ++ counts ++
    ["🔧 Brakeman: " ++ toString (warnings.getD []).length ++ " warnings",
      "📦 Bundler-Audit: " ++ toString (gems.getD []).length ++ " vulnerabilities", rule]) ++ "\n"

/-- A warning in the Markdown report. -/
def warningEntry (warning : Value) : String :=
  let text (name : String) := (warning.fieldOr name .null).display
  "- **" ++ text "warning_type" ++ "** (" ++ text "confidence" ++ "): " ++ text "message" ++ " `" ++
    text "file" ++ ":" ++ text "line" ++ "`\n"

/-- A section of the Markdown report; nothing without entries. -/
def entriesSection (title : String) (entries : List String) : String :=
  if entries = [] then "" else "## " ++ title ++ "\n\n" ++ String.join entries ++ "\n"

def noBrakemanPart : Html.Part :=
  .markup "\n  <p class=\"unavailable\">Brakeman results not available.</p>\n  "

def noAuditPart : Html.Part :=
  .markup "\n  <p class=\"unavailable\">Bundler-Audit results not available.</p>\n  "

open Html (Part) in
/-- What the page says of Brakeman. -/
def brakemanParts : Option (List Value) → List Part
  | none => [noBrakemanPart]
  | some [] => [.markup "\n  <p>No Brakeman warnings found.</p>\n  "]
  | some warnings =>
    [.markup ("\n  <table>\n    <tr><th>Warning Type</th><th>Confidence</th>" ++
      "<th>Message</th><th>File</th><th>Line</th></tr>\n    ")] ++
      warnings.flatMap Html.Page.warningRow ++ [.markup "\n  </table>\n  "]

open Html (Part) in
/-- What the page says of bundler-audit, with the rows of the gems. -/
def auditParts (rows : List (List Part)) : Option (List Value) → List Part
  | none => [noAuditPart]
  | some [] => [.markup "\n  <p>No vulnerable gems found.</p>\n  "]
  | some _ =>
    [.markup ("\n  <table>\n    <tr><th>Gem</th><th>Advisory</th><th>Title</th>" ++
      "<th>Criticality</th><th>Patched Versions</th></tr>\n    ")] ++ rows.flatten ++
      [.markup "\n  </table>\n  "]

open Html in
/-- The page for a view, with the rows of the gems. -/
def pageParts (v : ReportView) (warnings gems : Option (List Value)) (rows : List (List Part)) :
    List Part :=
  Page.summary v ++ Page.findingTable v.findings ++
    [.markup "\n\n  <h2>Static Analysis Results</h2>\n  ", .markup "\n  <h3>Brakeman</h3>\n  "] ++
    brakemanParts warnings ++ [.markup "\n\n  <h3>Bundler-Audit</h3>\n  "] ++ auditParts rows gems ++
    [.markup "\n  ", .markup "\n</div>\n</body>\n</html>"]

/-! ## Members -/

theorem consoleWarning_eq {w : Value} (h : w.isMap = true) :
    consoleWarning w = .ok (warningLines w) := by
  simp only [consoleWarning, fieldOrNone_of_isMap h]
  rfl

theorem markdownWarning_eq {w : Value} (h : w.isMap = true) :
    markdownWarning w = .ok (warningEntry w) := by
  simp only [markdownWarning, fieldOrNone_of_isMap h]
  rfl

theorem afterGems_eq {gems : Option (List Value)} {lines : List (List String)}
    (hgems : (gems.getD []).mapM consoleGem = .ok lines)
    (rest : List String → Except Fault (List String)) :
    afterGems rest gems = rest (auditLines lines gems) := by
  match gems with
  | none => rfl
  | some [] => rfl
  | some (g :: gs) =>
    have hgems : (g :: gs).mapM consoleGem = .ok lines := hgems
    rw [afterGems, hgems]
    · rfl
    · simp

theorem gemText_eq {gems : List Value} {lines : List String} (h : gems.mapM markdownGem = .ok lines) :
    gemText gems = .ok (entriesSection "Vulnerable Gems" lines) := by
  cases gems with
  | nil =>
    obtain rfl := Except.ok.inj h
    rfl
  | cons g gs =>
    obtain ⟨line, rest, -, -, rfl⟩ := exists_of_mapM_cons h
    rw [gemText, h, entriesSection, if_neg (List.cons_ne_nil _ _)]
    · rfl
    · simp

section
variable {r : CombinedReport} {ws gems : Option (List Value)}
variable (hw : r.warnings? = .ok (ws.map .list)) (hg : r.gems? = .ok gems)
include hw hg

theorem countStatic_eq : r.countStatic = .ok ((ws.getD []).length, (gems.getD []).length) := by
  rw [countStatic, hw, hg]
  rcases ws with _ | _ | ⟨w, ws⟩ <;> rfl

theorem consoleStatic_eq (htools : r.tools.isEmpty = false)
    (hmaps : ∀ w ∈ ws.getD [], w.isMap = true) {lines : List (List String)}
    (hgems : (gems.getD []).mapM consoleGem = .ok lines) :
    consoleStatic r = .ok (["Brakeman:"] ++ brakemanLines ws ++ ["", "Bundler-Audit:"] ++
      auditLines lines gems ++ [""]) := by
  let tail (warningLines gemLines : List String) : Except Fault (List String) :=
    pure (["Brakeman:"] ++ warningLines ++ ["", "Bundler-Audit:"] ++ gemLines ++ [""])
  have hrest : ∀ warningLines, (r.gems? >>= afterGems (tail warningLines)) =
      tail warningLines (auditLines lines gems) := by
    intro warningLines
    rw [hg]
    exact afterGems_eq hgems _
  rw [consoleStatic, htools, if_neg Bool.false_ne_true, hw]
  rcases ws with _ | _ | ⟨w, ws⟩
  · exact hrest _
  · exact hrest _
  · have hwarnings : (w :: ws).mapM consoleWarning = .ok ((w :: ws).map warningLines) :=
      mapM_eq_ok fun w hw => consoleWarning_eq (hmaps w hw)
    show ((w :: ws).mapM consoleWarning >>= fun ls : List (List String) =>
      r.gems? >>= afterGems (tail ls.flatten)) = _
    rw [hwarnings]
    exact hrest _

theorem staticText_eq (hmaps : ∀ w ∈ ws.getD [], w.isMap = true) {lines : List String}
    (hgems : (gems.getD []).mapM markdownGem = .ok lines) :
    staticText r.tools = .ok (entriesSection "Brakeman Warnings" ((ws.getD []).map warningEntry) ++
      entriesSection "Vulnerable Gems" lines) := by
  have hw' : warnings? ⟨[], r.tools⟩ = .ok (ws.map .list) := hw
  have hg' : CombinedReport.gems? ⟨[], r.tools⟩ = .ok gems := hg
  have hwarnings : warningText ((ws.map Value.list).getD .null) =
      .ok (entriesSection "Brakeman Warnings" ((ws.getD []).map warningEntry)) := by
    match ws with
    | none => rfl
    | some [] => rfl
    | some (w :: ws) =>
      have hlines : (w :: ws).mapM markdownWarning = .ok ((w :: ws).map warningEntry) :=
        mapM_eq_ok fun w hw => markdownWarning_eq (hmaps w hw)
      show ((w :: ws).mapM markdownWarning >>= fun _ => _) = _
      rw [hlines]
      rfl
  rw [staticText, hw', hg']
  show (warningText _ >>= fun _ => gemText (gems.getD []) >>= fun _ => _) = _
  rw [hwarnings, gemText_eq hgems]
  rfl

theorem console_eq (htools : r.tools.isEmpty = false) (hkept : ∀ f ∈ r.findings, Reply.IsKept f)
    (hmaps : ∀ w ∈ ws.getD [], w.isMap = true) {blocks lines : List (List String)}
    (hfindings : r.findings.mapM consoleFinding = .ok blocks)
    (hgems : (gems.getD []).mapM consoleGem = .ok lines) :
    r.console = .ok (consoleText r.findings blocks ws gems lines) := by
  rw [console, hfindings]
  show (consoleStatic r >>= fun _ => _) = _
  rw [consoleStatic_eq hw hg htools hmaps hgems]
  show (countBySeverity r.findings >>= fun _ => _) = _
  rw [countBySeverity_eq hkept]
  show (r.countStatic >>= fun _ => _) = _
  rw [countStatic_eq hw hg]
  rfl

theorem view_eq (hkept : ∀ f ∈ r.findings, Reply.IsKept f) (now : String) :
    r.view now = .ok {
      findings := r.findings
      tools := r.tools
      warnings := ws.map .list
      gems := gems
      severityCounts := Severity.all.map fun s => (s, (listed s r.findings).length)
      warningCount := (ws.getD []).length
      gemCount := (gems.getD []).length
      skipped := r.tools.isEmpty
      generatedAt := now } := by
  rw [view, hw, hg, countBySeverity_eq hkept, countStatic_eq hw hg]
  rfl

end

/-! ## Tables -/

section
variable {ws gems : Option (List Value)}

theorem warningTable_eq : Html.Page.warningTable (ws.map .list) = .ok (brakemanParts ws) := by
  rcases ws with _ | _ | ⟨w, ws⟩ <;> rfl

theorem gemTable_eq {rows : List (List Html.Part)}
    (hrows : (gems.getD []).mapM Html.Page.gemRow = .ok rows) :
    Html.Page.gemTable gems = .ok (auditParts rows gems) := by
  match gems with
  | none => rfl
  | some [] => rfl
  | some (g :: gs) =>
    have hrows : (g :: gs).mapM Html.Page.gemRow = .ok rows := hrows
    rw [Html.Page.gemTable, hrows]
    · rfl
    · simp

theorem parts_eq {v : ReportView} (hskipped : v.skipped = false)
    (hwarnings : v.warnings = ws.map .list) (hgems : v.gems = gems) {rows : List (List Html.Part)}
    (hrows : (gems.getD []).mapM Html.Page.gemRow = .ok rows) :
    Html.Page.parts v = .ok (pageParts v ws gems rows) := by
  have hstatic : Html.Page.staticPart v = .ok ([.markup "\n  <h3>Brakeman</h3>\n  "] ++
      brakemanParts ws ++ [.markup "\n\n  <h3>Bundler-Audit</h3>\n  "] ++ auditParts rows gems ++
      [.markup "\n  "]) := by
    rw [Html.Page.staticPart, hskipped, if_neg Bool.false_ne_true, hwarnings, hgems, warningTable_eq,
      gemTable_eq hrows]
    rfl
  rw [Html.Page.parts, hstatic]
  show Except.ok _ = Except.ok _
  rw [pageParts]
  simp only [List.append_assoc, List.cons_append, List.nil_append]

end

/-! ## What is said to be missing -/

theorem brakemanLines_eq_iff {ws : Option (List Value)} :
    brakemanLines ws = [noBrakemanLine] ↔ ws = none := by
  match ws with
  | none => simp [brakemanLines]
  | some [] => simp [brakemanLines, noBrakemanLine]
  | some (w :: ws) => simp [brakemanLines, warningLines]

theorem brakemanParts_eq_iff {ws : Option (List Value)} :
    brakemanParts ws = [noBrakemanPart] ↔ ws = none := by
  match ws with
  | none => simp [brakemanParts]
  | some [] => simp [brakemanParts, noBrakemanPart]
  | some (w :: ws) => simp [brakemanParts]

theorem gives_consoleGem (entry : Value) : Gives (fun lines => 1 < lines.length) (consoleGem entry) := by
  unfold consoleGem
  iterate 9 refine gives_bind fun _ => ?_
  exact gives_bind fun _ => gives_ok (by simp)

theorem auditLines_eq_iff {gems : Option (List Value)} {lines : List (List String)}
    (h : (gems.getD []).mapM consoleGem = .ok lines) :
    auditLines lines gems = [noAuditLine] ↔ gems = none := by
  match gems with
  | none => simp [auditLines]
  | some [] => simp [auditLines, noAuditLine]
  | some (g :: gs) =>
    obtain ⟨block, rest, hblock, -, rfl⟩ := exists_of_mapM_cons h
    have hlong := gives_consoleGem g block hblock
    refine iff_of_false (fun he => ?_) nofun
    have hlength := congrArg List.length he
    simp [auditLines] at hlength
    omega

theorem auditParts_eq_iff {gems : Option (List Value)} {rows : List (List Html.Part)} :
    auditParts rows gems = [noAuditPart] ↔ gems = none := by
  match gems with
  | none => simp [auditParts]
  | some [] => simp [auditParts, noAuditPart]
  | some (g :: gs) => simp [auditParts]

/-! ## Whole reports -/

theorem isDecoded_outputFor {static : Entries} (h : Value.EntriesDecoded static) (tool : String) :
    (outputFor static tool).IsDecoded := by
  unfold outputFor
  cases hfield : static.field? tool with
  | none => trivial
  | some raw => exact (show (Value.map static).IsDecoded from h).field hfield

section
variable {r : CombinedReport} {static : Entries} (htools : r.tools = normalized static)
include htools

theorem output?_absent {tool : String} (h : static.field? tool = none) : r.output? tool = .ok none := by
  rw [output?, htools, normalized, Entries.field?_mapValues, h]
  rfl

theorem warnings?_outputFor (hstatic : Value.EntriesDecoded static) :
    r.warnings? = .ok ((warningsOf? (outputFor static "brakeman")).map .list) := by
  have hdecoded := isDecoded_outputFor hstatic "brakeman"
  cases hfield : static.field? "brakeman" with
  | none =>
    rw [warnings?, output?_absent htools hfield, outputFor, hfield]
    rfl
  | some raw =>
    rw [outputFor, hfield, Option.getD_some] at hdecoded ⊢
    exact warnings?_eq hdecoded (by rw [htools, field?_normalized hfield])

theorem gems?_outputFor (hentries : ∀ e ∈ auditEntries (outputFor static "bundler_audit"),
    e.isMap = true) : r.gems? = .ok (gemsOf? (outputFor static "bundler_audit")) := by
  cases hfield : static.field? "bundler_audit" with
  | none =>
    rw [gems?, output?_absent htools hfield, outputFor, hfield]
    rfl
  | some raw =>
    rw [outputFor, hfield, Option.getD_some] at hentries ⊢
    exact gems?_eq (by rw [htools, field?_normalized hfield]) hentries

end

/-- **What reports show of the tools.** When the warnings and the entries of gems are of the form that
the formats need, every format shows the very lists that the tools have put out, the counts are those of
the lists, and the console and the page say that a tool has no results exactly when there is no list.
For Brakeman there is one more case: an output with a list that says itself that it is unavailable. -/
theorem reports_show_outputs (results : List Value) (static : Entries) (fs : Files.FileSystem)
    (now : String) (hresults : ∀ r ∈ results, r = .null ∨
      ∃ raw, raw.IsDecoded ∧ (Reply.read raw).run.value = .ok (some r))
    (hstatic : Value.EntriesDecoded static) (hne : static ≠ [])
    (hwarnings : ∀ w ∈ shownWarnings (outputFor static "brakeman"), w.isMap = true)
    (hentries : ∀ e ∈ auditEntries (outputFor static "bundler_audit"), e.isMap = true)
    (hgems : ∀ g ∈ shownGems (outputFor static "bundler_audit"),
      PartsAreMaps g ∧ (versionsOf g).HoldsTexts ∧ FitsPage g) :
    let brakeman := outputFor static "brakeman"
    let audit := outputFor static "bundler_audit"
    let warnings := warningsOf? brakeman
    let gems := gemsOf? audit
    let report := (build (ofFindings (combine results)) static).value
    report.countStatic = .ok ((warnings.getD []).length, (gems.getD []).length) ∧
    (∃ findingLines gemLines, report.findings.mapM consoleFinding = .ok findingLines ∧
      (gems.getD []).mapM consoleGem = .ok gemLines ∧
      report.console = .ok (consoleText report.findings findingLines warnings gems gemLines) ∧
      (brakemanLines warnings = [noBrakemanLine] ↔ warnings = none) ∧
      (auditLines gemLines gems = [noAuditLine] ↔ gems = none)) ∧
    (∃ gemLines, (gems.getD []).mapM markdownGem = .ok gemLines ∧ report.markdown =
      .ok (summaryText report.findings (warnings.getD []).length (gems.getD []).length ++
        String.join (Severity.all.map (sectionText report.findings)) ++
        (entriesSection "Brakeman Warnings" ((warnings.getD []).map warningEntry) ++
          entriesSection "Vulnerable Gems" gemLines))) ∧
    (∃ v rows, report.view now = .ok v ∧ v.warningCount = (warnings.getD []).length ∧
      v.gemCount = (gems.getD []).length ∧ (gems.getD []).mapM Html.Page.gemRow = .ok rows ∧
      (report.html fs none now).run.value = .ok (Html.render (pageParts v warnings gems rows)) ∧
      (brakemanParts warnings = [noBrakemanPart] ↔ warnings = none) ∧
      (auditParts rows gems = [noAuditPart] ↔ gems = none)) ∧
    (warnings = none ↔ brakeman.listAt? "warnings" = none ∨
      (brakeman.fieldOr "status" .null).str? = some "unavailable") ∧
    (gems = none ↔ audit.listAt? "results" = none) := by
  intro brakeman audit warnings gems report
  have htools : report.tools = normalized static := tools_build ..
  have hkeptFinding : ∀ f ∈ report.findings, Reply.IsKeptFinding f := by
    rw [findings_build]
    exact isKeptFinding_of_mem_combine hresults
  have hkept : ∀ f ∈ report.findings, Reply.IsKept f := fun f hf => (hkeptFinding f hf).isKept
  have hfull : report.tools.isEmpty = false := by
    obtain ⟨e, es, rfl⟩ := List.exists_cons_of_ne_nil hne
    rw [htools]
    rfl
  have hw : report.warnings? = .ok (warnings.map .list) := warnings?_outputFor htools hstatic
  have hg : report.gems? = .ok gems := gems?_outputFor htools hentries
  rw [shownWarnings_eq] at hwarnings
  rw [shownGems_eq] at hgems
  have hmap : ∀ g ∈ gems.getD [], g.isMap = true := by
    intro g hmem
    rw [← shownGems_eq] at hmem
    exact isMap_of_mem_shownGems hentries g hmem
  obtain ⟨findingLines, hfindingLines⟩ :=
    returns_mapM.mpr fun f hf => returns_consoleFinding (hkeptFinding f hf)
  obtain ⟨consoleLines, hconsoleLines⟩ : Returns ((gems.getD []).mapM consoleGem) :=
    returns_mapM.mpr fun g hmem => (returns_consoleGem (hmap g hmem)).mpr
      ⟨(hgems g hmem).1, (hgems g hmem).2.1⟩
  obtain ⟨markdownLines, hmarkdownLines⟩ : Returns ((gems.getD []).mapM markdownGem) :=
    returns_mapM.mpr fun g hmem => (returns_markdownGem (hmap g hmem)).mpr (hgems g hmem).1
  obtain ⟨rows, hrows⟩ : Returns ((gems.getD []).mapM Html.Page.gemRow) :=
    returns_mapM.mpr fun g hmem => returns_gemRow.mpr (hgems g hmem).2.2
  refine ⟨countStatic_eq hw hg, ?_, ?_, ?_, ?_, ?_⟩
  · exact ⟨findingLines, consoleLines, hfindingLines, hconsoleLines,
      console_eq hw hg hfull hkept hwarnings hfindingLines hconsoleLines, brakemanLines_eq_iff,
      auditLines_eq_iff hconsoleLines⟩
  · refine ⟨markdownLines, hmarkdownLines, ?_⟩
    have hmarkdown := markdown_eq hkept report.tools
    rw [countStatic_eq hw hg, staticText_eq hw hg hwarnings hmarkdownLines] at hmarkdown
    exact hmarkdown
  · refine ⟨_, rows, view_eq hw hg hkept now, rfl, rfl, hrows, ?_, brakemanParts_eq_iff,
      auditParts_eq_iff⟩
    rw [value_html (builtIn_none fs), view_eq hw hg hkept now]
    show Html.Page.page _ = _
    rw [Html.Page.page, parts_eq (by exact hfull) rfl rfl hrows]
    rfl
  · show warningsOf? brakeman = none ↔ _
    unfold warningsOf?
    by_cases hstatus : (brakeman.fieldOr "status" .null).str? = some unavailable
    · rw [if_pos hstatus]
      exact iff_of_true rfl (.inr hstatus)
    · rw [if_neg hstatus]
      exact (or_iff_left hstatus).symm
  · show gemsOf? audit = none ↔ _
    rw [gemsOf?, Option.map_eq_none_iff]

/-- An output of Brakeman with a warning and a status. -/
def statusOutput (status : String) : Value :=
  .record [("warnings", .list [.map []]), ("status", .str status)]

theorem listAt?_statusOutput (status : String) :
    (statusOutput status).listAt? "warnings" = some [.map []] :=
  Value.listAt?_eq_some (by simp [Entries.field?_cons_str])

theorem warningsOf?_statusOutput (status : String) : warningsOf? (statusOutput status) =
    if status = "unavailable" then none else some [.map []] := by
  have hstatus : ((statusOutput status).fieldOr "status" .null).str? = some status := by
    simp [statusOutput, Value.fieldOr, Value.record, Value.entries?, Value.opened,
      Entries.field?_cons_str, Value.str?]
  rw [warningsOf?, hstatus, listAt?_statusOutput]
  simp only [Option.some.injEq, unavailable]

theorem isDecoded_statusOutput (status : String) : (statusOutput status).IsDecoded :=
  ⟨⟨_, rfl⟩, ⟨trivial, trivial⟩, ⟨_, rfl⟩, trivial, trivial⟩

/-- What the two tools put out, Brakeman with a status. -/
def statusOutputs (status : String) : Entries :=
  [(.str "brakeman", statusOutput status), (.str "bundler_audit", outputWith "results" oneGem)]

theorem outputFor_statusOutputs (status : String) :
    outputFor (statusOutputs status) "brakeman" = statusOutput status ∧
      outputFor (statusOutputs status) "bundler_audit" = outputWith "results" oneGem := by
  simp [outputFor, statusOutputs, Entries.field?_cons_str]

theorem isDecoded_statusOutputs (status : String) : Value.EntriesDecoded (statusOutputs status) :=
  ⟨⟨_, rfl⟩, isDecoded_statusOutput status, ⟨_, rfl⟩, isDecoded_outputWith isDecoded_oneGem, trivial⟩

/-- Any other status is no matter. -/
theorem reports_show_done :
    Value.EntriesDecoded (statusOutputs "done") ∧ statusOutputs "done" ≠ [] ∧
    (∀ w ∈ shownWarnings (outputFor (statusOutputs "done") "brakeman"), w.isMap = true) ∧
    (∀ e ∈ auditEntries (outputFor (statusOutputs "done") "bundler_audit"), e.isMap = true) ∧
    (∀ g ∈ shownGems (outputFor (statusOutputs "done") "bundler_audit"),
      PartsAreMaps g ∧ (versionsOf g).HoldsTexts ∧ FitsPage g) ∧
    (build (ofFindings (combine [])) (statusOutputs "done")).value.countStatic = .ok (1, 1) := by
  obtain ⟨hbrakeman, haudit⟩ := outputFor_statusOutputs "done"
  have hwarnings : warningsOf? (statusOutput "done") = some [.map []] := by
    rw [warningsOf?_statusOutput, if_neg (by decide)]
  have hmaps : ∀ w ∈ shownWarnings (statusOutput "done"), w.isMap = true := by
    rw [shownWarnings_eq, hwarnings]
    intro w hw
    rw [List.mem_singleton.mp hw]
    rfl
  have hentries : ∀ e ∈ auditEntries (outputWith "results" oneGem), e.isMap = true := by
    rw [auditEntries_outputWith]
    intro e he
    rw [List.mem_singleton.mp he]
    rfl
  have hgems : ∀ g ∈ shownGems (outputWith "results" oneGem),
      PartsAreMaps g ∧ (versionsOf g).HoldsTexts ∧ FitsPage g := by
    intro g hg
    rw [eq_of_mem_shownGems hg]
    exact fits_oneGem
  have hshown : gemsOf? (outputWith "results" oneGem) = some [oneGem] := by
    have htype : isUnpatchedEntry oneGem = true := by
      simp [isUnpatchedEntry, oneGem, Value.fieldOr, Value.record, Value.entries?, Value.opened,
        Entries.field?_cons_str]
    rw [gemsOf?, listAt?_outputWith, Option.map_some, List.filter_cons_of_pos htype, List.filter_nil]
  rw [← hbrakeman] at hmaps
  rw [← haudit] at hentries hgems
  have hcounts := (reports_show_outputs [] (statusOutputs "done") ⟨[], "/"⟩ "" (List.forall_mem_nil _)
    (isDecoded_statusOutputs "done") (List.cons_ne_nil _ _) hmaps hentries hgems).1
  rw [hbrakeman, haudit, hwarnings, hshown] at hcounts
  exact ⟨isDecoded_statusOutputs "done", List.cons_ne_nil _ _, hmaps, hentries, hgems, hcounts⟩

/-- A warning that is not counted, for the status of its output. -/
theorem warning_of_unavailable_not_counted :
    (statusOutput "unavailable").IsDecoded ∧
    (statusOutput "unavailable").listAt? "warnings" = some [.map []] ∧
    (build (ofFindings (combine [])) [(.str "brakeman", statusOutput "unavailable")]).value.countStatic =
      .ok (0, 0) := by
  have hdecoded := isDecoded_statusOutput "unavailable"
  have htools := tools_build (combine []) [(.str "brakeman", statusOutput "unavailable")]
  have hw := warnings?_outputFor htools ⟨⟨_, rfl⟩, hdecoded, trivial⟩
  have hg := gems?_outputFor htools (by simp [outputFor, Entries.field?_cons_str, auditEntries,
    Value.listAt?])
  refine ⟨hdecoded, listAt?_statusOutput _, ?_⟩
  rw [countStatic_eq hw hg]
  have hwarnings : warningsOf? (outputFor [(.str "brakeman", statusOutput "unavailable")] "brakeman") =
      none := by
    simp [outputFor, Entries.field?_cons_str, warningsOf?_statusOutput]
  rw [hwarnings]
  simp [outputFor, Entries.field?_cons_str, gemsOf?, Value.listAt?]

end CombinedReport

end SecurityScan
