import SecurityScan.Proofs.Attempt
import SecurityScan.Proofs.Entries
import SecurityScan.Proofs.Places
import SecurityScan.Report.Format

/-!
# Where a report goes

A report is rendered before anything is written. What cannot be rendered leaves all files as they
are; what is saved is in the file that its path leads to, and no other file changes.
-/

namespace SecurityScan

open Files (FileSystem)
open Files.FileSystem (Grounded Widens Wrote)

/-! ## What comes of edits -/

namespace Edit

/-- What comes of a step, and the files after it. -/
def outcome {α : Type} (x : Edit α) (fs : FileSystem) : Except Fault α × FileSystem :=
  (x.run.run fs).value

theorem outcome_bind {α β : Type} (x : Edit α) (f : α → Edit β) (fs : FileSystem) :
    (x >>= f).outcome fs = match x.outcome fs with
      | (.ok a, mid) => (f a).outcome mid
      | (.error e, mid) => (.error e, mid) := by
  rw [outcome, ExceptT.run_bind, StateT.run_bind, Noted.value_bind]
  rw [outcome]
  rcases (x.run.run fs).value with ⟨_ | _, mid⟩ <;> rfl

theorem outcome_throw {α : Type} (e : Fault) (fs : FileSystem) :
    (throw e : Edit α).outcome fs = (.error e, fs) := rfl

theorem outcome_files (fs : FileSystem) : files.outcome fs = (.ok fs, fs) := rfl

theorem outcome_ofAttempt {α : Type} (x : Attempt α) (fs : FileSystem) :
    (ofAttempt x).outcome fs = (x.run.value, fs) := rfl

theorem outcome_ofExcept {α : Type} (x : Except Fault α) (fs : FileSystem) :
    (ofExcept x).outcome fs = (x, fs) := rfl

variable {fs after : FileSystem} {path : String}

theorem outcome_checkPath (path : String) (fs : FileSystem) :
    (checkPath path).outcome fs = match Files.pathFault? path with
      | some f => (.error f, fs)
      | none => (.ok (), fs) := by
  rw [checkPath]
  cases Files.pathFault? path <;> rfl

theorem outcome_ensureDirs (path : String) (fs : FileSystem) :
    (ensureDirs path).outcome fs = match Files.pathFault? path with
      | some f => (.error f, fs)
      | none => ((fs.ensureDirs path).1.mapError .file, (fs.ensureDirs path).2) := by
  rw [ensureDirs, outcome_bind, outcome_checkPath]
  cases Files.pathFault? path with
  | some f => rfl
  | none =>
    dsimp only
    rw [outcome_bind, outcome_files]
    dsimp only
    rcases fs.ensureDirs path with ⟨_ | _, after⟩ <;> rfl

theorem outcome_writeBytes (path : String) (bytes : Text.Utf8.Bytes) (fs : FileSystem) :
    (writeBytes path bytes).outcome fs = match Files.pathFault? path with
      | some f => (.error f, fs)
      | none => match fs.write path bytes with
        | .ok after => (.ok (), after)
        | .error f => (.error (.file f), fs) := by
  rw [writeBytes, outcome_bind, outcome_checkPath]
  cases Files.pathFault? path with
  | some f => rfl
  | none =>
    dsimp only
    rw [outcome_bind, outcome_files]
    dsimp only
    cases fs.write path bytes <;> rfl

theorem widens_ensureDirs (hfs : fs.Grounded) (path : String) :
    Widens fs ((ensureDirs path).outcome fs).2 := by
  rw [outcome_ensureDirs]
  cases Files.pathFault? path with
  | some f => exact .refl fs
  | none => exact Files.FileSystem.widens_ensureDirsUp _ hfs path

theorem exists_wrote_of_writeText (hfs : fs.Grounded) {text : String}
    (h : (writeText path text).outcome fs = (.ok (), after)) :
    Files.pathFault? path = none ∧ ∃ location, Wrote fs after location (Text.Utf8.encode text) ∧
      after.find path = .ok (.file location (Text.Utf8.encode text)) := by
  rw [writeText] at h
  split at h
  · rw [outcome_bind] at h
    split at h
    · rw [outcome_throw] at h
      cases h
    · cases h
  · rw [outcome_writeBytes] at h
    split at h
    · cases h
    rename_i hpath
    split at h
    · rename_i written hwrite
      cases h
      exact ⟨hpath, Files.FileSystem.exists_wrote_of_write hfs hwrite⟩
    · cases h

/-- A text was saved in the file at a location, to which a path leads. Of what was there before
nothing else changed, and no path to another file leads elsewhere; directories may be new. -/
structure Saved (before after : FileSystem) (path text : String) (location : List String) :
    Prop where
  isPath : Files.pathFault? path = none
  found : after.find path = .ok (.file location (Text.Utf8.encode text))
  replaced : ∀ k, before.top.kind? location = some k → ∃ bytes, k = .file bytes
  others : ∀ l, l ≠ location → after.top.kind? l = before.top.kind? l ∨
    before.top.kind? l = none ∧ after.top.kind? l = some .directory
  files : ∀ other l bytes, l ≠ location → before.find other = .ok (.file l bytes) →
    after.find other = .ok (.file l bytes)

theorem saved_of_saveText (hfs : fs.Grounded) {text : String}
    (h : (saveText path text).outcome fs = (.ok (), after)) :
    ∃ location, Saved fs after path text location := by
  have hwidens := widens_ensureDirs hfs (Path.parent path)
  rw [saveText, outcome_bind] at h
  split at h
  · rename_i mid hmid
    rw [hmid] at hwidens
    obtain ⟨hpath, location, hwrote, hfind⟩ :=
      exists_wrote_of_writeText (hwidens.grounded hfs) h
    have hwritten := hwidens.written hwrote
    refine ⟨location, hpath, hfind, hwritten.free, fun l hl => ?_, fun other l bytes hl hother => ?_⟩
    · rw [hwrote.kinds, if_neg hl]
      exact hwidens.kinds l
    · have hfound := (Files.FileSystem.find_of_written (hwrote.cwd.trans hwidens.cwd) hwritten
        hother).1 l bytes rfl
      rwa [if_neg hl] at hfound
  · cases h

end Edit

/-! ## Delivery -/

namespace CombinedReport

/-- The text of a report in the format of a name. -/
def formatted (r : CombinedReport) (fs : FileSystem) (format : String) (template : Option String)
    (now : String) : Except Fault String := do
  let f ← ReportFormat.ofName format
  (r.rendered fs f template now).run.value

/-- What a delivery prints. -/
def printedBy : Except Fault Delivery → String
  | .ok (.printed text) => text
  | _ => ""

section
variable (r : CombinedReport) (format start : String) (template : Option String) (now : String)
  (fs : FileSystem)

theorem outcome_deliver_of_error {f : Fault}
    (h : r.formatted fs format template now = .error f) :
    (r.deliver format start template now).outcome fs = (.error f, fs) := by
  rw [deliver, Edit.outcome_bind, Edit.outcome_ofExcept]
  rw [formatted] at h
  cases hf : ReportFormat.ofName format with
  | error g =>
    rw [hf] at h
    cases h
    rfl
  | ok g =>
    rw [hf] at h
    have hrun : (r.rendered fs g template now).run.value = .error f := h
    dsimp only
    rw [Edit.outcome_bind, Edit.outcome_files]
    dsimp only
    rw [Edit.outcome_bind, Edit.outcome_ofAttempt, hrun]

theorem outcome_saved (path text told : String) :
    (do Edit.saveText path text; Edit.note .info told; return Delivery.saved path :
      Edit Delivery).outcome fs =
      match (Edit.saveText path text).outcome fs with
      | (.ok (), after) => (.ok (.saved path), after)
      | (.error g, after) => (.error g, after) := by
  rw [Edit.outcome_bind]
  rcases (Edit.saveText path text).outcome fs with ⟨_ | _, after⟩ <;> rfl

/-- Once it is rendered, a report is printed or saved. -/
theorem outcome_deliver_of_ok {text : String}
    (h : r.formatted fs format template now = .ok text) :
    ∃ f, ReportFormat.ofName format = .ok f ∧
      (r.deliver format start template now).outcome fs =
        if f = .console then (.ok (.printed (text ++ "\n")), fs)
        else
          let path := Path.tidy (start ++ f.extension)
          match (Edit.saveText path text).outcome fs with
          | (.ok (), after) => (.ok (.saved path), after)
          | (.error g, after) => (.error g, after) := by
  obtain ⟨f, hf, hrun⟩ := exists_of_bind h
  refine ⟨f, hf, ?_⟩
  rw [deliver, Edit.outcome_bind, Edit.outcome_ofExcept, hf]
  dsimp only
  rw [Edit.outcome_bind, Edit.outcome_files]
  dsimp only
  rw [Edit.outcome_bind, Edit.outcome_ofAttempt, hrun]
  dsimp only
  cases f with
  | console => rfl
  | json | markdown | html =>
    rw [if_neg nofun]
    dsimp only
    rw [outcome_saved]

end

/-- **A report is rendered before it is written.** An unknown format, or a report that
cannot be rendered, leaves all files as they are and prints nothing. A report that is saved is the
rendered text in the file that its path leads to, nothing is printed, and nothing but that file
changed of what was there. A report that is printed leaves all files as they are. -/
theorem deliver_rendered_first (r : CombinedReport) (format start : String)
    (template : Option String) (now : String) {fs : FileSystem} (hfs : fs.Grounded) :
    let text := r.formatted fs format template now
    let out := (r.deliver format start template now).outcome fs
    (∀ f, text = .error f → out = (.error f, fs) ∧ printedBy out.1 = "") ∧
    (∀ path, out.1 = .ok (.saved path) → ∃ f t location, ReportFormat.ofName format = .ok f ∧
      text = .ok t ∧ path = Path.tidy (start ++ f.extension) ∧
      Edit.Saved fs out.2 path t location ∧ printedBy out.1 = "") ∧
    ∀ shown, out.1 = .ok (.printed shown) → out.2 = fs ∧ ∃ t, text = .ok t ∧ shown = t ++ "\n" := by
  intro text out
  cases htext : text with
  | error f =>
    have hout : out = (.error f, fs) :=
      outcome_deliver_of_error r format start template now fs htext
    rw [hout]
    refine ⟨fun g hg => ?_, nofun, nofun⟩
    cases hg
    exact ⟨rfl, rfl⟩
  | ok t =>
    obtain ⟨f, hf, hout⟩ := outcome_deliver_of_ok r format start template now fs htext
    refine ⟨nofun, ?_⟩
    have hout : out = _ := hout
    rw [hout]
    split
    · refine ⟨nofun, fun shown hshown => ?_⟩
      cases hshown
      exact ⟨rfl, t, rfl, rfl⟩
    · dsimp only
      split
      · rename_i after hsave
        obtain ⟨location, hsaved⟩ := Edit.saved_of_saveText hfs hsave
        refine ⟨fun path hpath => ?_, nofun⟩
        cases hpath
        exact ⟨f, t, location, hf, rfl, rfl, hsaved, rfl⟩
      · exact ⟨nofun, nofun⟩

/-! ### A report in the place of another -/

/-- A tree with a report of an earlier run. -/
def oldReport : FileSystem where
  top := [("out.md", .file [111, 108, 100])]
  cwd := "/"

theorem grounded_oldReport : oldReport.Grounded := by
  have hcwd : Path.names "/" = [] := by decide
  rw [Grounded, oldReport, hcwd]
  exact Files.Dir.kind?_nil _

/-- A report whose warning is no object. -/
def spoiltReport : CombinedReport where
  findings := []
  tools := [(.str "brakeman", .record [("warnings", .list [.int 1])])]

theorem markdown_spoiltReport :
    spoiltReport.markdown = .error (.noField "'int' object has no attribute 'get'") := by
  have hwarnings : spoiltReport.warnings? = .ok (some (.list [.int 1])) := by
    simp [warnings?, output?, spoiltReport, Entries.field?_cons_str, Value.record, Value.holds,
      Value.lookup, Value.lookupD, Value.entriesFor, Value.entries?, Value.opened, bind,
      Except.bind, pure, Except.pure]
  have hgems : spoiltReport.gems? = .ok none := by
    simp [gems?, output?, spoiltReport, Entries.field?_cons_str, bind, Except.bind, pure,
      Except.pure]
  rw [markdown, countStatic, hwarnings, hgems]
  rfl

theorem json_spoiltReport : ∃ text, spoiltReport.json = .ok text ∧ Text.hasLoneHalf text = false :=
  ⟨_, rfl, by decide +kernel⟩

theorem ensureDirs_oldReport : oldReport.ensureDirs "." = (.ok (), oldReport) := by
  have hnames : Text.splitOn '/' "." = ["."] := by decide
  have hcwd : Path.names "/" = [] := by decide
  have hlast : (Path.tidyParts ".").getLast? = none := by decide
  simp +decide [oldReport, FileSystem.ensureDirs, FileSystem.ensureDirsUp, FileSystem.ensureDir,
    FileSystem.makeDir, FileSystem.isDir, FileSystem.find, hlast, hnames, hcwd, Files.walk]

theorem find_oldReport : oldReport.find "out.json" = .ok (.vacant ["out.json"]) := by
  have hnames : Text.splitOn '/' "out.json" = ["out.json"] := by decide
  have hcwd : Path.names "/" = [] := by decide
  simp +decide [oldReport, FileSystem.find, hnames, hcwd, Files.walk, Files.Dir.at,
    Files.Dir.child?, List.lookup_cons]

theorem saveText_oldReport {text : String} (h : Text.hasLoneHalf text = false) :
    ((Edit.saveText "out.json" text).outcome oldReport).1 = .ok () := by
  have hparent : Path.parent "out.json" = "." := by decide
  have hdir : Files.pathFault? "." = none := by decide
  have hpath : Files.pathFault? "out.json" = none := by decide
  rw [Edit.saveText, hparent, Edit.outcome_bind, Edit.outcome_ensureDirs, hdir,
    ensureDirs_oldReport]
  dsimp only [Except.mapError]
  rw [Edit.writeText, h, if_neg Bool.false_ne_true, Edit.outcome_writeBytes, hpath,
    FileSystem.write, find_oldReport]

/-- The report cannot be rendered as Markdown, and the earlier one is still there; as JSON it is
saved beside it. -/
theorem deliver_spoiltReport :
    let f := Fault.noField "'int' object has no attribute 'get'"
    let saved := (spoiltReport.deliver "json" "out" none "").outcome oldReport
    oldReport.Grounded ∧
    (spoiltReport.formatted oldReport "markdown" none "" = .error f ∧
      (spoiltReport.deliver "markdown" "out" none "").outcome oldReport = (.error f, oldReport)) ∧
    saved.1 = .ok (.saved "out.json") ∧
    ∃ text location, spoiltReport.formatted oldReport "json" none "" = .ok text ∧
      Edit.Saved oldReport saved.2 "out.json" text location := by
  intro f saved
  have hmarkdown : spoiltReport.formatted oldReport "markdown" none "" = .error f :=
    markdown_spoiltReport
  obtain ⟨text, hjson, hwhole⟩ := json_spoiltReport
  have hformatted : spoiltReport.formatted oldReport "json" none "" = .ok text := hjson
  have hsaved : saved.1 = .ok (.saved "out.json") := by
    obtain ⟨g, hg, hout⟩ := outcome_deliver_of_ok spoiltReport "json" "out" none "" oldReport
      hformatted
    have hjsonName : ReportFormat.ofName "json" = .ok .json := rfl
    obtain rfl := Except.ok.inj (hjsonName.symm.trans hg)
    have hpath : Path.tidy ("out" ++ ReportFormat.json.extension) = "out.json" := by decide
    have hdone := saveText_oldReport hwhole
    rw [show saved = _ from hout, if_neg nofun, hpath]
    dsimp only
    split
    · rfl
    · rename_i hfailed
      rw [hfailed] at hdone
      cases hdone
  obtain ⟨-, t, location, -, ht, -, hplace, -⟩ :=
    (deliver_rendered_first spoiltReport "json" "out" none "" grounded_oldReport).2.1 _ hsaved
  exact ⟨grounded_oldReport, ⟨hmarkdown,
    ((deliver_rendered_first spoiltReport "markdown" "out" none "" grounded_oldReport).1 f
      hmarkdown).1⟩, hsaved, t, location, ht, hplace⟩

end CombinedReport

end SecurityScan
