import SecurityScan.Proofs.ConfigFile
import SecurityScan.Proofs.TemplateCode
import SecurityScan.Proofs.TemplateReading
import SecurityScan.Report.Format

/-!
# Pages by a template of one's own

A page is laid out by the template of a file. Where there is no such file, or its text breaks the
rules of templates, the built-in page takes its place and a note tells it. A file that is no text
stops the page, and so does a text that keeps the rules and still makes no template.
-/

namespace SecurityScan

open Settings (Holds HoldsText)

/-! ## The text of a file -/

namespace Files.FileSystem

variable {fs : FileSystem} {path : String}

theorem readText_of_holds {bytes : Text.Utf8.Bytes} (h : Holds fs path bytes) :
    fs.readText path = match Text.Utf8.decodeFrom 0 bytes with
      | .ok cs => .ok (String.ofList (Text.newlinesUnified cs))
      | .error e => .error (.undecodable e) := by
  obtain ⟨hpath, location, hfind⟩ := h
  rw [readText, hpath]
  dsimp only
  rw [read, hfind]
  dsimp only
  cases Text.Utf8.decodeFrom 0 bytes <;> rfl

theorem readText_of_holdsText {text : String} (h : HoldsText fs path text) :
    fs.readText path = .ok text := by
  obtain ⟨bytes, cs, hholds, hcs, rfl⟩ := h
  rw [readText_of_holds hholds, Text.Utf8.text?_eq_some.mp hcs]

theorem holds_of_read {bytes : Text.Utf8.Bytes} (hpath : pathFault? path = none)
    (h : fs.read path = .ok bytes) : Holds fs path bytes := by
  rw [read] at h
  split at h <;> cases h
  exact ⟨hpath, _, ‹_›⟩

end Files.FileSystem

/-! ## What comes of a template file -/

namespace Template

/-- Why a text that keeps the rules of templates is none: its reading stops, or its statements are
not made into code. -/
inductive Cause (source : String) (f : Fault) : Prop
  | reading (hread : Reader.statementsOf source = .error (.fault f)) (h : ReadDefect (.fault f))
  | making {ss : List Statement} (hread : Reader.statementsOf source = .ok ss)
      (hmake : Code.ofStatements ss = .error (.fault f)) (h : CodeDefect (.fault f))

theorem cause_of_read {source : String} {f : Fault} (h : read source = .error (.fault f)) :
    Cause source f := by
  rw [read] at h
  cases hread : Reader.statementsOf source with
  | error d =>
    rw [hread] at h
    cases h
    exact .reading hread (Reader.stops_statementsOf source _ hread)
  | ok ss =>
    rw [hread] at h
    change (Code.ofStatements ss >>= fun code => pure (⟨code⟩ : Template)) = _ at h
    cases hmake : Code.ofStatements ss with
    | error d =>
      rw [hmake] at h
      cases h
      exact .making hread hmake (stops_ofStatements ss _ hmake)
    | ok code =>
      rw [hmake] at h
      cases h

/-- The notes with which a template file is passed over. -/
inductive PassedOver (fs : Files.FileSystem) (path : String) : Note → Prop
  | unreadable {failure : Files.Failure} (hpath : Files.pathFault? (Path.tidy path) = none)
      (h : fs.read (Path.tidy path) = .error failure) :
      PassedOver fs path ⟨.warning, "⚠️  HTML template not readable (" ++ failure.message ++
        "); using the built-in template"⟩
  | malformed {text : String} (h : HoldsText fs (Path.tidy path) text)
      (hread : read text = .error .malformed) :
      PassedOver fs path ⟨.warning, "⚠️  HTML template " ++ path ++ " is invalid (" ++
        Note.omitted "jinja" ++ "); using the built-in template"⟩

/-- The faults that the template file at a path stops a page with. -/
inductive Breaks (fs : Files.FileSystem) (path : String) : Fault → Prop
  | noPath {f : Fault} (h : Files.pathFault? path = some f) : Breaks fs path f
  | undecodable {bytes : Text.Utf8.Bytes} {e : Text.Utf8.Error} (h : Holds fs path bytes)
      (hbytes : Text.Utf8.decodeFrom 0 bytes = .error e) : Breaks fs path (.undecodable e)
  | text {text : String} {f : Fault} (h : HoldsText fs path text)
      (hread : read text = .error (.fault f)) : Breaks fs path f

end Template

namespace CombinedReport

open Template (PassedOver Breaks)

section
variable {fs : Files.FileSystem} {path : String}

theorem templateOf_of_text {text : String} {t : Template}
    (h : HoldsText fs (Path.tidy path) text) (hread : Template.read text = .ok t) :
    (templateOf fs path).run = ⟨.ok (some t), []⟩ := by
  rw [templateOf, Files.FileSystem.readText_of_holdsText h]
  dsimp only
  rw [hread]
  rfl

theorem templateOf_of_passedOver {n : Note} (h : PassedOver fs path n) :
    (templateOf fs path).run = ⟨.ok none, [n]⟩ := by
  cases h with
  | unreadable hpath h =>
    rw [templateOf, Files.FileSystem.readText, hpath]
    dsimp only
    rw [h]
    rfl
  | malformed h hread =>
    rw [templateOf, Files.FileSystem.readText_of_holdsText h]
    dsimp only
    rw [hread]
    rfl

theorem templateOf_of_breaks {f : Fault} (h : Breaks fs (Path.tidy path) f) :
    (templateOf fs path).run = ⟨.error f, []⟩ := by
  cases h with
  | noPath h =>
    rw [templateOf, Files.FileSystem.readText, h]
    obtain rfl | rfl := Files.eq_of_pathFault? h
    · rfl
    · rfl
  | undecodable h hbytes =>
    rw [templateOf, Files.FileSystem.readText_of_holds h, hbytes]
    rfl
  | text h hread =>
    rw [templateOf, Files.FileSystem.readText_of_holdsText h]
    dsimp only
    rw [hread]
    rfl

end

/-- A template file gives a template, is passed over or stops the page. -/
theorem templateFile_cases (fs : Files.FileSystem) (path : String) :
    (∃ text t, HoldsText fs (Path.tidy path) text ∧ Template.read text = .ok t) ∨
      (∃ n, PassedOver fs path n) ∨ ∃ f, Breaks fs (Path.tidy path) f := by
  cases hpath : Files.pathFault? (Path.tidy path) with
  | some f => exact .inr (.inr ⟨f, .noPath hpath⟩)
  | none =>
    cases hbytes : fs.read (Path.tidy path) with
    | error failure => exact .inr (.inl ⟨_, .unreadable hpath hbytes⟩)
    | ok bytes =>
      have hholds := Files.FileSystem.holds_of_read hpath hbytes
      cases hdecode : Text.Utf8.decodeFrom 0 bytes with
      | error e => exact .inr (.inr ⟨_, .undecodable hholds hdecode⟩)
      | ok cs =>
        obtain ⟨text, htext⟩ : ∃ text, HoldsText fs (Path.tidy path) text :=
          ⟨_, bytes, cs, hholds, Text.Utf8.text?_eq_some.mpr hdecode, rfl⟩
        cases hread : Template.read text with
        | ok t => exact .inl ⟨text, t, htext, hread⟩
        | error d =>
          cases d with
          | malformed => exact .inr (.inl ⟨_, .malformed htext hread⟩)
          | fault f => exact .inr (.inr ⟨f, .text htext hread⟩)

section
variable (r : CombinedReport) (fs : Files.FileSystem) (now : String)

/-- The page of a report by a template, or the built-in one. -/
def pageBy (own : Option Template) : Except Fault String := do
  let v ← r.view now
  match own with
  | none => Html.Page.page v
  | some t => t.render v.names

theorem html_none : r.html fs none now = Attempt.ofExcept (r.pageBy now none) :=
  Attempt.ofExcept_bind (r.view now) Html.Page.page

theorem html_some {path : String} (hpath : path ≠ "") :
    r.html fs (some path) now = (do
      let own ← templateOf fs path
      Attempt.ofExcept (r.pageBy now own)) := by
  unfold html
  extract_lets rest
  have hrest : rest = fun own => Attempt.ofExcept (r.pageBy now own) := by
    funext own
    cases own with
    | none => exact Attempt.ofExcept_bind (r.view now) Html.Page.page
    | some t => exact Attempt.ofExcept_bind (r.view now) fun v => t.render v.names
  rw [hrest]
  split
  · rename_i h
    cases h
  · rename_i h
    exact absurd (Option.some.inj h) hpath
  · rename_i h
    rw [Option.some.inj h]

end

section
variable {r : CombinedReport} {fs : Files.FileSystem} {path now : String} {notes : List Note}

theorem run_html_of_ok {own : Option Template} (hpath : path ≠ "")
    (h : (templateOf fs path).run = ⟨.ok own, notes⟩) :
    (r.html fs (some path) now).run = ⟨r.pageBy now own, notes⟩ := by
  rw [html_some r fs now hpath, ExceptT.run_bind, h]
  show (⟨r.pageBy now own, notes ++ []⟩ : Noted (Except Fault String)) = _
  rw [List.append_nil]

theorem run_html_of_error {f : Fault} (hpath : path ≠ "")
    (h : (templateOf fs path).run = ⟨.error f, notes⟩) :
    (r.html fs (some path) now).run = ⟨.error f, notes⟩ := by
  rw [html_some r fs now hpath, ExceptT.run_bind, h]
  show (⟨.error f, notes ++ []⟩ : Noted (Except Fault String)) = _
  rw [List.append_nil]

end

/-- **The page by a template file.** A text in UTF-8 that makes a template lays the page out. A path
to no file, or a text that breaks the rules of templates, gives the built-in page and one note.
Anything else stops the page: a path that is none, bytes that are no text, or a text that keeps the
rules and has a cause in it that its reading or the making of its code stops at. -/
theorem html_by_template (r : CombinedReport) (fs : Files.FileSystem) {path : String}
    (hpath : path ≠ "") (now : String) :
    let shown := Path.tidy path
    let page := (r.html fs (some path) now).run
    (∀ text t, HoldsText fs shown text → Template.read text = .ok t →
      page = ⟨do t.render (← r.view now).names, []⟩) ∧
    (∀ n, PassedOver fs path n → page = ⟨(r.html fs none now).run.value, [n]⟩) ∧
    (∀ f, Breaks fs shown f → page = ⟨.error f, []⟩) ∧
    ((∃ text t, HoldsText fs shown text ∧ Template.read text = .ok t) ∨
      (∃ n, PassedOver fs path n) ∨ ∃ f, Breaks fs shown f) ∧
    (∀ f, (templateOf fs path).run.value = .error f ↔ Breaks fs shown f) ∧
    ∀ f, Breaks fs shown f → f = .unencodable ∨ f = .badValue "embedded null byte" ∨
      (∃ bytes e, Holds fs shown bytes ∧ Text.Utf8.decodeFrom 0 bytes = .error e ∧
        f = .undecodable e) ∨
      ∃ text, HoldsText fs shown text ∧ Template.Cause text f := by
  intro shown page
  refine ⟨fun text t htext hread => ?_, fun n hn => ?_, fun f hf => ?_, templateFile_cases fs path,
    fun f => ⟨fun hvalue => ?_, fun hf => ?_⟩, fun f hf => ?_⟩
  · exact run_html_of_ok hpath (templateOf_of_text htext hread)
  · rw [html_none]
    exact run_html_of_ok hpath (templateOf_of_passedOver hn)
  · exact run_html_of_error hpath (templateOf_of_breaks hf)
  · obtain ⟨text, t, htext, hread⟩ | ⟨n, hn⟩ | ⟨g, hg⟩ := templateFile_cases fs path
    · rw [templateOf_of_text htext hread] at hvalue
      cases hvalue
    · rw [templateOf_of_passedOver hn] at hvalue
      cases hvalue
    · rw [templateOf_of_breaks hg] at hvalue
      cases hvalue
      exact hg
  · rw [templateOf_of_breaks hf]
  · cases hf with
    | noPath h => exact (Files.eq_of_pathFault? h).imp_right .inl
    | undecodable h hbytes => exact .inr (.inr (.inl ⟨_, _, h, hbytes, rfl⟩))
    | text h hread => exact .inr (.inr (.inr ⟨_, h, Template.cause_of_read hread⟩))

theorem tidy_page : Path.tidy "t.html" = "t.html" := by decide

theorem pathFault?_page : Files.pathFault? "t.html" = none := by decide

/-- A template file that is not there is passed over. -/
theorem html_by_template_missing :
    "t.html" ≠ "" ∧ ((⟨[], []⟩ : CombinedReport).html ⟨[], "/"⟩ (some "t.html") "").run =
      ⟨((⟨[], []⟩ : CombinedReport).html ⟨[], "/"⟩ none "").run.value, [⟨.warning,
        "⚠️  HTML template not readable (" ++ Files.Failure.message ⟨.notFound, "t.html"⟩ ++
          "); using the built-in template"⟩]⟩ := by
  have hname : "t.html" ≠ "" := by decide
  have hread : Files.FileSystem.read ⟨[], "/"⟩ (Path.tidy "t.html") =
      .error ⟨.notFound, "t.html"⟩ := by
    have hn : Text.splitOn '/' "t.html" = ["t.html"] := by decide
    have hcwd : Path.names "/" = [] := by decide
    have habsolute : Path.isAbsolute "t.html" = false := by decide
    rw [tidy_page]
    simp +decide [Files.FileSystem.read, Files.FileSystem.find, hn, hcwd, Files.walk, Files.Dir.at,
      Files.Dir.child?]
  exact ⟨hname, (html_by_template ⟨[], []⟩ ⟨[], "/"⟩ hname "").2.1 _
    (.unreadable (tidy_page ▸ pathFault?_page) hread)⟩

/-- Bytes that are no text stop the page, though the built-in one could take its place. -/
theorem undecodable_template_stops_html :
    ((⟨[], []⟩ : CombinedReport).html ⟨[("t.html", .file [0xff])], "/"⟩ (some "t.html") "").run =
      ⟨.error (.undecodable ⟨0xff, 0, 1, .badStart⟩), []⟩ := by
  have hfind : (⟨[("t.html", .file [0xff])], "/"⟩ : Files.FileSystem).find "t.html" =
      .ok (.file ["t.html"] [0xff]) := by
    have hn : Text.splitOn '/' "t.html" = ["t.html"] := by decide
    have hcwd : Path.names "/" = [] := by decide
    simp +decide [Files.FileSystem.find, hn, hcwd, Files.walk, Files.Dir.at, Files.Dir.child?]
  have hbreaks : Breaks ⟨[("t.html", .file [0xff])], "/"⟩ (Path.tidy "t.html")
      (.undecodable ⟨0xff, 0, 1, .badStart⟩) := by
    rw [tidy_page]
    exact .undecodable ⟨pathFault?_page, _, hfind⟩ (by decide)
  exact run_html_of_error (by decide) (templateOf_of_breaks hbreaks)

end CombinedReport

end SecurityScan
