import SecurityScan.Html.Page
import SecurityScan.Proofs.Attempt
import SecurityScan.Proofs.Mapping
import SecurityScan.Report.Format

/-!
# What values can do to a page

The template text between the values of a page depends on the shape of the report alone, and a value
that goes in has none of the characters left that open or close a tag or an attribute.
-/

namespace SecurityScan

namespace Html

/-! ## Escaped text -/

def isMark (c : Char) : Bool := c == '<' || c == '>' || c == '"' || c == '\''

/-- The characters of a text that may open or close a tag or an attribute, in order. -/
def marks (s : String) : List Char := s.toList.filter isMark

theorem marks_escape (s : String) : marks (escape s) = [] := by
  rw [marks, escape, String.toList_ofList, List.filter_flatMap, List.flatMap_eq_nil_iff]
  intro c _
  unfold escapeChar
  split
  case h_6 hamp hlt hgt hdouble hsingle => simp_all [isMark]
  all_goals decide

/-- A text with its five entities read back. -/
def readBack : List Char → List Char
  | '&' :: 'a' :: 'm' :: 'p' :: ';' :: cs => '&' :: readBack cs
  | '&' :: 'l' :: 't' :: ';' :: cs => '<' :: readBack cs
  | '&' :: 'g' :: 't' :: ';' :: cs => '>' :: readBack cs
  | '&' :: '#' :: '3' :: '4' :: ';' :: cs => '"' :: readBack cs
  | '&' :: '#' :: '3' :: '9' :: ';' :: cs => '\'' :: readBack cs
  | c :: cs => c :: readBack cs
  | [] => []

theorem readBack_escapeChar (c : Char) (cs : List Char) :
    readBack (escapeChar c ++ cs) = c :: readBack cs := by
  unfold escapeChar
  split
  case h_6 hamp hlt hgt hdouble hsingle =>
    rw [List.singleton_append, readBack] <;> simp_all
  all_goals rfl

theorem readBack_escape (s : String) : readBack (escape s).toList = s.toList := by
  rw [escape, String.toList_ofList]
  induction s.toList with
  | nil => rfl
  | cons c cs ih => rw [List.flatMap_cons, readBack_escapeChar, ih]

/-! ## Frames -/

/-- The template text of a part; none where a value goes in. -/
def Part.frame : Part → Option String
  | .markup text => some text
  | .data _ => none

/-- The template text of a page, with a gap for each value. -/
def frames (ps : List Part) : List (Option String) := ps.map Part.frame

@[simp] theorem frames_nil : frames [] = [] := rfl

@[simp] theorem frames_cons (p : Part) (ps : List Part) : frames (p :: ps) = p.frame :: frames ps := rfl

@[simp] theorem frames_append (ps qs : List Part) : frames (ps ++ qs) = frames ps ++ frames qs :=
  List.map_append

@[simp] theorem frame_markup (text : String) : (Part.markup text).frame = some text := rfl

@[simp] theorem frame_data (text : String) : (Part.data text).frame = none := rfl

theorem marks_append (s t : String) : marks (s ++ t) = marks s ++ marks t := by
  rw [marks, String.toList_append, List.filter_append, marks, marks]

/-- All marks of a page are those of its template text. -/
theorem marks_render (ps : List Part) : marks (render ps) = (frames ps).reduceOption.flatMap marks := by
  induction ps with
  | nil => rfl
  | cons p ps ih =>
    have hcons : render (p :: ps) = p.render ++ render ps := by
      rw [render, List.map_cons, String.join_cons, render]
    rw [hcons, marks_append, ih]
    cases p with
    | markup text => rfl
    | data text => rw [Part.render, marks_escape]; rfl

namespace Page

@[simp] theorem frame_shown (v : Option Value) : (shown v).frame = none := rfl

/-! ## Rows and tables -/

theorem frames_flatMap_congr {α : Type} {row : α → List Part} (key : α → Bool)
    (hrow : ∀ a b, key a = key b → frames (row a) = frames (row b)) :
    ∀ {as bs : List α}, as.map key = bs.map key →
      frames (as.flatMap row) = frames (bs.flatMap row)
  | [], [], _ => rfl
  | a :: as, b :: bs, h => by
    obtain ⟨hkey, hrest⟩ := List.cons_eq_cons.mp h
    rw [List.flatMap_cons, List.flatMap_cons, frames_append, frames_append, hrow a b hkey,
      frames_flatMap_congr key hrow hrest]

theorem frames_countRows {rows rows' : List (Severity × Nat)} (h : rows.length = rows'.length) :
    frames (rows.flatMap countRow) = frames (rows'.flatMap countRow) := by
  have hkeys : rows.map (fun _ => true) = rows'.map fun _ => true := by
    rw [List.map_const', List.map_const', h]
  exact frames_flatMap_congr (fun _ => true) (fun _ _ _ => rfl) hkeys

def hasSnippet (finding : Value) : Bool := holds (attr finding "code_snippet")

theorem frames_findingRow (f g : Value) (h : hasSnippet f = hasSnippet g) :
    frames (findingRow f) = frames (findingRow g) := by
  have hkind : ∀ kind : Option Value,
      (if holds kind then shown kind else .data "Unknown Type").frame = none := by
    intro kind
    split <;> rfl
  have hsnippet : frames (snippet (attr f "code_snippet")) =
      frames (snippet (attr g "code_snippet")) := by
    unfold hasSnippet at h
    unfold snippet
    rw [h]
    split <;> rfl
  simp only [findingRow, frames_append, frames_cons, hkind, hsnippet]
  rfl

theorem frames_findingTable {fs gs : List Value} (h : fs.map hasSnippet = gs.map hasSnippet) :
    frames (findingTable fs) = frames (findingTable gs) := by
  have hempty : fs.isEmpty = gs.isEmpty := by
    rw [← List.isEmpty_map (f := hasSnippet), h, List.isEmpty_map]
  unfold findingTable
  rw [hempty]
  split
  · rfl
  · simp only [frames_append, frames_flatMap_congr hasSnippet frames_findingRow h]

theorem frames_linked {address address' : Option Value} (h : holds address = holds address')
    (label label' : Option Value) :
    frames (linked address label) = frames (linked address' label') := by
  unfold linked
  rw [h]
  split <;> rfl

def hasLink (warning : Value) : Bool := holds (attr warning "link")

theorem frames_warningRow (w w' : Value) (h : hasLink w = hasLink w') :
    frames (warningRow w) = frames (warningRow w') := by
  simp only [warningRow, frames_append,
    frames_linked h (attr w "warning_type") (attr w' "warning_type")]
  rfl

/-- What holds has a member, if it has members at all. -/
theorem members?_ne_nil {v : Value} {xs : List Value} (hv : v.holds = true)
    (hxs : v.members? = some xs) : xs ≠ [] := by
  rintro rfl
  cases v with
  | marked m v =>
    -- the members are those of what bears the mark, with the whole put in for the mark
    cases v with
    | again n isMap =>
      by_cases h : n = m <;> simp [Value.members?, Value.opened, Value.filled, h] at hxs
    | _ => simp_all [Value.members?, Value.opened, Value.filled, Value.holds,
        Value.filledAll_eq_map, Value.filledEntries_eq_map]
  | _ => simp_all [Value.members?, Value.opened, Value.holds]

/-- For each warning whether it has a link. -/
def warningLinks (warnings : Value) : List Bool :=
  if warnings.holds then (warnings.members?.getD []).map hasLink else []

theorem members?_of_members {v : Value} {xs : List Value} (h : v.members = .ok xs) :
    v.members? = some xs := by
  unfold Value.members at h
  split at h
  · next ys hys => rw [hys, Except.ok.inj h]
  · cases h

/-- What a table of warnings is made of: the rows of the members of a value that holds. -/
theorem warningTable_some {ws : Value} {ps : List Part} (h : warningTable (some ws) = .ok ps) :
    (ws.holds = false ∧ warningLinks ws = []) ∨
      ∃ xs, ws.holds = true ∧ ws.members = .ok xs ∧ xs ≠ [] ∧ warningLinks ws = xs.map hasLink := by
  cases hholds : ws.holds with
  | false => exact .inl ⟨rfl, if_neg (by simp [hholds])⟩
  | true =>
    cases hxs : ws.members with
    | error e =>
      simp only [warningTable, hholds, hxs] at h
      cases h
    | ok xs =>
      have hmembers := members?_of_members hxs
      refine .inr ⟨xs, rfl, rfl, members?_ne_nil hholds hmembers, ?_⟩
      rw [warningLinks, if_pos hholds, hmembers, Option.getD_some]

theorem frames_warningTable {ws ws' : Option Value} {ps ps' : List Part}
    (hps : warningTable ws = .ok ps) (hps' : warningTable ws' = .ok ps')
    (h : ws.map warningLinks = ws'.map warningLinks) : frames ps = frames ps' := by
  cases ws with
  | none =>
    cases ws' with
    | none => rw [Except.ok.inj (hps.symm.trans hps')]
    | some ws' => cases h
  | some ws =>
    cases ws' with
    | none => cases h
    | some ws' =>
      have hlinks : warningLinks ws = warningLinks ws' := Option.some.inj h
      obtain ⟨hholds, hnil⟩ | ⟨xs, hholds, hxs, hne, hmap⟩ := warningTable_some hps <;>
        obtain ⟨hholds', hnil'⟩ | ⟨xs', hholds', hxs', hne', hmap'⟩ := warningTable_some hps'
      · simp only [warningTable, hholds, hholds'] at hps hps'
        rw [Except.ok.inj (hps.symm.trans hps')]
      · rw [hnil, hmap'] at hlinks
        exact absurd (List.map_eq_nil_iff.mp hlinks.symm) hne'
      · rw [hnil', hmap] at hlinks
        exact absurd (List.map_eq_nil_iff.mp hlinks) hne
      · rw [hmap, hmap'] at hlinks
        simp only [warningTable, hholds, hholds', hxs, hxs'] at hps hps'
        obtain rfl := Except.ok.inj hps
        obtain rfl := Except.ok.inj hps'
        simp only [frames_append, frames_flatMap_congr hasLink frames_warningRow hlinks]

/-- Whether an entry of a vulnerable gem has the address of an advisory. -/
def hasUrl (entry : Value) : Bool := holds ((attr entry "advisory").bind fun a => attr a "url")

theorem gemRow_some {entry : Value} {ps : List Part} (h : gemRow entry = .ok ps) :
    ∃ gem advisory versions, attr entry "gem" = some gem ∧ attr entry "advisory" = some advisory ∧
      versionList (attr advisory "patched_versions") = .ok versions := by
  cases hgem : attr entry "gem" with
  | none =>
    rw [gemRow, hgem] at h
    cases h
  | some gem =>
    cases hadvisory : attr entry "advisory" with
    | none =>
      rw [gemRow, hgem, hadvisory] at h
      cases h
    | some advisory =>
      cases hversions : versionList (attr advisory "patched_versions") with
      | error e =>
        simp only [gemRow, hgem, hadvisory, attrOf, bind, Except.bind, hversions] at h
        cases h
      | ok versions => exact ⟨gem, advisory, versions, rfl, rfl, hversions⟩

theorem frames_gemRow {entry entry' : Value} {ps ps' : List Part} (hps : gemRow entry = .ok ps)
    (hps' : gemRow entry' = .ok ps') (h : hasUrl entry = hasUrl entry') : frames ps = frames ps' := by
  obtain ⟨gem, advisory, versions, hgem, hadvisory, hversions⟩ := gemRow_some hps
  obtain ⟨gem', advisory', versions', hgem', hadvisory', hversions'⟩ := gemRow_some hps'
  rw [hasUrl, hasUrl, hadvisory, hadvisory', Option.bind_some, Option.bind_some] at h
  simp only [gemRow, hgem, hadvisory, attrOf, bind, Except.bind, hversions] at hps
  simp only [gemRow, hgem', hadvisory', attrOf, bind, Except.bind, hversions'] at hps'
  obtain rfl := Except.ok.inj hps
  obtain rfl := Except.ok.inj hps'
  simp only [frames_append, frames_linked h (attr advisory "id") (attr advisory' "id")]
  rfl

theorem frames_gemRows : ∀ {entries entries' : List Value} {rows rows' : List (List Part)},
    entries.mapM gemRow = .ok rows → entries'.mapM gemRow = .ok rows' →
    entries.map hasUrl = entries'.map hasUrl → frames rows.flatten = frames rows'.flatten
  | [], [], _, _, hrows, hrows', _ => by
    rw [Except.ok.inj (hrows.symm.trans hrows')]
  | entry :: entries, entry' :: entries', rows, rows', hrows, hrows', h => by
    obtain ⟨hurl, hrest⟩ := List.cons_eq_cons.mp h
    obtain ⟨ps, rest, hps, hmore, rfl⟩ := exists_of_mapM_cons hrows
    obtain ⟨ps', rest', hps', hmore', rfl⟩ := exists_of_mapM_cons hrows'
    rw [List.flatten_cons, List.flatten_cons, frames_append, frames_append,
      frames_gemRow hps hps' hurl, frames_gemRows hmore hmore' hrest]

theorem frames_gemTable {gems gems' : Option (List Value)} {ps ps' : List Part}
    (hps : gemTable gems = .ok ps) (hps' : gemTable gems' = .ok ps')
    (h : gems.map (·.map hasUrl) = gems'.map (·.map hasUrl)) : frames ps = frames ps' := by
  match gems, gems' with
  | none, none => rw [Except.ok.inj (hps.symm.trans hps')]
  | some [], some [] => rw [Except.ok.inj (hps.symm.trans hps')]
  | some (entry :: entries), some (entry' :: entries') =>
    obtain ⟨rows, hrows, hps⟩ := exists_of_bind hps
    obtain ⟨rows', hrows', hps'⟩ := exists_of_bind hps'
    obtain rfl := Except.ok.inj hps
    obtain rfl := Except.ok.inj hps'
    simp only [frames_append, frames_gemRows hrows hrows' (Option.some.inj h)]

/-! ## The page -/

/-- What the markup of a page depends on: how much there is of everything, and which rows have a
part that may be left out. -/
structure Shape where
  snippets : List Bool
  skipped : Bool
  warnings : Option (List Bool)
  gems : Option (List Bool)
deriving DecidableEq

end Page

end Html

open Html.Page in
/-- The shape of the page for a view. -/
def ReportView.shape (v : ReportView) : Shape where
  snippets := v.findings.map hasSnippet
  skipped := v.skipped
  warnings := v.warnings.map warningLinks
  gems := v.gems.map (·.map hasUrl)

namespace Html.Page

variable {v v' : ReportView} {ps ps' : List Part}

theorem frames_summary (h : v.severityCounts.length = v'.severityCounts.length) :
    frames (summary v) = frames (summary v') := by
  simp only [summary, frames_append, frames_countRows h]
  rfl

theorem frames_staticPart (hps : staticPart v = .ok ps) (hps' : staticPart v' = .ok ps')
    (h : v.shape = v'.shape) : frames ps = frames ps' := by
  have hskipped : v.skipped = v'.skipped := congrArg Shape.skipped h
  unfold staticPart at hps hps'
  rw [hskipped] at hps
  split at hps
  · next hskip =>
    rw [if_pos hskip] at hps'
    rw [Except.ok.inj (hps.symm.trans hps')]
  · next hskip =>
    rw [if_neg hskip] at hps'
    obtain ⟨warnings, hwarnings, hps⟩ := exists_of_bind hps
    obtain ⟨gems, hgems, hps⟩ := exists_of_bind hps
    obtain ⟨warnings', hwarnings', hps'⟩ := exists_of_bind hps'
    obtain ⟨gems', hgems', hps'⟩ := exists_of_bind hps'
    obtain rfl := Except.ok.inj hps
    obtain rfl := Except.ok.inj hps'
    have hwarningFrames := frames_warningTable hwarnings hwarnings' (congrArg Shape.warnings h)
    have hgemFrames := frames_gemTable hgems hgems' (congrArg Shape.gems h)
    simp only [frames_append, hwarningFrames, hgemFrames]

theorem frames_parts (hps : parts v = .ok ps) (hps' : parts v' = .ok ps')
    (hcounts : v.severityCounts.length = v'.severityCounts.length) (h : v.shape = v'.shape) :
    frames ps = frames ps' := by
  obtain ⟨static, hstatic, hps⟩ := exists_of_bind hps
  obtain ⟨static', hstatic', hps'⟩ := exists_of_bind hps'
  obtain rfl := Except.ok.inj hps
  obtain rfl := Except.ok.inj hps'
  simp only [frames_append, frames_summary hcounts,
    frames_findingTable (congrArg Shape.snippets h), frames_staticPart hstatic hstatic' h]

end Html.Page

namespace CombinedReport

/-- The shape of the page of a report: as many rows as findings, warnings and gems, and whether the
static tools were skipped or have no results. -/
def shape (r : CombinedReport) : Except Fault Html.Page.Shape := do
  let warnings ← r.warnings?
  let gems ← r.gems?
  return ⟨r.findings.map Html.Page.hasSnippet, r.tools.isEmpty,
    warnings.map Html.Page.warningLinks, gems.map (·.map Html.Page.hasUrl)⟩

theorem length_countBySeverity {findings : List Value} {counts : List (Severity × Nat)}
    (h : countBySeverity findings = .ok counts) : counts.length = Severity.all.length := by
  obtain ⟨severities, -, h⟩ := exists_of_bind h
  rw [← Except.ok.inj h, List.length_map]

theorem shape_view {r : CombinedReport} {now : String} {v : ReportView} (h : r.view now = .ok v) :
    r.shape = .ok v.shape ∧ v.severityCounts.length = Severity.all.length := by
  obtain ⟨warnings, hwarnings, h⟩ := exists_of_bind h
  obtain ⟨gems, hgems, h⟩ := exists_of_bind h
  obtain ⟨counts, hcounts, h⟩ := exists_of_bind h
  obtain ⟨static, -, h⟩ := exists_of_bind h
  obtain rfl := Except.ok.inj h
  rw [shape, hwarnings, hgems]
  exact ⟨rfl, length_countBySeverity hcounts⟩

/-- Whether a page is laid out by the built-in template: no file is named for it, or none that can be
used. -/
def BuiltIn (fs : Files.FileSystem) : Option String → Prop
  | none => True
  | some path => path = "" ∨ (templateOf fs path).run.value = .ok none

theorem builtIn_none (fs : Files.FileSystem) : BuiltIn fs none := trivial

section
variable {r : CombinedReport} {fs : Files.FileSystem} {template : Option String} {now page : String}

theorem value_html (htemplate : BuiltIn fs template) :
    (r.html fs template now).run.value = (r.view now).bind Html.Page.page := by
  have hlaid : (do
      let v ← Attempt.ofExcept (r.view now)
      Attempt.ofExcept (Html.Page.page v) : Attempt String).run.value =
      (r.view now).bind Html.Page.page := by
    rw [Attempt.value_bind]
    cases r.view now <;> rfl
  cases template with
  | none => exact hlaid
  | some path =>
    by_cases hpath : path = ""
    · rw [hpath]
      exact hlaid
    · have hown : (templateOf fs path).run.value = .ok none := htemplate.resolve_left hpath
      unfold html
      split
      · next hnone => cases hnone
      · next hsome => exact absurd (Option.some.inj hsome) hpath
      · next own _ hsome =>
        cases Option.some.inj hsome
        rw [Attempt.value_bind, hown]
        exact hlaid

theorem parts_of_html (htemplate : BuiltIn fs template)
    (h : (r.html fs template now).run.value = .ok page) :
    ∃ v ps, r.view now = .ok v ∧ Html.Page.parts v = .ok ps ∧ page = Html.render ps := by
  rw [value_html htemplate] at h
  obtain ⟨v, hv, h⟩ := exists_of_bind h
  obtain ⟨ps, hps, h⟩ := exists_of_bind h
  exact ⟨v, ps, hv, hps, (Except.ok.inj h).symm⟩

end

open Html in
/-- **A page is template text with escaped values in its gaps.** All characters of the built-in page
that may open or close a tag or an attribute come from its template text, and each value can be read
back from what stands for it. A report of the same shape has the same template text, whatever its
values are, and so the same such characters in the same order. -/
theorem html_marks_of_template {r : CombinedReport} {fs : Files.FileSystem}
    {template : Option String} {now page : String} (htemplate : BuiltIn fs template)
    (h : (r.html fs template now).run.value = .ok page) :
    ∃ v ps, r.view now = .ok v ∧ Page.parts v = .ok ps ∧ page = render ps ∧
      marks page = (frames ps).reduceOption.flatMap marks ∧
      (∀ text, Part.data text ∈ ps → marks (Part.data text).render = [] ∧
        readBack (Part.data text).render.toList = text.toList) ∧
      ∀ (r' : CombinedReport) (fs' : Files.FileSystem) (template' : Option String)
        (now' page' : String), BuiltIn fs' template' →
        (r'.html fs' template' now').run.value = .ok page' → r'.shape = r.shape →
        ∃ v' ps', r'.view now' = .ok v' ∧ Page.parts v' = .ok ps' ∧ page' = render ps' ∧
          frames ps' = frames ps ∧ marks page' = marks page := by
  obtain ⟨v, ps, hv, hps, rfl⟩ := parts_of_html htemplate h
  obtain ⟨hshape, hcounts⟩ := shape_view hv
  refine ⟨v, ps, hv, hps, rfl, marks_render ps, ?_, ?_⟩
  · intro text _
    exact ⟨marks_escape text, readBack_escape text⟩
  · intro r' fs' template' now' page' htemplate' h' hsame
    obtain ⟨v', ps', hv', hps', rfl⟩ := parts_of_html htemplate' h'
    obtain ⟨hshape', hcounts'⟩ := shape_view hv'
    have hviews : v'.shape = v.shape := by
      rw [hshape, hshape'] at hsame
      exact Except.ok.inj hsame
    have hframes : frames ps' = frames ps :=
      Page.frames_parts hps' hps (hcounts'.trans hcounts.symm) hviews
    refine ⟨v', ps', hv', hps', rfl, hframes, ?_⟩
    rw [marks_render, marks_render, hframes]

/-- A report with one finding and one warning, both with the same text. -/
def reportOfText (text : String) : CombinedReport where
  findings := [.record [("details", .str text)]]
  tools := [(.str "brakeman", .record [("warnings", .list [.record [("message", .str text)]])])]

section
variable (text : String)

theorem warnings_reportOfText :
    (reportOfText text).warnings? = .ok (some (.list [.record [("message", .str text)]])) := by
  simp [warnings?, output?, reportOfText, Value.record, Entries.field?_cons_str, Entries.field?_nil,
    Value.lookup, Value.lookupD, Value.entriesFor, Value.entries?, Value.holds, Value.opened, bind,
    Except.bind, pure, Except.pure]

theorem gems_reportOfText : (reportOfText text).gems? = .ok none := by
  simp [gems?, output?, reportOfText, Entries.field?_cons_str, Entries.field?_nil, bind,
    Except.bind, pure, Except.pure]

theorem shape_reportOfText : (reportOfText text).shape = .ok ⟨[false], false, some [false], none⟩ := by
  have hsnippet : Html.Page.hasSnippet (.record [("details", .str text)]) = false := by
    simp [Html.Page.hasSnippet, Html.Page.attr, Html.Page.holds, Value.record,
      Entries.field?_cons_str, Entries.field?_nil]
  have hlinks : Html.Page.warningLinks (.list [.record [("message", .str text)]]) = [false] := by
    simp [Html.Page.warningLinks, Html.Page.hasLink, Html.Page.attr, Html.Page.holds, Value.holds,
      Value.members?, Value.opened, Value.record, Entries.field?_cons_str, Entries.field?_nil]
  rw [shape, warnings_reportOfText, gems_reportOfText]
  show Except.ok (⟨[Html.Page.hasSnippet _], false, some (Html.Page.warningLinks _), none⟩ :
    Html.Page.Shape) = _
  rw [hsnippet, hlinks]

theorem html_reportOfText (fs : Files.FileSystem) (now : String) :
    ∃ page, ((reportOfText text).html fs none now).run.value = .ok page := by
  have hcounts : ∃ counts, countBySeverity (reportOfText text).findings = .ok counts := by
    simp [countBySeverity, severityOf, reportOfText, Value.record, Value.lookup, Value.lookupD,
      Value.entriesFor, Value.entries?, Value.opened, bind, Except.bind, pure, Except.pure]
  obtain ⟨counts, hcounts⟩ := hcounts
  have hview : ∃ v, (reportOfText text).view now = .ok v ∧
      v.warnings = some (.list [.record [("message", .str text)]]) ∧ v.gems = none := by
    rw [view, countStatic, warnings_reportOfText, gems_reportOfText, hcounts]
    exact ⟨_, rfl, rfl, rfl⟩
  obtain ⟨v, hv, hwarnings, hgems⟩ := hview
  rw [value_html (builtIn_none fs), hv]
  show ∃ page, Html.Page.page v = .ok page
  rw [Html.Page.page, Html.Page.parts, Html.Page.staticPart, hwarnings, hgems]
  cases v.skipped <;> exact ⟨_, rfl⟩

end

open Html in
theorem html_marks_of_script :
    BuiltIn ⟨[], "/"⟩ none ∧ ∃ page page',
      ((reportOfText "<script>'").html ⟨[], "/"⟩ none "").run.value = .ok page ∧
      ((reportOfText "script").html ⟨[], "/"⟩ none "").run.value = .ok page' ∧
      (reportOfText "script").shape = (reportOfText "<script>'").shape ∧ marks page' = marks page := by
  obtain ⟨page, hpage⟩ := html_reportOfText "<script>'" ⟨[], "/"⟩ ""
  obtain ⟨page', hpage'⟩ := html_reportOfText "script" ⟨[], "/"⟩ ""
  have hshape : (reportOfText "script").shape = (reportOfText "<script>'").shape := by
    rw [shape_reportOfText, shape_reportOfText]
  obtain ⟨_, _, -, -, -, -, -, hmarks⟩ := html_marks_of_template (builtIn_none ⟨[], "/"⟩) hpage
  obtain ⟨_, _, -, -, -, -, hsame⟩ :=
    hmarks _ ⟨[], "/"⟩ none "" page' (builtIn_none _) hpage' hshape
  exact ⟨builtIn_none _, page, page', hpage, hpage', hshape, hsame⟩

end CombinedReport

end SecurityScan
