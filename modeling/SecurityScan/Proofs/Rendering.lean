import SecurityScan.Proofs.JsonReport
import SecurityScan.Proofs.Markdown
import SecurityScan.Proofs.Page

/-!
# Reports that can be rendered

An output that is replaced when it is malformed is only looked at from outside: it has to have its
list, and what is in the list is for the formats to cope with. The JSON form copes with anything.
Each of the other three needs something of the members, and returns a text exactly when it gets it.
-/

namespace SecurityScan

/-! ## Findings -/

mutual

theorem Value.IsDecoded.isJsonTree : ∀ {v : Value}, v.IsDecoded → v.IsJsonTree
  | .null, _ => .null
  | .bool b, _ => .bool b
  | .int i, _ => .int i
  | .float x, _ => .float x
  | .str s, _ => .str s
  | .list _, h => .list (Value.AllDecoded.isJsonTree h)
  | .map _, h =>
    .map (fun e he => (Value.entriesDecoded_iff.mp h e he).1) (Value.EntriesDecoded.isJsonTree h)

theorem Value.AllDecoded.isJsonTree : ∀ {xs : List Value}, AllDecoded xs → ∀ x ∈ xs, x.IsJsonTree
  | [], _ => List.forall_mem_nil _
  | _ :: _, ⟨hx, hxs⟩ =>
    List.forall_mem_cons.mpr ⟨Value.IsDecoded.isJsonTree hx, Value.AllDecoded.isJsonTree hxs⟩

theorem Value.EntriesDecoded.isJsonTree : ∀ {es : Entries}, EntriesDecoded es →
    ∀ e ∈ es, e.2.IsJsonTree
  | [], _ => List.forall_mem_nil _
  | (_, _) :: _, ⟨_, hv, hes⟩ =>
    List.forall_mem_cons.mpr ⟨Value.IsDecoded.isJsonTree hv, Value.EntriesDecoded.isJsonTree hes⟩

end

mutual

theorem Value.isDecoded_plain : ∀ {v : Value}, v.IsDecoded → v.plain.IsDecoded
  | .null, _ | .bool _, _ | .str _, _ | .float .nan, _ | .float (.infinite _), _
  | .float (.finite ..), _ => by simp [Value.plain, Value.IsDecoded]
  | .int i, h => by
    rw [Value.plain]
    · exact h
    all_goals simp
  | .list xs, h => by
    rw [Value.plain]
    exact allDecoded_plain h
  | .map es, h => by
    rw [Value.plain]
    exact entriesDecoded_plain h

theorem Value.allDecoded_plain : ∀ {xs : List Value}, AllDecoded xs → AllDecoded (plainAll xs)
  | [], _ => trivial
  | _ :: _, ⟨hx, hxs⟩ => ⟨isDecoded_plain hx, allDecoded_plain hxs⟩

theorem Value.entriesDecoded_plain : ∀ {es : Entries}, EntriesDecoded es →
    EntriesDecoded (plainEntries es)
  | [], _ => trivial
  | (_, _) :: _, ⟨⟨s, hs⟩, hv, hes⟩ =>
    ⟨⟨s, by rw [hs]; rfl⟩, isDecoded_plain hv, entriesDecoded_plain hes⟩

end

namespace Reply

/-- A finding in its kept form, whose other entries come from JSON. -/
def IsKeptFinding (v : Value) : Prop :=
  ∃ f : Finding, v = .map f.toEntries ∧ f.IsApart ∧ Value.EntriesDecoded f.more

theorem IsKeptFinding.isKept {v : Value} (h : IsKeptFinding v) : IsKept v := by
  obtain ⟨f, rfl, -, -⟩ := h
  refine isKept_map f.type f.location f.details f.severity ?_ ?_ ?_ ?_
  all_goals simp [Finding.toEntries, Finding.known, Entries.field?_cons_str]

theorem IsKeptFinding.isDecoded {v : Value} (h : IsKeptFinding v) : v.IsDecoded := by
  obtain ⟨f, rfl, -, hmore⟩ := h
  show Value.EntriesDecoded f.toEntries
  rw [Value.entriesDecoded_iff] at hmore ⊢
  intro e he
  obtain he | he := List.mem_append.mp he
  · rw [Finding.known] at he
    cases hs : f.snippet <;>
      simp only [hs, List.append_nil, List.cons_append, List.nil_append, List.mem_cons,
        List.not_mem_nil, or_false] at he
    · obtain rfl | rfl | rfl | rfl := he <;> exact ⟨⟨_, rfl⟩, trivial⟩
    · obtain rfl | rfl | rfl | rfl | rfl := he <;> exact ⟨⟨_, rfl⟩, trivial⟩
  · exact hmore e he

theorem entriesDecoded_keptExtras {es : Entries} (h : Value.EntriesDecoded es) :
    Value.EntriesDecoded (keptExtras es) := by
  rw [Value.entriesDecoded_iff] at h ⊢
  intro e he
  obtain ⟨f, hf, rfl⟩ := List.mem_map.mp he
  obtain ⟨hkey, hvalue⟩ := h f (List.mem_filter.mp hf).1
  exact ⟨hkey, Value.isDecoded_plain hvalue⟩

theorem isKeptFinding_keptFinding {f : Finding} (hapart : f.IsApart)
    (hmore : Value.EntriesDecoded f.more) : IsKeptFinding (keptFinding f.toEntries) := by
  refine ⟨{ f with more := keptExtras f.more }, ?_, ?_, entriesDecoded_keptExtras hmore⟩
  · rw [Finding.keptFinding_eq hapart]
    rfl
  · intro e he
    obtain ⟨g, hg, rfl⟩ := List.mem_map.mp he
    exact hapart g (List.mem_filter.mp hg).1

theorem isKeptFinding_of_read {raw v : Value} (hraw : raw.IsDecoded)
    (h : (read raw).run.value = .ok (some v)) :
    ∃ fs, CombinedReport.findingsOf? v = some fs ∧ ∀ f ∈ fs, IsKeptFinding f := by
  obtain ⟨es, findings, hdecoded, hfindings, hfs⟩ := exists_findings_of_read h
  refine ⟨_, hfs, ?_⟩
  have hes : (Value.map es).IsDecoded := hdecoded hraw
  intro f hf
  obtain ⟨out, hout, rfl⟩ := List.mem_map.mp hf
  obtain ⟨xs, hxs, hall⟩ : ∃ xs, Value.AllDecoded xs ∧ Checked.all findingOf xs = .ok findings := by
    cases hv : Entries.field? es envelopeKey with
    | none => rw [hv] at hfindings; cases hfindings
    | some v =>
      rw [hv] at hfindings
      have hv := hes.field hv
      cases v with
      | list xs => exact ⟨xs, hv, hfindings⟩
      | tuple | set => exact hv.elim
      | _ => cases hfindings
  obtain ⟨x, hx, hfinding⟩ := exists_of_mem_forall₂ (Checked.all_eq_ok.mp hall) hout
  have hx := Value.allDecoded_iff.mp hxs x hx
  cases x with
  | map gs =>
    obtain ⟨g, hg, -, rfl⟩ := (findingOf_eq_ok hx.isJsonTree).mp hfinding
    refine isKeptFinding_keptFinding hg.isApart (Value.entriesDecoded_iff.mpr fun e he => ?_)
    rw [hg.more] at he
    exact Value.entriesDecoded_iff.mp hx e (mem_beside.mp he).1
  | _ => cases hfinding

end Reply

/-! ## Fields -/

namespace Value

/-- What a map has under a name, or `default`. -/
def fieldOr (v : Value) (name : String) (default : Value) : Value :=
  (v.entries?.bind (·.field? name)).getD default

theorem lookup_of_isMap {v : Value} (h : v.isMap = true) (name : String) :
    v.lookup name = .ok (v.entries?.bind (·.field? name)) := by
  obtain ⟨es, hes⟩ := Option.isSome_iff_exists.mp h
  simp [lookup, entriesFor, hes, bind, Except.bind, pure, Except.pure]

theorem returns_lookup {v : Value} {name : String} :
    Returns (v.lookup name) ↔ v.isMap = true := by
  constructor
  · intro h
    cases hes : v.entries? with
    | none => simp [lookup, entriesFor, hes, bind, Except.bind] at h
    | some es => simp [isMap, hes]
  · intro h
    exact ⟨_, lookup_of_isMap h name⟩

theorem lookupD_of_isMap {v : Value} (h : v.isMap = true) (name : String) (default : Value) :
    v.lookupD name default = .ok (v.fieldOr name default) := by
  rw [lookupD, lookup_of_isMap h]
  rfl

theorem fieldOr_single (key : String) (v : Value) (name : String) (default : Value) :
    (record [(key, v)]).fieldOr name default = if key = name then v else default := by
  simp only [fieldOr, record, entries?, opened, List.map_cons, List.map_nil, Option.bind_some,
    Entries.field?_cons_str, Entries.field?_nil]
  split <;> rfl

theorem returns_lookupD {v : Value} {name : String} {default : Value} :
    Returns (v.lookupD name default) ↔ v.isMap = true := by
  rw [lookupD, returns_bind_iff fun _ => returns_pure]
  exact returns_lookup

/-- A value whose members are texts and nothing else. -/
def HoldsTexts (v : Value) : Prop := ∃ xs, v.members? = some xs ∧ ∀ x ∈ xs, x.isStr = true

theorem returns_joinTexts {between : String} {v : Value} :
    Returns (v.joinTexts between) ↔ v.HoldsTexts := by
  unfold joinTexts HoldsTexts
  cases v.members? with
  | none => simp
  | some xs =>
    simp only [Option.some.injEq, exists_eq_left']
    rw [returns_bind_iff fun _ => returns_pure, returns_mapM]
    refine forall₂_congr fun x _ => ?_
    cases x <;> simp [isStr, str?]

end Value

namespace CombinedReport

section
variable {v : Value} (h : v.isMap = true)
include h

theorem fieldText_of_isMap (name : String) :
    fieldText v name = .ok (v.fieldOr name (.str "")).display := by
  rw [fieldText, Value.lookupD_of_isMap h]
  rfl

theorem fieldOrNone_of_isMap (name : String) :
    fieldOrNone v name = .ok (v.fieldOr name .null).display := by
  rw [fieldOrNone, Value.lookupD_of_isMap h]
  rfl

end

theorem isMap_of_fieldOrNone {v : Value} {name : String} (h : Returns (fieldOrNone v name)) :
    v.isMap = true :=
  Value.returns_lookupD.mp (returns_of_bind h)

/-! ## Members -/

theorem returns_consoleWarning {w : Value} : Returns (consoleWarning w) ↔ w.isMap = true := by
  constructor
  · intro h
    exact isMap_of_fieldOrNone (returns_of_bind h)
  · intro h
    simp only [consoleWarning, fieldOrNone_of_isMap h]
    exact ⟨_, rfl⟩

theorem returns_markdownWarning {w : Value} : Returns (markdownWarning w) ↔ w.isMap = true := by
  constructor
  · intro h
    exact isMap_of_fieldOrNone (returns_of_bind h)
  · intro h
    simp only [markdownWarning, fieldOrNone_of_isMap h]
    exact ⟨_, rfl⟩

/-- The advisory of an entry and its gem are maps, if it has them. -/
def PartsAreMaps (entry : Value) : Prop :=
  (entry.fieldOr "advisory" (.map [])).isMap = true ∧ (entry.fieldOr "gem" (.map [])).isMap = true

/-- The versions in which the advisory of an entry says that it is mended. -/
def versionsOf (entry : Value) : Value :=
  ((entry.fieldOr "advisory" (.map [])).fieldOr "patched_versions" .null).orElse (.list [])

section
variable {entry : Value} (h : entry.isMap = true)
include h

theorem returns_markdownGem : Returns (markdownGem entry) ↔ PartsAreMaps entry := by
  rw [markdownGem, returns_bind_ok (Value.lookupD_of_isMap h ..),
    returns_bind_ok (Value.lookupD_of_isMap h ..)]
  constructor
  · intro hr
    have hgem := isMap_of_fieldOrNone (returns_of_bind hr)
    rw [returns_bind_ok (fieldOrNone_of_isMap hgem _),
      returns_bind_ok (fieldOrNone_of_isMap hgem _)] at hr
    exact ⟨isMap_of_fieldOrNone (returns_of_bind hr), hgem⟩
  · rintro ⟨hadvisory, hgem⟩
    simp only [fieldOrNone_of_isMap hadvisory, fieldOrNone_of_isMap hgem]
    exact ⟨_, rfl⟩

theorem returns_consoleGem :
    Returns (consoleGem entry) ↔ PartsAreMaps entry ∧ (versionsOf entry).HoldsTexts := by
  rw [consoleGem, returns_bind_ok (Value.lookupD_of_isMap h ..),
    returns_bind_ok (Value.lookupD_of_isMap h ..)]
  by_cases hparts : PartsAreMaps entry
  · obtain ⟨hadvisory, hgem⟩ := hparts
    simp only [returns_bind_ok (fieldOrNone_of_isMap hadvisory _),
      returns_bind_ok (fieldOrNone_of_isMap hgem _),
      returns_bind_ok (Value.lookupD_of_isMap hadvisory ..)]
    rw [returns_bind_iff fun _ => returns_pure, Value.returns_joinTexts, versionsOf]
    exact ⟨fun hv => ⟨⟨hadvisory, hgem⟩, hv⟩, And.right⟩
  · refine iff_of_false (fun hr => hparts ?_) fun hall => hparts hall.1
    have hadvisory := isMap_of_fieldOrNone (returns_of_bind hr)
    rw [returns_bind_ok (fieldOrNone_of_isMap hadvisory _)] at hr
    exact ⟨hadvisory, isMap_of_fieldOrNone (returns_of_bind hr)⟩

end

theorem returns_consoleFinding {v : Value} (h : Reply.IsKeptFinding v) :
    Returns (consoleFinding v) := by
  obtain ⟨f, rfl, hapart, -⟩ := h
  have hmap : (Value.map f.toEntries).isMap = true := rfl
  have hsnippet : Returns (numberedSnippet snippetIndent
      ((Value.map f.toEntries).fieldOr "code_snippet" .null)) := by
    have hfield : (Value.map f.toEntries).fieldOr "code_snippet" .null =
        (f.snippet.map Value.str).getD .null := by
      rw [← Reply.Finding.snippet_toEntries hapart]
      rfl
    rw [hfield]
    unfold numberedSnippet
    cases f.snippet with
    | none => exact returns_ok
    | some s => split <;> exact returns_ok
  obtain ⟨lines, hlines⟩ := hsnippet
  rw [consoleFinding, returns_bind_ok (Value.lookupD_of_isMap hmap ..),
    returns_bind_ok (Value.lookupD_of_isMap hmap ..), returns_bind_ok hlines]
  simp only [typeText, Value.lookupD_of_isMap hmap, fieldText_of_isMap hmap]
  exact ⟨_, rfl⟩

/-- What the page needs of the entry of a gem: that it has both parts, whatever they are, and that
the versions can be gone through, if there are any. -/
def FitsPage (entry : Value) : Prop :=
  (Html.Page.attr entry "gem").isSome = true ∧ ∃ advisory,
    Html.Page.attr entry "advisory" = some advisory ∧ ∀ versions,
      Html.Page.attr advisory "patched_versions" = some versions → versions.holds = true →
        versions.members?.isSome = true

open Html.Page in
theorem returns_versionList {versions : Option Value} : Returns (versionList versions) ↔
    ∀ vs, versions = some vs → vs.holds = true → vs.members?.isSome = true := by
  cases versions with
  | none => simp [versionList]
  | some vs =>
    cases hholds : vs.holds with
    | false => simp [versionList, hholds]
    | true =>
      simp only [versionList, hholds, Option.some.injEq, forall_eq', forall_const]
      rw [if_neg (by simp), returns_bind_iff fun _ => returns_pure, Value.members]
      cases vs.members? <;> simp

open Html.Page in
theorem returns_gemRow {entry : Value} : Returns (gemRow entry) ↔ FitsPage entry := by
  unfold FitsPage
  constructor
  · rintro ⟨parts, h⟩
    obtain ⟨gem, advisory, versions, hgem, hadvisory, hversions⟩ := gemRow_some h
    exact ⟨by simp [hgem], advisory, hadvisory, returns_versionList.mp ⟨_, hversions⟩⟩
  · rintro ⟨hgem, advisory, hadvisory, hversions⟩
    obtain ⟨gem, hgem⟩ := Option.isSome_iff_exists.mp hgem
    obtain ⟨versions, hversions⟩ := returns_versionList.mpr hversions
    simp only [gemRow, hgem, hadvisory, attrOf, bind, Except.bind, hversions]
    exact ⟨_, rfl⟩

/-! ## Outputs -/

/-- The warnings that reports show of what Brakeman has put out: none when it says itself that it is
unavailable. -/
def shownWarnings (raw : Value) : List Value :=
  if (raw.fieldOr "status" .null).str? = some unavailable then []
  else (raw.listAt? "warnings").getD []

/-- The warnings that Brakeman has put out, if it has a list of them and does not say itself that it is
unavailable. -/
def warningsOf? (raw : Value) : Option (List Value) :=
  if (raw.fieldOr "status" .null).str? = some unavailable then none else raw.listAt? "warnings"

theorem shownWarnings_eq (raw : Value) : shownWarnings raw = (warningsOf? raw).getD [] := by
  unfold shownWarnings warningsOf?
  split <;> rfl

/-- All entries that bundler-audit has put out. -/
def auditEntries (raw : Value) : List Value := (raw.listAt? "results").getD []

def isUnpatchedEntry (entry : Value) : Bool :=
  (entry.fieldOr "type" .null).same (.str "unpatched_gem")

/-- The entries that reports show. -/
def shownGems (raw : Value) : List Value := (auditEntries raw).filter isUnpatchedEntry

/-- The entries of gems that bundler-audit has put out, if it has a list of entries. -/
def gemsOf? (raw : Value) : Option (List Value) :=
  (raw.listAt? "results").map fun entries => entries.filter isUnpatchedEntry

theorem shownGems_eq (raw : Value) : shownGems raw = (gemsOf? raw).getD [] := by
  unfold shownGems auditEntries gemsOf?
  cases raw.listAt? "results" <;> rfl

theorem isUnpatched_of_isMap {entry : Value} (h : entry.isMap = true) :
    isUnpatched entry = .ok (isUnpatchedEntry entry) := by
  rw [isUnpatched, Value.lookup_of_isMap h]
  rfl

theorem isMap_of_isUnpatched {entry : Value} (h : Returns (isUnpatched entry)) :
    entry.isMap = true :=
  Value.returns_lookup.mp (returns_of_bind h)

section
variable {r : CombinedReport} {raw : Value}

theorem output?_unavailable {tool : String} (hknown : (resultField? tool).isSome = true)
    (h : r.tools.field? tool = some (unavailableOutput tool)) : r.output? tool = .ok none := by
  obtain ⟨field, hfield⟩ := Option.isSome_iff_exists.mp hknown
  have htool : tool = "brakeman" ∨ tool = "bundler_audit" := by
    unfold resultField? at hfield
    split at hfield <;> simp_all
  obtain rfl | rfl := htool <;>
    simp [output?, h, unavailableOutput, Value.record, Value.holds, Value.lookup, Value.entriesFor,
      Value.entries?, Value.opened, Entries.field?_cons_str, bind, Except.bind, pure, Except.pure]

/-- The output of a tool, unless it says itself that there is none. -/
theorem output?_of_isMap {tool : String} {v : Value} (hmap : v.isMap = true)
    (hholds : v.holds = true) (h : r.tools.field? tool = some v) : r.output? tool =
      .ok (if (v.fieldOr "status" .null).str? = some unavailable then none else some v) := by
  rw [output?, h]
  simp only [hholds, Bool.not_true, Bool.false_eq_true, if_false]
  rw [Value.lookup_of_isMap hmap, Value.fieldOr]
  cases v.entries?.bind (·.field? "status") with
  | none => rfl
  | some status =>
    cases status with
    | str s =>
      by_cases hs : s = unavailable <;> simp [hs, Value.str?, bind, Except.bind, pure, Except.pure]
    | _ => rfl

theorem warnings?_eq (hraw : raw.IsDecoded)
    (h : r.tools.field? "brakeman" = some (normalizeOutput (.str "brakeman") raw).value) :
    r.warnings? = .ok ((warningsOf? raw).map .list) := by
  rw [normalizeOutput_brakeman] at h
  unfold warningsOf?
  cases hlist : raw.listAt? "warnings" with
  | none =>
    rw [hlist] at h
    rw [warnings?, output?_unavailable rfl h, ite_self]
    rfl
  | some ws =>
    rw [hlist] at h
    obtain ⟨es, rfl, hfield⟩ := hraw.exists_of_listAt hlist
    have hholds : (Value.map es).holds = true := by
      cases es with
      | nil => cases hfield
      | cons => rfl
    rw [warnings?, output?_of_isMap rfl hholds h]
    by_cases hstatus : ((Value.map es).fieldOr "status" .null).str? = some unavailable
    · rw [if_pos hstatus, if_pos hstatus]
      rfl
    · rw [if_neg hstatus, if_neg hstatus]
      show ((Value.map es).lookupD "warnings" (.list []) >>= fun _ => _) = _
      rw [lookupD_map, hfield]
      rfl

theorem warnings?_normalized (hraw : raw.IsDecoded)
    (h : r.tools.field? "brakeman" = some (normalizeOutput (.str "brakeman") raw).value) :
    r.warnings? = .ok none ∧ shownWarnings raw = [] ∨
      r.warnings? = .ok (some (.list (shownWarnings raw))) := by
  rw [shownWarnings_eq, warnings?_eq hraw h]
  cases warningsOf? raw with
  | none => exact .inl ⟨rfl, rfl⟩
  | some ws => exact .inr rfl

theorem gems?_eq_filter
    (h : r.tools.field? "bundler_audit" = some (normalizeOutput (.str "bundler_audit") raw).value) :
    r.gems? = match raw.listAt? "results" with
      | none => .ok none
      | some results => some <$> results.filterM isUnpatched := by
  rw [normalizeOutput_audit] at h
  cases hlist : raw.listAt? "results" with
  | none =>
    rw [hlist] at h
    rw [gems?, output?_unavailable rfl h]
    rfl
  | some results =>
    rw [hlist] at h
    have hscan : (Value.record [("scan", .record [("results", .list results)])]).lookupD "scan"
        (.map []) = .ok (.record [("results", .list results)]) := by
      rw [Value.lookupD_of_isMap rfl, Value.fieldOr_single, if_pos rfl]
    have hresults : (Value.record [("results", .list results)]).lookupD "results" (.list []) =
        .ok (.list results) := by
      rw [Value.lookupD_of_isMap rfl, Value.fieldOr_single, if_pos rfl]
    rw [gems?, output?_of_isMap rfl rfl h, Value.fieldOr_single, if_neg (by simp [Value.str?])]
    simp only [bind, Except.bind, hscan, hresults]
    rfl

theorem gems?_eq
    (h : r.tools.field? "bundler_audit" = some (normalizeOutput (.str "bundler_audit") raw).value)
    (hentries : ∀ e ∈ auditEntries raw, e.isMap = true) : r.gems? = .ok (gemsOf? raw) := by
  rw [gems?_eq_filter h]
  unfold auditEntries at hentries
  unfold gemsOf?
  cases hlist : raw.listAt? "results" with
  | none => rfl
  | some results =>
    rw [hlist, Option.getD_some] at hentries
    show some <$> results.filterM isUnpatched = _
    rw [filterM_eq_ok fun e he => isUnpatched_of_isMap (hentries e he)]
    rfl

theorem gems?_normalized
    (h : r.tools.field? "bundler_audit" = some (normalizeOutput (.str "bundler_audit") raw).value) :
    (Returns r.gems? ↔ ∀ e ∈ auditEntries raw, e.isMap = true) ∧
      ∀ gems, r.gems? = .ok gems → gems.getD [] = shownGems raw := by
  have hmaps : Returns r.gems? ↔ ∀ e ∈ auditEntries raw, e.isMap = true := by
    constructor
    · intro hr e he
      rw [gems?_eq_filter h] at hr
      unfold auditEntries at he
      cases hlist : raw.listAt? "results" with
      | none => rw [hlist] at he; cases he
      | some results =>
        rw [hlist] at hr he
        exact isMap_of_isUnpatched (returns_of_filterM (returns_of_bind hr) e he)
    · intro hall
      exact ⟨_, gems?_eq h hall⟩
  refine ⟨hmaps, fun gems hgems => ?_⟩
  rw [gems?_eq h (hmaps.mp ⟨gems, hgems⟩)] at hgems
  rw [shownGems_eq, Except.ok.inj hgems]

end

/-! ## Sections for tools -/

/-- How the console goes on once the gems are known, `rest` being what follows their lines. -/
def afterGems (rest : List String → Except Fault (List String)) :
    Option (List Value) → Except Fault (List String)
  | none => rest ["  ⚠️  Bundler-Audit results not available."]
  | some [] => rest ["  ✅ No vulnerable gems found."]
  | some entries => do rest (← entries.mapM consoleGem).flatten

theorem returns_afterGems {rest : List String → Except Fault (List String)}
    (hrest : ∀ lines, Returns (rest lines)) {gems : Option (List Value)} :
    Returns (afterGems rest gems) ↔ ∀ g ∈ gems.getD [], Returns (consoleGem g) := by
  cases gems with
  | none => exact iff_of_true (hrest _) (by simp)
  | some gs =>
    cases gs with
    | nil => exact iff_of_true (hrest _) (by simp)
    | cons g gs => exact (returns_bind_iff fun _ => hrest _).trans returns_mapM

section
variable {r : CombinedReport} {warnings : List Value} {gems : Option (List Value)}
variable (hw : r.warnings? = .ok none ∧ warnings = [] ∨ r.warnings? = .ok (some (.list warnings)))
variable (hg : r.gems? = .ok gems)
include hw hg

theorem returns_countStatic : Returns r.countStatic := by
  obtain ⟨hw, rfl⟩ | hw := hw
  · rw [countStatic, hw, hg]
    exact ⟨_, rfl⟩
  · rw [countStatic, hw, hg]
    have hlist : ∃ xs, (Value.list warnings).orElse (.list []) = .list xs := by
      unfold Value.orElse
      split <;> exact ⟨_, rfl⟩
    obtain ⟨xs, hxs⟩ := hlist
    show Returns (((Value.list warnings).orElse (.list [])).count >>= fun _ => _)
    rw [hxs]
    exact ⟨_, rfl⟩

theorem returns_consoleStatic (htools : r.tools.isEmpty = false) : Returns (consoleStatic r) ↔
    (∀ w ∈ warnings, Returns (consoleWarning w)) ∧ ∀ g ∈ gems.getD [], Returns (consoleGem g) := by
  rw [consoleStatic, htools, if_neg Bool.false_ne_true]
  let tail (warningLines gemLines : List String) : Except Fault (List String) :=
    pure (["Brakeman:"] ++ warningLines ++ ["", "Bundler-Audit:"] ++ gemLines ++ [""])
  have hgems : ∀ warningLines, Returns (r.gems? >>= afterGems (tail warningLines)) ↔
      ∀ g ∈ gems.getD [], Returns (consoleGem g) := by
    intro warningLines
    rw [returns_bind_ok hg]
    exact returns_afterGems fun _ => returns_pure
  obtain ⟨hw, rfl⟩ | hw := hw
  · rw [returns_bind_ok hw]
    exact (hgems _).trans (and_iff_right (by simp)).symm
  · rw [returns_bind_ok hw]
    cases warnings with
    | nil => exact (hgems _).trans (and_iff_right (by simp)).symm
    | cons w ws =>
      rw [← returns_mapM]
      exact returns_bind_and fun lines : List (List String) => hgems lines.flatten

theorem returns_staticText : Returns (staticText r.tools) ↔
    (∀ w ∈ warnings, Returns (markdownWarning w)) ∧ ∀ g ∈ gems.getD [], Returns (markdownGem g) := by
  have hgems : Returns (gemText (gems.getD [])) ↔ ∀ g ∈ gems.getD [], Returns (markdownGem g) := by
    cases gems.getD [] with
    | nil => exact iff_of_true returns_pure (by simp)
    | cons g gs => exact (returns_bind_iff fun _ => returns_pure).trans returns_mapM
  have hrest : ∀ part : String, Returns (do
      let gemPart ← gemText ((← r.gems?).getD [])
      return part ++ gemPart) ↔ ∀ g ∈ gems.getD [], Returns (markdownGem g) := by
    intro part
    rw [returns_bind_ok hg, returns_bind_iff fun _ => returns_pure]
    exact hgems
  have hsame : warnings? ⟨[], r.tools⟩ = r.warnings? := rfl
  rw [staticText, hsame]
  obtain ⟨hw, rfl⟩ | hw := hw
  · rw [returns_bind_ok hw]
    exact (hrest _).trans (and_iff_right (by simp)).symm
  · rw [returns_bind_ok hw]
    cases warnings with
    | nil => exact (hrest _).trans (and_iff_right (by simp)).symm
    | cons w ws =>
      rw [← returns_mapM]
      refine (returns_bind_and hrest).trans (and_congr_left' ?_)
      exact returns_bind_iff fun _ => returns_pure

theorem exists_view (hcounts : Returns (countBySeverity r.findings)) (now : String) :
    ∃ v, r.view now = .ok v ∧ v.skipped = r.tools.isEmpty ∧ v.gems = gems ∧
      Returns (Html.Page.warningTable v.warnings) := by
  obtain ⟨counts, hcounts⟩ := hcounts
  obtain ⟨static, hstatic⟩ := returns_countStatic hw hg
  have hview : ∀ warnings, r.warnings? = .ok warnings → r.view now = .ok ⟨r.findings, r.tools,
      warnings, gems, counts, static.1, static.2, r.tools.isEmpty, now⟩ := by
    intro warnings hwarnings
    rw [view, hwarnings, hg, hcounts, hstatic]
    rfl
  obtain ⟨hw, -⟩ | hw := hw
  · exact ⟨_, hview _ hw, rfl, rfl, returns_ok⟩
  · refine ⟨_, hview _ hw, rfl, rfl, ?_⟩
    cases warnings with
    | nil => exact returns_ok
    | cons w ws => exact ⟨_, rfl⟩

theorem returns_html (htools : r.tools.isEmpty = false)
    (hcounts : Returns (countBySeverity r.findings)) (fs : Files.FileSystem) (now : String) :
    Returns (r.html fs none now).run.value ↔ ∀ g ∈ gems.getD [], FitsPage g := by
  obtain ⟨v, hv, hskipped, hgems, warningRows, hrows⟩ := exists_view hw hg hcounts now
  have htable : Returns (Html.Page.gemTable v.gems) ↔ ∀ g ∈ gems.getD [], FitsPage g := by
    simp only [← returns_gemRow, ← returns_mapM]
    rw [hgems]
    match gems with
    | none => exact iff_of_true returns_ok returns_pure
    | some [] => exact iff_of_true returns_ok returns_pure
    | some (g :: gs) => exact returns_bind_iff fun _ => returns_pure
  have hpart : Returns (Html.Page.staticPart v) ↔ Returns (Html.Page.gemTable v.gems) := by
    rw [Html.Page.staticPart, hskipped, htools, if_neg Bool.false_ne_true, returns_bind_ok hrows]
    exact returns_bind_iff fun _ => returns_pure
  rw [value_html (builtIn_none fs), hv, ← htable, ← hpart]
  show Returns (Html.Page.page v) ↔ _
  rw [Html.Page.page, returns_bind_iff fun _ => returns_pure, Html.Page.parts,
    returns_bind_iff fun _ => returns_pure]

end

/-! ## Whole reports -/

section
variable {r : CombinedReport} (hfindings : ∀ f ∈ r.findings, Reply.IsKeptFinding f)
include hfindings

theorem returns_json (htools : Value.EntriesDecoded r.tools) : Returns r.json := by
  have hwhole : r.toValue.IsDecoded := by
    refine ⟨⟨_, rfl⟩, Value.allDecoded_iff.mpr fun f hf => ?_, ⟨_, rfl⟩, htools, trivial⟩
    exact (hfindings f hf).isDecoded
  rw [json, Json.write?, if_pos (Json.writable_of_isDecoded hwhole)]
  exact returns_ok

theorem returns_countBySeverity : Returns (countBySeverity r.findings) :=
  ⟨_, countBySeverity_eq fun f hf => (hfindings f hf).isKept⟩

theorem returns_console : Returns r.console ↔ Returns (consoleStatic r) ∧ Returns r.countStatic := by
  obtain ⟨lines, hlines⟩ := returns_mapM.mpr fun f hf => returns_consoleFinding (hfindings f hf)
  obtain ⟨counts, hcounts⟩ := returns_countBySeverity hfindings
  rw [console, returns_bind_ok hlines]
  refine returns_bind_and fun static => ?_
  rw [returns_bind_ok hcounts]
  exact returns_bind_iff fun _ => returns_pure

theorem returns_markdown :
    Returns r.markdown ↔ Returns r.countStatic ∧ Returns (staticText r.tools) := by
  rw [markdown_eq (fun f hf => (hfindings f hf).isKept) r.tools]
  exact returns_bind_and fun _ => returns_bind_iff fun _ => returns_pure

end

theorem returns_gems?_of_countStatic {r : CombinedReport} (h : Returns r.countStatic) :
    Returns r.gems? := by
  obtain ⟨counts, h⟩ := h
  obtain ⟨_, -, h⟩ := exists_of_bind h
  obtain ⟨gems, hgems, -⟩ := exists_of_bind h
  exact ⟨gems, hgems⟩

theorem returns_gems?_of_html {r : CombinedReport} {fs : Files.FileSystem} {now : String}
    (h : Returns (r.html fs none now).run.value) : Returns r.gems? := by
  rw [value_html (builtIn_none fs)] at h
  obtain ⟨v, h⟩ := returns_of_bind h
  obtain ⟨_, -, h⟩ := exists_of_bind h
  obtain ⟨gems, hgems, -⟩ := exists_of_bind h
  exact ⟨gems, hgems⟩

theorem isKeptFinding_of_mem_combine {results : List Value} (h : ∀ r ∈ results, r = .null ∨
    ∃ raw, raw.IsDecoded ∧ (Reply.read raw).run.value = .ok (some r)) :
    ∀ f ∈ combine results, Reply.IsKeptFinding f := by
  intro f hf
  obtain ⟨r, hr, hfr⟩ := List.mem_flatMap.mp hf
  obtain rfl | ⟨raw, hraw, hread⟩ := h r hr
  · cases hfr
  · obtain ⟨fs, hfs, hkept⟩ := Reply.isKeptFinding_of_read hraw hread
    rw [hfs] at hfr
    exact hkept f hfr

theorem isDecoded_normalizeOutput (tool : Value) {raw : Value} (h : raw.IsDecoded) :
    (normalizeOutput tool raw).value.IsDecoded := by
  refine normalizeOutput_cases tool (isDocument_unavailableOutput _).isDecoded h ?_
  intro results hresults
  obtain ⟨es, rfl, hfield⟩ := h.exists_of_listAt hresults
  exact ⟨⟨_, rfl⟩, ⟨⟨_, rfl⟩, h.field hfield, trivial⟩, trivial⟩

/-! ## Formats -/

section
variable {r : CombinedReport} {brakeman audit : Value}
variable (hfindings : ∀ f ∈ r.findings, Reply.IsKeptFinding f)
variable (hw : r.warnings? = .ok none ∧ shownWarnings brakeman = [] ∨
  r.warnings? = .ok (some (.list (shownWarnings brakeman))))
variable (hg : (Returns r.gems? ↔ ∀ e ∈ auditEntries audit, e.isMap = true) ∧
  ∀ gems, r.gems? = .ok gems → gems.getD [] = shownGems audit)

theorem isMap_of_mem_shownGems (hentries : ∀ e ∈ auditEntries audit, e.isMap = true) :
    ∀ g ∈ shownGems audit, g.isMap = true :=
  fun g hg => hentries g (List.mem_filter.mp hg).1

include hg in
/-- Where the entries are no maps there is no report that shows gems; where they are, it is told by
the gems that are shown. -/
theorem iff_of_gems {P Q : Prop} (hP : P → Returns r.gems?)
    (h : ∀ gems, r.gems? = .ok gems → gems.getD [] = shownGems audit →
      (∀ e ∈ auditEntries audit, e.isMap = true) → (P ↔ Q)) :
    P ↔ (∀ e ∈ auditEntries audit, e.isMap = true) ∧ Q := by
  constructor
  · intro hp
    obtain ⟨gems, hgems⟩ := hP hp
    have hentries := hg.1.mp ⟨gems, hgems⟩
    exact ⟨hentries, (h gems hgems (hg.2 gems hgems) hentries).mp hp⟩
  · rintro ⟨hentries, hq⟩
    obtain ⟨gems, hgems⟩ := hg.1.mpr hentries
    exact (h gems hgems (hg.2 gems hgems) hentries).mpr hq

include hfindings hw hg

theorem returns_console_iff (hfull : r.tools.isEmpty = false) : Returns r.console ↔
    (∀ w ∈ shownWarnings brakeman, w.isMap = true) ∧ (∀ e ∈ auditEntries audit, e.isMap = true) ∧
      ∀ g ∈ shownGems audit, PartsAreMaps g ∧ (versionsOf g).HoldsTexts := by
  rw [and_left_comm, returns_console hfindings]
  refine iff_of_gems hg (fun h => returns_gems?_of_countStatic h.2) fun gems hgems hshown hentries => ?_
  rw [and_iff_left (returns_countStatic hw hgems), returns_consoleStatic hw hgems hfull, hshown]
  simp only [returns_consoleWarning]
  exact and_congr_right fun _ => forall₂_congr fun g hg =>
    returns_consoleGem (isMap_of_mem_shownGems hentries g hg)

theorem returns_markdown_iff : Returns r.markdown ↔ (∀ w ∈ shownWarnings brakeman, w.isMap = true) ∧
    (∀ e ∈ auditEntries audit, e.isMap = true) ∧ ∀ g ∈ shownGems audit, PartsAreMaps g := by
  rw [and_left_comm, returns_markdown hfindings]
  refine iff_of_gems hg (fun h => returns_gems?_of_countStatic h.1) fun gems hgems hshown hentries => ?_
  rw [and_iff_right (returns_countStatic hw hgems), returns_staticText hw hgems, hshown]
  simp only [returns_markdownWarning]
  exact and_congr_right fun _ => forall₂_congr fun g hg =>
    returns_markdownGem (isMap_of_mem_shownGems hentries g hg)

theorem returns_html_iff (hfull : r.tools.isEmpty = false) (fs : Files.FileSystem) (now : String) :
    Returns (r.html fs none now).run.value ↔
      (∀ e ∈ auditEntries audit, e.isMap = true) ∧ ∀ g ∈ shownGems audit, FitsPage g := by
  refine iff_of_gems hg returns_gems?_of_html fun gems hgems hshown _ => ?_
  rw [returns_html hw hgems hfull (returns_countBySeverity hfindings), hshown]

end

/-- **What the formats need of tool outputs.** Of findings that were kept of replies and of any JSON
that the two tools may put out there is always a JSON report. A console report and a Markdown report
need every warning and every entry to be a map, and the parts of the gems' entries too, and the
console report needs the versions to be texts. The built-in page takes any warning; it needs the
entries to be maps, and of the gems' entries both parts and versions that can be gone through. -/
theorem renders_iff (results : List Value) (brakeman audit : Value) (fs : Files.FileSystem)
    (now : String) (hresults : ∀ r ∈ results, r = .null ∨
      ∃ raw, raw.IsDecoded ∧ (Reply.read raw).run.value = .ok (some r))
    (hbrakeman : brakeman.IsDecoded) (haudit : audit.IsDecoded) :
    let report := (build (ofFindings (combine results))
      [(.str "brakeman", brakeman), (.str "bundler_audit", audit)]).value
    let warningsAreMaps := ∀ w ∈ shownWarnings brakeman, w.isMap = true
    let entriesAreMaps := ∀ e ∈ auditEntries audit, e.isMap = true
    Returns report.json ∧
      (Returns report.console ↔ warningsAreMaps ∧ entriesAreMaps ∧
        ∀ g ∈ shownGems audit, PartsAreMaps g ∧ (versionsOf g).HoldsTexts) ∧
      (Returns report.markdown ↔ warningsAreMaps ∧ entriesAreMaps ∧
        ∀ g ∈ shownGems audit, PartsAreMaps g) ∧
      (Returns (report.html fs none now).run.value ↔ entriesAreMaps ∧
        ∀ g ∈ shownGems audit, FitsPage g) := by
  intro report warningsAreMaps entriesAreMaps
  have htools : report.tools = [(.str "brakeman", (normalizeOutput (.str "brakeman") brakeman).value),
    (.str "bundler_audit", (normalizeOutput (.str "bundler_audit") audit).value)] := tools_build ..
  have hfindings : ∀ f ∈ report.findings, Reply.IsKeptFinding f := by
    rw [findings_build]
    exact isKeptFinding_of_mem_combine hresults
  have hfull : report.tools.isEmpty = false := by rw [htools]; rfl
  have hw := @warnings?_normalized report brakeman hbrakeman (by
    rw [htools]
    simp [Entries.field?_cons_str])
  have hg := @gems?_normalized report audit (by
    rw [htools]
    simp [Entries.field?_cons_str])
  have hjson : Returns report.json := returns_json hfindings (by
    rw [htools]
    exact ⟨⟨_, rfl⟩, isDecoded_normalizeOutput _ hbrakeman, ⟨_, rfl⟩,
      isDecoded_normalizeOutput _ haudit, trivial⟩)
  exact ⟨hjson, returns_console_iff hfindings hw hg hfull, returns_markdown_iff hfindings hw hg,
    returns_html_iff hfindings hw hg hfull fs now⟩

/-- What bundler-audit puts out about one gem. -/
def oneGem : Value := .record [("type", .str "unpatched_gem"), ("gem", .map []), ("advisory", .map [])]

def outputWith (field : String) (member : Value) : Value := .record [(field, .list [member])]

theorem listAt?_outputWith (field : String) (member : Value) :
    (outputWith field member).listAt? field = some [member] :=
  Value.listAt?_eq_some (by simp [Entries.field?_cons_str])

theorem shownWarnings_outputWith (member : Value) :
    shownWarnings (outputWith "warnings" member) = [member] := by
  have hstatus : (outputWith "warnings" member).fieldOr "status" .null = .null := by
    rw [outputWith, Value.fieldOr_single, if_neg (by decide)]
  rw [shownWarnings, hstatus, listAt?_outputWith]
  rfl

theorem isDecoded_outputWith {field : String} {member : Value} (h : member.IsDecoded) :
    (outputWith field member).IsDecoded :=
  ⟨⟨_, rfl⟩, ⟨h, trivial⟩, trivial⟩

theorem auditEntries_outputWith (member : Value) :
    auditEntries (outputWith "results" member) = [member] := by
  rw [auditEntries, listAt?_outputWith]
  rfl

theorem eq_of_mem_shownGems {member g : Value} (h : g ∈ shownGems (outputWith "results" member)) :
    g = member := by
  rw [shownGems, auditEntries_outputWith] at h
  exact List.mem_singleton.mp (List.mem_filter.mp h).1

/-- What is put out about one gem is all that the formats need. -/
theorem fits_oneGem : PartsAreMaps oneGem ∧ (versionsOf oneGem).HoldsTexts ∧ FitsPage oneGem := by
  have hadvisory : oneGem.fieldOr "advisory" (.map []) = .map [] := by
    simp [oneGem, Value.fieldOr, Value.record, Value.entries?, Value.opened, Entries.field?_cons_str]
  refine ⟨⟨by rw [hadvisory]; rfl, ?_⟩, ?_, ?_⟩
  · simp [oneGem, Value.fieldOr, Value.record, Value.entries?, Value.opened, Entries.field?_cons_str,
      Value.isMap]
  · rw [versionsOf, hadvisory]
    exact ⟨[], rfl, by simp⟩
  · simp [FitsPage, oneGem, Value.record, Html.Page.attr, Entries.field?_cons_str]

theorem isDecoded_oneGem : oneGem.IsDecoded :=
  ⟨⟨_, rfl⟩, trivial, ⟨_, rfl⟩, trivial, ⟨_, rfl⟩, trivial, trivial⟩

theorem isDecoded_twoFindings : (Value.map twoFindings.toEntries).IsDecoded := by
  refine ⟨⟨_, rfl⟩, Value.allDecoded_iff.mpr fun v hv => ?_, trivial⟩
  obtain ⟨f, hf, rfl⟩ := List.mem_map.mp hv
  refine Reply.IsKeptFinding.isDecoded ⟨f, rfl, ?_⟩
  simp only [twoFindings, List.mem_cons, List.not_mem_nil, or_false] at hf
  obtain rfl | rfl := hf <;> simp [Reply.Finding.IsApart, Value.EntriesDecoded]

theorem renders_two_findings :
    let results := [.null, .map twoFindings.toEntries]
    (∀ r ∈ results, r = .null ∨ ∃ raw, raw.IsDecoded ∧ (Reply.read raw).run.value = .ok (some r)) ∧
      (outputWith "warnings" (.map [])).IsDecoded ∧ (outputWith "results" oneGem).IsDecoded ∧
      let report := (build (ofFindings (combine results))
        [(.str "brakeman", outputWith "warnings" (.map [])),
          (.str "bundler_audit", outputWith "results" oneGem)]).value
      Returns report.json ∧ Returns report.console ∧ Returns report.markdown ∧
        Returns (report.html ⟨[], "/"⟩ none "").run.value := by
  intro results
  have hresults : ∀ r ∈ results, r = .null ∨
      ∃ raw, raw.IsDecoded ∧ (Reply.read raw).run.value = .ok (some r) := by
    intro r hr
    simp only [results, List.mem_cons, List.not_mem_nil, or_false] at hr
    obtain rfl | rfl := hr
    · exact .inl rfl
    · exact .inr ⟨_, isDecoded_twoFindings, read_twoFindings⟩
  have hbrakeman : (outputWith "warnings" (.map [])).IsDecoded := isDecoded_outputWith trivial
  have haudit : (outputWith "results" oneGem).IsDecoded := isDecoded_outputWith isDecoded_oneGem
  obtain ⟨hjson, hconsole, hmarkdown, hhtml⟩ :=
    renders_iff results _ _ ⟨[], "/"⟩ "" hresults hbrakeman haudit
  have hwarnings : ∀ w ∈ shownWarnings (outputWith "warnings" (.map [])), w.isMap = true := by
    rw [shownWarnings_outputWith]
    intro w hw
    rw [List.mem_singleton.mp hw]
    rfl
  have hmaps : ∀ e ∈ auditEntries (outputWith "results" oneGem), e.isMap = true := by
    rw [auditEntries_outputWith]
    intro e he
    rw [List.mem_singleton.mp he]
    rfl
  obtain ⟨hparts, hversions, hpage⟩ := fits_oneGem
  refine ⟨hresults, hbrakeman, haudit, hjson, hconsole.mpr ⟨hwarnings, hmaps, ?_⟩,
    hmarkdown.mpr ⟨hwarnings, hmaps, ?_⟩, hhtml.mpr ⟨hmaps, ?_⟩⟩
  · intro g hg
    rw [eq_of_mem_shownGems hg]
    exact ⟨hparts, hversions⟩
  · intro g hg
    rw [eq_of_mem_shownGems hg]
    exact hparts
  · intro g hg
    rw [eq_of_mem_shownGems hg]
    exact hpage

/-- A number among the warnings, where a map is looked for, stops the report. -/
theorem console_stopped_by_number :
    (outputWith "warnings" (.int 1)).IsDecoded ∧ Value.null.IsDecoded ∧
      (build (ofFindings (combine [])) [(.str "brakeman", outputWith "warnings" (.int 1)),
        (.str "bundler_audit", .null)]).value.console =
          .error (.noField "'int' object has no attribute 'get'") := by
  have hdecoded : (outputWith "warnings" (.int 1)).IsDecoded :=
    isDecoded_outputWith (Nat.one_lt_pow (by decide) (by decide))
  have htools := tools_build (combine []) [(.str "brakeman", outputWith "warnings" (.int 1)),
    (.str "bundler_audit", .null)]
  have hw := @warnings?_normalized (build (ofFindings (combine [])) [(.str "brakeman",
    outputWith "warnings" (.int 1)), (.str "bundler_audit", .null)]).value _ hdecoded (by
      rw [htools]
      exact field?_normalized (by simp [Entries.field?_cons_str]))
  rw [shownWarnings_outputWith] at hw
  have hwarnings := hw.resolve_left fun h => List.cons_ne_nil _ _ h.2
  refine ⟨hdecoded, trivial, ?_⟩
  have hstatic : consoleStatic (build (ofFindings (combine [])) [(.str "brakeman",
      outputWith "warnings" (.int 1)), (.str "bundler_audit", .null)]).value =
        .error (.noField "'int' object has no attribute 'get'") := by
    rw [consoleStatic, hwarnings]
    rfl
  rw [console, findings_build, hstatic]
  rfl

end CombinedReport

end SecurityScan
