import Mathlib.Algebra.GroupWithZero.Nat
import Mathlib.Data.List.Basic
import Mathlib.Data.List.Pairwise
import SecurityScan.Proofs.Attempt
import SecurityScan.Proofs.Decoded
import SecurityScan.Proofs.Dispatch
import SecurityScan.Proofs.Reply
import SecurityScan.Report.Markdown

/-!
# Findings in the Markdown report

A finding that was kept of a reply has its severity by name, so that it is counted under it and
listed under its heading. The sections hold every finding of the report once.
-/

namespace SecurityScan

/-! ## Findings of a reply -/

theorem Severity.ofText?_name (s : Severity) : ofText? s.name = some s := by
  cases s <;> decide

namespace Reply

/-- A map with the texts of a finding and a severity by name. -/
def IsKept (v : Value) : Prop :=
  ∃ es : Entries, v = .map es ∧
    (∀ k ∈ ["type", "location", "details"], ∃ s, es.field? k = some (.str s)) ∧
    ∃ severity : Severity, es.field? "severity" = some (.str severity.name)

theorem isKept_map {es : Entries} (type location details : String) (severity : Severity)
    (htype : es.field? "type" = some (.str type))
    (hlocation : es.field? "location" = some (.str location))
    (hdetails : es.field? "details" = some (.str details))
    (hseverity : es.field? "severity" = some (.str severity.name)) : IsKept (.map es) := by
  refine ⟨es, rfl, fun k hk => ?_, severity, hseverity⟩
  simp only [List.mem_cons, List.not_mem_nil, or_false] at hk
  obtain rfl | rfl | rfl := hk
  · exact ⟨type, htype⟩
  · exact ⟨location, hlocation⟩
  · exact ⟨details, hdetails⟩

theorem isKept_keptFinding {x : Value} {es : Entries} (h : findingOf x = .ok es) :
    IsKept (keptFinding es) := by
  cases x with
  | map fs =>
    rw [findingOf, Checked.map_eq_ok] at h
    obtain ⟨⟨⟨⟨type, location⟩, ⟨details, severity⟩⟩, ⟨snippet, more⟩⟩, -, rfl⟩ := h
    refine isKept_map type location details severity ?_ ?_ ?_ ?_
    all_goals simp [findingKeys, Entries.field?_cons_str]
  | _ => cases h

theorem isKept_of_findingsOf {v : Value} {findings : List Entries} (h : findingsOf v = .ok findings) :
    ∀ es ∈ findings, IsKept (keptFinding es) := by
  intro es hes
  obtain ⟨xs, hxs⟩ : ∃ xs, Checked.all findingOf xs = .ok findings := by
    cases v with
    | list xs | tuple xs | set xs => exact ⟨xs, h⟩
    | _ => cases h
  obtain ⟨x, -, hx⟩ := exists_of_mem_forall₂ (Checked.all_eq_ok.mp hxs) hes
  exact isKept_keptFinding hx

/-- The map that a reply is, or that its text holds, maybe between fences. -/
def objectOf? : Value → Option Entries
  | .map es => some es
  | .str s =>
    match Json.read (withoutFence s) with
    | .ok (.map es) => some es
    | _ => none
  | _ => none

theorem objectOf?_str (s : String) : objectOf? (.str s) =
    match Json.read (withoutFence s) with
    | .ok (.map es) => some es
    | _ => none := by
  delta objectOf?
  rfl

theorem entriesDecoded_of_objectOf {raw : Value} {es : Entries} (h : objectOf? raw = some es)
    (hraw : raw.IsDecoded) : Value.EntriesDecoded es := by
  unfold objectOf? at h
  split at h
  · obtain rfl := Option.some.inj h
    exact hraw
  · split at h
    · rename_i hread
      obtain rfl := Option.some.inj h
      exact Json.isDecoded_of_read hread
    · cases h
  · cases h

/-- What is kept is kept of a map, which is the reply or stands in its text. -/
theorem exists_map_of_read {raw v : Value} (h : (read raw).run.value = .ok (some v)) :
    ∃ es, objectOf? raw = some es ∧ (read (.map es)).run.value = .ok (some v) := by
  have hchecked : ∀ w, (checked w).run.value = .ok (some v) →
      ∃ es, w = .map es ∧ (read (.map es)).run.value = .ok (some v) := by
    intro w hw
    cases w with
    | map es => exact ⟨es, rfl, hw⟩
    | _ => cases hw
  cases raw with
  | str s =>
    change (decoded s >>= fun a => _).run.value = _ at h
    rw [Attempt.value_bind, value_decoded] at h
    cases hs : Json.read (withoutFence s) with
    | ok w =>
      rw [hs] at h
      obtain ⟨es, rfl, hread⟩ := hchecked w h
      exact ⟨es, by rw [objectOf?_str, hs], hread⟩
    | error e => rw [hs] at h; cases e <;> cases h
  | map es => exact ⟨es, rfl, h⟩
  | _ => cases h

theorem eq_of_checkedValue {findings : List Entries} {more : Entries} {v : Value}
    (h : checkedValue findings more = .ok v) :
    v = .map ((.str envelopeKey, .list (findings.map keptFinding)) :: keptExtras more) := by
  simp only [checkedValue] at h
  split at h
  · cases h
  · split at h
    · cases h
    · exact (Except.ok.inj h).symm

/-- The findings that are kept of a reply are those of the map that it is. -/
theorem exists_findings_of_read {raw v : Value} (h : (read raw).run.value = .ok (some v)) :
    ∃ (es : Entries) (findings : List Entries), (raw.IsDecoded → Value.EntriesDecoded es) ∧
      findingsOf ((es.field? envelopeKey).getD .null) = .ok findings ∧
      CombinedReport.findingsOf? v = some (findings.map keptFinding) := by
  obtain ⟨es, hobject, h⟩ := exists_map_of_read h
  rw [value_read_map] at h
  cases he : envelopeOf es with
  | error n => rw [he] at h; cases h
  | ok p =>
    obtain ⟨findings, more⟩ := p
    rw [he] at h
    change (checkedValue findings more).map some = .ok (some v) at h
    cases hc : checkedValue findings more with
    | error f => rw [hc] at h; cases h
    | ok w =>
      rw [hc] at h
      obtain rfl : w = v := Option.some.inj (Except.ok.inj h)
      refine ⟨es, findings, entriesDecoded_of_objectOf hobject, (Checked.both_eq_ok.mp he).1, ?_⟩
      rw [eq_of_checkedValue hc]
      simp [CombinedReport.findingsOf?, Value.entries?, Value.list?, Value.opened,
        Entries.field?_cons_str, envelopeKey]

/-- What is kept of a reply has a list of findings with their severities by name. -/
theorem findingsOf?_of_read {raw v : Value} (h : (read raw).run.value = .ok (some v)) :
    ∃ fs, CombinedReport.findingsOf? v = some fs ∧ ∀ f ∈ fs, IsKept f := by
  obtain ⟨es, findings, -, hfindings, hfs⟩ := exists_findings_of_read h
  refine ⟨_, hfs, ?_⟩
  intro f hf
  obtain ⟨fs, hmem, rfl⟩ := List.mem_map.mp hf
  exact isKept_of_findingsOf hfindings fs hmem

end Reply

/-! ## What the report says -/

/-- The text that a map has under a name. -/
def Value.textAt? (v : Value) (name : String) : Option String :=
  (v.entries?.bind (·.field? name)).bind Value.str?

namespace CombinedReport

/-- The findings that have a severity by name, in their order. -/
def listed (s : Severity) (findings : List Value) : List Value :=
  findings.filter fun f => f.textAt? "severity" == some s.name

/-- The code of a finding between fences; none when it has no snippet or an empty one. -/
def codeText (finding : Value) : String :=
  let snippet := (finding.entries?.bind (·.field? "code_snippet")).getD .null
  if snippet.holds then "```ruby\n" ++ snippet.display ++ "\n```\n\n" else ""

/-- What stands for a finding under its number. -/
def entryText (index : Nat) (finding : Value) : String :=
  let type := (finding.textAt? "type").getD ""
  "### " ++ toString index ++ ". " ++ (if type = "" then "Unknown Type" else type) ++ "\n\n" ++
    "**Location**: `" ++ (finding.textAt? "location").getD "" ++ "`\n\n" ++
    "**Details**: " ++ (finding.textAt? "details").getD "" ++ "\n\n" ++
    codeText finding ++ "---\n\n"

/-- The heading of a severity with the number of its findings, and the findings numbered from one;
nothing when there are none. -/
def sectionText (findings : List Value) (s : Severity) : String :=
  if listed s findings = [] then ""
  else "## " ++ s.name ++ " Issues (" ++ toString (listed s findings).length ++ ")\n\n" ++
    String.join ((listed s findings).mapIdx fun i f => entryText (i + 1) f)

/-- The number of all findings, of those of every severity, of the warnings and of the gems. -/
def summaryText (findings : List Value) (warnings gems : Nat) : String :=
  "# 🔒 Codeward Security Report\n\n" ++ "## 📊 Summary\n\n" ++
    "**AI Findings**: " ++ toString findings.length ++ "\n\n" ++
    String.join (Severity.all.map fun s =>
      "- " ++ s.icon ++ " **" ++ s.name ++ "**: " ++ toString (listed s findings).length ++ "\n") ++
    "\n**Brakeman warnings**: " ++ toString warnings ++ "\n\n" ++
    "**Vulnerable gems**: " ++ toString gems ++ "\n\n" ++ "---\n\n"

/-- The warnings under a heading; nothing when there are none. -/
def warningText (warnings : Value) : Except Fault String :=
  if warnings.holds then do
    let lines ← (← warnings.members).mapM markdownWarning
    return "## Brakeman Warnings\n\n" ++ String.join lines ++ "\n"
  else return ""

/-- The gems under a heading; nothing when there are none. -/
def gemText : List Value → Except Fault String
  | [] => return ""
  | gems => do
    let lines ← gems.mapM markdownGem
    return "## Vulnerable Gems\n\n" ++ String.join lines ++ "\n"

/-- What follows the findings, whichever they are. -/
def staticText (tools : Entries) : Except Fault String := do
  let warningPart ← warningText ((← warnings? ⟨[], tools⟩).getD .null)
  let gemPart ← gemText ((← gems? ⟨[], tools⟩).getD [])
  return warningPart ++ gemPart

/-! ## Lists by severity -/

section
variable {α κ : Type} [BEq κ] [LawfulBEq κ]

/-- The members taken by key, one key after the other, are all members. -/
theorem perm_flatMap_filter (key : α → κ) {keys : List κ} (hkeys : keys.Nodup) {xs : List α}
    (h : ∀ x ∈ xs, key x ∈ keys) : (keys.flatMap fun k => xs.filter (key · == k)).Perm xs := by
  induction keys generalizing xs with
  | nil =>
    cases xs with
    | nil => rfl
    | cons x xs => exact absurd (h x (List.mem_cons_self ..)) (by simp)
  | cons k ks ih =>
    obtain ⟨hk, hks⟩ := List.nodup_cons.mp hkeys
    -- the other keys take nothing from the members under the first
    have hrest : (ks.flatMap fun j => xs.filter (key · == j)) =
        ks.flatMap fun j => (xs.filter (!key · == k)).filter (key · == j) := by
      refine List.flatMap_congr fun j hj => ?_
      rw [List.filter_filter]
      refine List.filter_congr fun x _ => ?_
      by_cases hx : key x = j
      · have hne : j ≠ k := fun e => hk (e ▸ hj)
        simp [hx, hne]
      · simp [hx]
    rw [List.flatMap_cons, hrest]
    refine ((ih hks ?_).append_left _).trans (List.filter_append_perm ..)
    intro x hx
    obtain ⟨hmem, hne⟩ := List.mem_filter.mp hx
    exact (List.mem_cons.mp (h x hmem)).resolve_left (by simpa using hne)

end

/-! ## Findings that were kept -/

theorem lookupD_map (es : Entries) (name : String) (default : Value) :
    (Value.map es).lookupD name default = .ok ((es.field? name).getD default) := rfl

theorem textAt?_map (es : Entries) (name : String) :
    (Value.map es).textAt? name = (es.field? name).bind Value.str? := rfl

theorem display_orElse (s t : String) :
    ((Value.str s).orElse (.str t)).display = if s = "" then t else s := by
  by_cases h : s = ""
  · simp [Value.orElse, Value.holds, Value.display, h]
  · simp [Value.orElse, Value.holds, Value.display, h]

/-- The severity with the name that a finding has for it. -/
def namedSeverity? (f : Value) : Option Severity := (f.textAt? "severity").bind Severity.ofName?

theorem namedSeverity?_eq_some {f : Value} {s : Severity} :
    namedSeverity? f = some s ↔ f.textAt? "severity" = some s.name := by
  simp [namedSeverity?, Option.bind_eq_some_iff, Severity.ofName?_eq_some]

theorem count_namedSeverity? (s : Severity) (fs : List Value) :
    (fs.map namedSeverity?).count (some s) = (listed s fs).length := by
  rw [listed, ← List.countP_eq_length_filter, List.count_eq_countP, List.countP_map]
  congr 1
  funext f
  rw [Function.comp_apply, Bool.eq_iff_iff, beq_iff_eq, beq_iff_eq, namedSeverity?_eq_some]

theorem gemText_bind (gems : List Value) (k : String → Except Fault String) :
    (match gems with
      | [] => k ""
      | gems => gems.mapM markdownGem >>= fun lines =>
        k ("## Vulnerable Gems\n\n" ++ String.join lines ++ "\n")) = gemText gems >>= k := by
  cases gems with
  | nil => rfl
  | cons g gs =>
    rw [gemText, bind_assoc]
    · rfl
    · simp

theorem warningText_bind (warnings : Value) (k : String → Except Fault String) :
    (if warnings.holds then warnings.members >>= fun ws => ws.mapM markdownWarning >>= fun lines =>
        k ("## Brakeman Warnings\n\n" ++ String.join lines ++ "\n")
      else k "") = warningText warnings >>= k := by
  rw [warningText]
  split
  · rw [bind_assoc]
    refine bind_congr fun ws => ?_
    rw [bind_assoc]
    rfl
  · rfl

section
variable {f : Value} (h : Reply.IsKept f)
include h

/-- A finding that was kept has the severity that its name says. -/
theorem severityOf_eq : ∃ s : Severity, f.textAt? "severity" = some s.name ∧
    severityOf f = .ok (some s) := by
  obtain ⟨es, rfl, -, s, hs⟩ := h
  refine ⟨s, by rw [textAt?_map, hs]; rfl, ?_⟩
  rw [severityOf, lookupD_map, hs]
  exact congrArg Except.ok (Severity.ofText?_name s)

theorem markdownFinding_eq (i : Nat) : markdownFinding i f = .ok (entryText i f) := by
  obtain ⟨es, rfl, htexts, -⟩ := h
  obtain ⟨type, htype⟩ := htexts "type" (by simp)
  obtain ⟨location, hlocation⟩ := htexts "location" (by simp)
  obtain ⟨details, hdetails⟩ := htexts "details" (by simp)
  have htitle : typeText (.map es) = .ok (if type = "" then "Unknown Type" else type) := by
    rw [typeText, lookupD_map, htype]
    exact congrArg Except.ok (display_orElse type "Unknown Type")
  have hfield : ∀ {name s}, es.field? name = some (.str s) → fieldText (.map es) name = .ok s := by
    intro name s hs
    rw [fieldText, lookupD_map, hs]
    rfl
  have htext : ∀ {name s}, es.field? name = some (.str s) →
      (Value.map es).textAt? name = some s := by
    intro name s hs
    rw [textAt?_map, hs]
    rfl
  rw [markdownFinding, htitle, hfield hlocation, hfield hdetails, lookupD_map]
  unfold entryText
  rw [htext htype, htext hlocation, htext hdetails]
  rfl

end

section
variable {fs : List Value} (h : ∀ f ∈ fs, Reply.IsKept f)
include h

theorem markdownFindings_eq (i : Nat) : markdownFindings i fs =
    .ok (String.join (fs.mapIdx fun j f => entryText (i + j) f)) := by
  induction fs generalizing i with
  | nil => rfl
  | cons f fs ih =>
    obtain ⟨hf, hfs⟩ := List.forall_mem_cons.mp h
    rw [markdownFindings, markdownFinding_eq hf, ih hfs]
    simp [List.mapIdx_cons, Nat.add_assoc, Nat.add_comm 1]
    rfl

theorem findingsAt_eq (s : Severity) : findingsAt s fs = .ok (listed s fs) := by
  refine filterM_eq_ok fun f hf => ?_
  obtain ⟨t, ht, hseverity⟩ := severityOf_eq (h f hf)
  rw [hseverity, ht]
  show Except.ok (some t == some s) = .ok (some t.name == some s.name)
  cases t <;> cases s <;> decide

theorem markdownSection_eq (s : Severity) : markdownSection fs s = .ok (sectionText fs s) := by
  have hlisted : ∀ f ∈ listed s fs, Reply.IsKept f := fun f hf => h f (List.mem_filter.mp hf).1
  rw [markdownSection, findingsAt_eq h, sectionText]
  cases hl : listed s fs with
  | nil => rfl
  | cons g gs =>
    rw [hl] at hlisted
    rw [if_neg (List.cons_ne_nil g gs)]
    show (markdownFindings 1 (g :: gs) >>= fun entries => _) = _
    rw [markdownFindings_eq hlisted]
    simp only [Nat.add_comm 1]
    rfl

/-- Every finding that was kept is listed once, under its own severity. -/
theorem perm_listed : (Severity.all.flatMap fun s => listed s fs).Perm fs := by
  have hkeys : (Severity.all.map fun s => some s.name).Nodup := by decide
  have hin : ∀ f ∈ fs, f.textAt? "severity" ∈ Severity.all.map fun s => some s.name := by
    intro f hf
    obtain ⟨s, hs, -⟩ := severityOf_eq (h f hf)
    rw [hs]
    cases s <;> decide
  have hperm := perm_flatMap_filter (fun f : Value => f.textAt? "severity") hkeys hin
  rwa [List.flatMap_map] at hperm

theorem countBySeverity_eq :
    countBySeverity fs = .ok (Severity.all.map fun s => (s, (listed s fs).length)) := by
  have hseverity : ∀ f ∈ fs, severityOf f = .ok (namedSeverity? f) := by
    intro f hf
    obtain ⟨s, hs, hseverity⟩ := severityOf_eq (h f hf)
    rw [hseverity, namedSeverity?, hs, Option.bind_some, Severity.ofName?_eq_some.mpr rfl]
  rw [countBySeverity, mapM_eq_ok hseverity]
  exact congrArg Except.ok (List.map_congr_left fun s _ => by rw [count_namedSeverity?])

/-- The report on findings that were kept: only what follows them can stop it. -/
theorem markdown_eq (tools : Entries) : markdown ⟨fs, tools⟩ = do
    let counts ← countStatic ⟨fs, tools⟩
    let rest ← staticText tools
    return summaryText fs counts.1 counts.2 ++ String.join (Severity.all.map (sectionText fs)) ++
      rest := by
  have hsections : Severity.all.mapM (markdownSection fs) =
      .ok (Severity.all.map (sectionText fs)) := mapM_eq_ok fun s _ => markdownSection_eq h s
  have hparts : markdown ⟨fs, tools⟩ = do
      let counts ← countStatic ⟨fs, tools⟩
      let warnings ← warnings? ⟨[], tools⟩
      let warningPart ← warningText (warnings.getD .null)
      let gems ← gems? ⟨[], tools⟩
      let gemPart ← gemText (gems.getD [])
      return summaryText fs counts.1 counts.2 ++ String.join (Severity.all.map (sectionText fs)) ++
        warningPart ++ gemPart := by
    rw [markdown, countBySeverity_eq h]
    show (countStatic ⟨fs, tools⟩ >>= fun _ => _) = _
    refine bind_congr fun counts => ?_
    rw [hsections]
    show (warnings? ⟨fs, tools⟩ >>= fun _ => _) = _
    refine bind_congr fun warnings => ?_
    rw [← warningText_bind]
    simp only [← gemText_bind]
    rfl
  rw [hparts]
  simp only [staticText, bind_assoc, pure_bind, String.append_assoc]

theorem markdown_eq_ok (tools : Entries) {text : String} :
    markdown ⟨fs, tools⟩ = .ok text ↔ ∃ warnings gems rest,
      countStatic ⟨fs, tools⟩ = .ok (warnings, gems) ∧ staticText tools = .ok rest ∧
      text = summaryText fs warnings gems ++ String.join (Severity.all.map (sectionText fs)) ++
        rest := by
  rw [markdown_eq h]
  cases countStatic ⟨fs, tools⟩ with
  | error e => exact iff_of_false (by rintro ⟨⟩) (by rintro ⟨_, _, _, ⟨⟩, _⟩)
  | ok counts =>
    cases staticText tools with
    | error e => exact iff_of_false (by rintro ⟨⟩) (by rintro ⟨_, _, _, _, ⟨⟩, _⟩)
    | ok rest =>
      constructor
      · intro ht
        exact ⟨counts.1, counts.2, rest, rfl, rfl, (Except.ok.inj ht).symm⟩
      · rintro ⟨warnings, gems, rest, ⟨⟩, ⟨⟩, rfl⟩
        rfl

theorem sum_listed : (Severity.all.map fun s => (listed s fs).length).sum = fs.length := by
  rw [← (perm_listed h).length_eq, List.length_flatMap]

end

/-- Every finding among the results of replies was kept. -/
theorem isKept_of_mem_combine {results : List Value}
    (h : ∀ r ∈ results, r = .null ∨ ∃ raw, (Reply.read raw).run.value = .ok (some r)) :
    ∀ f ∈ combine results, Reply.IsKept f := by
  intro f hf
  obtain ⟨r, hr, hfr⟩ := List.mem_flatMap.mp hf
  obtain rfl | ⟨raw, hraw⟩ := h r hr
  · cases hfr
  · obtain ⟨fs, hfs, hkept⟩ := Reply.findingsOf?_of_read hraw
    rw [hfs] at hfr
    exact hkept f hfr

/-- **No finding is missing in the report.** Of results that are null or what was kept of a reply,
the findings of every severity are as many as are counted for it, and together they are all findings.
The report is a summary with these numbers, then the severities in order, each with its number and
its own findings in the order of the report, then what the tools have found. -/
theorem markdown_lists_findings (results : List Value) (outputs : Entries)
    (h : ∀ r ∈ results, r = .null ∨ ∃ raw, (Reply.read raw).run.value = .ok (some r)) :
    let report := (build (ofFindings (combine results)) outputs).value
    let fs := report.findings
    fs = combine results ∧
    countBySeverity fs = .ok (Severity.all.map fun s => (s, (listed s fs).length)) ∧
    (Severity.all.map fun s => (listed s fs).length).sum = fs.length ∧
    (Severity.all.flatMap fun s => listed s fs).Perm fs ∧
    ∀ text, report.markdown = .ok text ↔ ∃ warnings gems rest,
      report.countStatic = .ok (warnings, gems) ∧ staticText report.tools = .ok rest ∧
      text = summaryText fs warnings gems ++ String.join (Severity.all.map (sectionText fs)) ++
        rest := by
  intro report fs
  have hfs : fs = combine results := by
    show (findingsOf? (ofFindings (combine results))).getD [] = combine results
    rw [findingsOf?_ofFindings, Option.getD_some]
  have hkept : ∀ f ∈ fs, Reply.IsKept f := by
    rw [hfs]
    exact isKept_of_mem_combine h
  exact ⟨hfs, countBySeverity_eq hkept, sum_listed hkept, perm_listed hkept,
    fun text => markdown_eq_ok hkept report.tools⟩

/-- A reply with two findings, the milder first. -/
def twoFindings : Reply.Envelope :=
  ⟨[⟨"XSS", "a.rb:1", "d", .high, none, []⟩, ⟨"CSRF", "b.rb:2", "e", .critical, some "x", []⟩], []⟩

theorem read_twoFindings : (Reply.read (.map twoFindings.toEntries)).run.value =
    .ok (some (.map twoFindings.toEntries)) := by
  have hin : twoFindings.In twoFindings.toEntries := {
    findings := by
      refine ⟨_, by rw [Reply.Envelope.toEntries, Entries.field?_cons_str, if_pos rfl], ?_⟩
      rw [List.forall₂_map_left_iff]
      refine List.forall₂_same.mpr fun f hf => ⟨_, rfl, Reply.Finding.in_toEntries ?_⟩
      simp only [twoFindings, List.mem_cons, List.not_mem_nil, or_false] at hf
      obtain rfl | rfl := hf <;> simp [Reply.Finding.IsApart]
    more := by
      rw [Reply.Envelope.toEntries, Reply.beside_cons_of_mem (by simp)]
      rfl }
  have hdeep : ¬twoFindings.TooDeep := by
    simp [Reply.Envelope.TooDeep, Reply.Envelope.others, twoFindings]
  have hj : Value.entriesJson twoFindings.toEntries = true := by decide
  exact Reply.read_kept hj hin hdeep

theorem markdown_lists_two_findings :
    let results := [.null, .map twoFindings.toEntries]
    (∀ r ∈ results, r = .null ∨ ∃ raw, (Reply.read raw).run.value = .ok (some r)) ∧
    (build (ofFindings (combine results)) []).value.markdown =
      .ok (summaryText (combine results) 0 0 ++
        String.join (Severity.all.map (sectionText (combine results)))) := by
  intro results
  have h : ∀ r ∈ results, r = .null ∨ ∃ raw, (Reply.read raw).run.value = .ok (some r) := by
    intro r hr
    simp only [results, List.mem_cons, List.not_mem_nil, or_false] at hr
    obtain rfl | rfl := hr
    · exact Or.inl rfl
    · exact Or.inr ⟨_, read_twoFindings⟩
  obtain ⟨hfs, -, -, -, htext⟩ := markdown_lists_findings results [] h
  exact ⟨h, (htext _).mpr ⟨0, 0, "", rfl, rfl, by rw [hfs, String.append_empty]⟩⟩

end CombinedReport

end SecurityScan
