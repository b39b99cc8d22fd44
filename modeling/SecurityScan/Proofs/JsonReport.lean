import SecurityScan.Proofs.Decoded
import SecurityScan.Proofs.Outcome
import SecurityScan.Report.Json

/-!
# JSON reports read back

The JSON of a report reads back as the report: the findings one by one in their order, and under the
name of every tool its output. Normalizing an output hides none of what the tool has found: an output
with the list that its tool is known by goes in whole or as that list, and only one without it is
replaced.
-/

namespace SecurityScan

/-! ## Documents -/

namespace Entries

/-- Other values under the same keys. -/
def mapValues (es : Entries) (f : Value → Value → Value) : Entries :=
  es.map fun e => (e.1, f e.1 e.2)

theorem keys_mapValues (es : Entries) (f : Value → Value → Value) :
    (es.mapValues f).map (·.1) = es.map (·.1) := List.map_map

theorem field?_mapValues (es : Entries) (f : Value → Value → Value) (name : String) :
    (es.mapValues f).field? name = (es.field? name).map (f (.str name)) := by
  induction es with
  | nil => rfl
  | cons e es ih =>
    rw [mapValues, List.map_cons, field?_cons, field?_cons, ← mapValues, ih]
    by_cases h : e.1.same (.str name) = true
    · rw [if_pos h, if_pos h, Option.map_some, Value.same_str_iff.mp h]
    · rw [if_neg h, if_neg h]

theorem Distinct.mapValues {es : Entries} (h : es.Distinct) (f : Value → Value → Value) :
    (es.mapValues f).Distinct := by
  rw [Distinct, keys_mapValues]
  exact h

end Entries

namespace Value

theorem entryDocuments_iff {es : Entries} : EntryDocuments es ↔
    ∀ e ∈ es, (∃ s, e.1 = .str s ∧ Text.hasLoneHalf s = false) ∧ e.2.IsDocument := by
  induction es with
  | nil => simp [EntryDocuments]
  | cons e es ih => rw [List.forall_mem_cons, ← ih, EntryDocuments, and_assoc]

theorem IsDocument.field {es : Entries} (h : (Value.map es).IsDocument) {name : String} {v : Value}
    (hv : es.field? name = some v) : v.IsDocument :=
  (entryDocuments_iff.mp h.2 _ (Entries.mem_of_field? hv)).2

/-- A map of documents under two keys that differ. -/
theorem isDocument_pair {k l : String} {v w : Value} (hne : k ≠ l) (hk : Text.hasLoneHalf k = false)
    (hl : Text.hasLoneHalf l = false) (hv : v.IsDocument) (hw : w.IsDocument) :
    (record [(k, v), (l, w)]).IsDocument :=
  ⟨by simp [Entries.distinct_cons, Entries.distinct_nil, hne], ⟨_, rfl, hk⟩, hv, ⟨_, rfl, hl⟩, hw,
    trivial⟩

theorem isDocument_single {k : String} {v : Value} (hk : Text.hasLoneHalf k = false)
    (hv : v.IsDocument) : (record [(k, v)]).IsDocument :=
  ⟨by simp [Entries.distinct_cons, Entries.distinct_nil], ⟨_, rfl, hk⟩, hv, trivial⟩

theorem listAt?_eq_some {es : Entries} {name : String} {xs : List Value}
    (h : es.field? name = some (.list xs)) : (Value.map es).listAt? name = some xs := by
  rw [listAt?, h]
  rfl

end Value

/-! ## Normalized outputs -/

namespace CombinedReport

theorem isDocument_unavailableOutput (tool : String) : (unavailableOutput tool).IsDocument := by
  have hresults : (Value.record [("results", .list [])]).IsDocument :=
    Value.isDocument_single (by decide) trivial
  have hmark : (Value.str unavailable).IsDocument := by
    show Text.hasLoneHalf unavailable = false
    decide
  unfold unavailableOutput
  split
  · exact Value.isDocument_pair (by decide) (by decide) (by decide) trivial hmark
  · exact Value.isDocument_pair (by decide) (by decide) (by decide) hresults hmark
  · exact Value.isDocument_pair (by decide) (by decide) (by decide) hmark trivial

/-- The output of a tool that is known by a list: what holds the list stays, or is the list in the
place where reports look for it. -/
theorem normalizeOutput_known {tool field : String} (h : resultField? tool = some field)
    (raw : Value) : (normalizeOutput (.str tool) raw).value =
      match raw.listAt? field with
      | none => unavailableOutput tool
      | some results =>
        if tool = "bundler_audit" then .record [("scan", .record [("results", .list results)])]
        else raw := by
  cases raw with
  | map es =>
    have htool : toolName (.str tool) = tool := rfl
    simp only [normalizeOutput, htool, h, Value.listAt?]
    cases (Entries.field? es field).bind Value.list? with
    | none => rfl
    | some results =>
      by_cases hb : tool = "bundler_audit"
      · simp [hb]
      · simp [hb]
  | _ => rfl

theorem normalizeOutput_brakeman (raw : Value) : (normalizeOutput (.str "brakeman") raw).value =
    match raw.listAt? "warnings" with
    | none => unavailableOutput "brakeman"
    | some _ => raw := by
  have h : resultField? "brakeman" = some "warnings" := rfl
  rw [normalizeOutput_known h]
  cases raw.listAt? "warnings" <;> rfl

theorem normalizeOutput_audit (raw : Value) : (normalizeOutput (.str "bundler_audit") raw).value =
    match raw.listAt? "results" with
    | none => unavailableOutput "bundler_audit"
    | some results => .record [("scan", .record [("results", .list results)])] := by
  have h : resultField? "bundler_audit" = some "results" := rfl
  rw [normalizeOutput_known h]
  cases raw.listAt? "results" <;> rfl

/-- What holds of an output that is replaced, of one that stays and of one that is reduced to its list
of results, holds of every output. -/
theorem normalizeOutput_cases {P : Value → Prop} (tool : Value) {raw : Value}
    (hnone : P (unavailableOutput (toolName tool))) (hraw : P raw)
    (hscan : ∀ results, raw.listAt? "results" = some results →
      P (.record [("scan", .record [("results", .list results)])])) :
    P (normalizeOutput tool raw).value := by
  cases raw with
  | map es =>
    cases hfield : resultField? (toolName tool) with
    | none => simpa [normalizeOutput, hfield] using hraw
    | some field =>
      cases hlist : (Entries.field? es field).bind Value.list? with
      | none => simpa [normalizeOutput, hfield, hlist] using hnone
      | some results =>
        by_cases htool : toolName tool = "bundler_audit"
        · have hname : field = "results" := by
            rw [htool] at hfield
            exact (Option.some.inj hfield).symm
          rw [hname] at hlist
          simpa [normalizeOutput, htool, resultField?, hlist] using hscan results hlist
        · simpa [normalizeOutput, hfield, hlist, htool] using hraw
  | _ => exact hnone

/-- The outputs of tools in the shape of reports. -/
def normalized (static : Entries) : Entries :=
  static.mapValues fun tool raw => (normalizeOutput tool raw).value

theorem tools_build (findings : List Value) (static : Entries) :
    (build (ofFindings findings) static).value.tools = normalized static :=
  Scanner.value_normalizeAll static

theorem findings_build (findings : List Value) (static : Entries) :
    (build (ofFindings findings) static).value.findings = findings := by
  show (findingsOf? (ofFindings findings)).getD [] = findings
  rw [findingsOf?_ofFindings, Option.getD_some]

theorem field?_normalized {static : Entries} {tool : String} {raw : Value}
    (h : static.field? tool = some raw) :
    (normalized static).field? tool = some (normalizeOutput (.str tool) raw).value := by
  rw [normalized, Entries.field?_mapValues, h, Option.map_some]

end CombinedReport

end SecurityScan
