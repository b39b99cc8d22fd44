import SecurityScan.Proofs.Attempt
import SecurityScan.Scan.Run

/-!
# When there is a prompt

A question whose risks are names and whose schema has a written form is filled into every template
but one that asks for a text beyond all memory. A template that is malformed in any other way gives
way to the usual one.
-/

namespace SecurityScan

namespace Prompts

/-- The template for a question lays a placeholder out wider than any text can be. -/
def TooWide (p : Prompts) (q : Question) (key : String) : Prop :=
  ∃ values, p.values q = .ok values ∧ fillTemplate values (p.template key) = .error .tooWide

theorem mapM_description : ∀ names : List String,
    (names.map Value.str).mapM description? = .ok (names.map Risk.descriptionOf?)
  | [] => rfl
  | n :: ns => by
    rw [List.map_cons, List.mapM_cons, mapM_description ns]
    rfl

theorem descriptions_names (names : List String) :
    descriptions (.list (names.map .str)) = .ok ((names.map Risk.descriptionOf?).filterMap id) := by
  show ((names.map Value.str).mapM description? >>= fun found => .ok (found.filterMap id)) = _
  rw [mapM_description]
  rfl

/-- The five names that have values, and their values. -/
def known (p : Prompts) (q : Question) (risks : List String) (schema : String) :
    List (String × String) :=
  [("risk_list", ", ".intercalate risks), ("json_schema", schema), ("language", p.language),
    ("code_content", q.code), ("file_label", (q.label.filter (· ≠ "")).getD "unnamed content")]

section
variable {p : Prompts} {q : Question}

theorem values_eq_known {risks : List String} {schema : String} (hr : descriptions q.risks = .ok risks)
    (hs : Json.write? .compact q.schema = some schema) :
    p.values q = .ok (p.known q risks schema) := by
  unfold values
  simp only [hr, hs, bind, Except.bind, known]
  cases q.label with
  | none => rfl
  | some label =>
    by_cases hl : label = ""
    · subst hl
      rfl
    · simp [Option.filter, hl]
      rfl

theorem values_eq_ok_iff {values : List (String × String)} : p.values q = .ok values ↔
    ∃ risks schema, descriptions q.risks = .ok risks ∧ Json.write? .compact q.schema = some schema ∧
      values = p.known q risks schema := by
  constructor
  · intro h
    obtain ⟨risks, hr, hvalues⟩ := exists_of_bind h
    cases hs : Json.write? .compact q.schema with
    | none =>
      rw [hs] at hvalues
      cases hvalues
    | some schema =>
      rw [values_eq_known hr hs] at h
      cases h
      exact ⟨risks, schema, hr, rfl, rfl⟩
  · rintro ⟨risks, schema, hr, hs, rfl⟩
    exact values_eq_known hr hs

/-- A prompt comes without a note exactly when the template is filled in. -/
theorem build_eq_ok_iff {key prompt : String} : (p.build q key).run = ⟨.ok prompt, []⟩ ↔
    ∃ values, p.values q = .ok values ∧ fillTemplate values (p.template key) = .ok prompt := by
  rw [build]
  cases p.values q with
  | error e => exact iff_of_false nofun (by simp)
  | ok values =>
    have hfill : (p.fillAt key values).run = ⟨.ok prompt, []⟩ ↔
        fillTemplate values (p.template key) = .ok prompt := by
      rw [fillAt]
      cases fillTemplate values (p.template key) with
      | ok filled =>
        show Noted.mk (Except.ok filled) [] = _ ↔ _
        simp
      | error u => cases u <;> exact iff_of_false nofun nofun
    refine hfill.trans ⟨fun h => ⟨values, rfl, h⟩, ?_⟩
    rintro ⟨_, ⟨⟩, h⟩
    exact h

end

section
variable {p : Prompts} {q : Question} {names : List String}

theorem values_ok (hr : q.risks = .list (names.map .str)) (hs : Json.writable q.schema = true) :
    ∃ values, p.values q = .ok values := by
  simp only [values, hr, descriptions_names, Json.write?, hs, if_true]
  exact ⟨_, rfl⟩

/-- There is a prompt for a question exactly when its template is not too wide. -/
theorem build_error_iff (hr : q.risks = .list (names.map .str)) (hs : Json.writable q.schema = true)
    (key : String) : (p.build q key).run.value.toOption = none ↔ p.TooWide q key := by
  obtain ⟨values, hv⟩ := @values_ok p q names hr hs
  have ht : p.TooWide q key ↔ fillTemplate values (p.template key) = .error .tooWide := by
    simp [TooWide, hv]
  have hb : p.build q key = p.fillAt key values := by
    unfold build
    rw [hv]
    rfl
  rw [ht, hb, fillAt]
  cases fillTemplate values (p.template key) with
  | ok prompt => exact iff_of_false (by rintro ⟨⟩) (by rintro ⟨⟩)
  | error u =>
    cases u with
    | tooWide => exact iff_of_true rfl rfl
    | malformed => exact iff_of_false (by rintro ⟨⟩) (by rintro ⟨⟩)

end

/-! ## A template that is too wide -/

/-- The code in the greatest width that a layout can ask for. -/
def widePlaceholder : Prompt.Placeholder :=
  ⟨"code_content".toList, [], none, ">9223372036854775807".toList, false⟩

def wideTemplate : String := "\x7bcode_content:>9223372036854775807\x7d"

theorem pieces_wideTemplate :
    Prompt.pieces? wideTemplate.toList = some [.placeholder widePlaceholder] := by
  have ht : wideTemplate.toList =
      '\x7b' :: "code_content:>9223372036854775807\x7d".toList := by decide
  have hp : Prompt.placeholder? "code_content:>9223372036854775807\x7d".toList =
      some (widePlaceholder, []) := by decide
  rw [ht, Prompt.pieces?, hp]
  · simp [Prompt.pieces?]
  · intro rest hr
    cases hr

theorem layOut_widePlaceholder (cs : List Char) :
    (Prompt.Found.text cs).layOut widePlaceholder.layout = .error .tooWide := by
  obtain ⟨l, hl, hw⟩ : ∃ l, Prompt.layout? widePlaceholder.layout = some l ∧
      l.width = some 9223372036854775807 := ⟨_, rfl, by decide⟩
  rw [Prompt.Found.layOut, if_neg (by decide), hl]
  show (if l.width.any (Prompt.widthInMemory < ·) then throw .tooWide
    else pure (l.apply cs) : Prompt.Filling _) = _
  rw [hw]
  rfl

theorem fill_wideTemplate (values : List (String × String)) :
    Prompt.fill values wideTemplate = .error .tooWide := by
  have hp : ∀ f, f widePlaceholder = .ok widePlaceholder.layout →
      Prompt.fillPiece values f (.placeholder widePlaceholder) = .error .tooWide := by
    intro f hf
    rw [Prompt.fillPiece, hf]
    exact layOut_widePlaceholder (Prompt.valueOf values widePlaceholder.name)
  have h : Prompt.fillAt values 2 wideTemplate.toList = .error .tooWide := by
    rw [Prompt.fillAt, pieces_wideTemplate]
    simp only [Prompt.Filling.ofOption, bind, Except.bind, List.mapM_cons]
    rw [hp _ rfl]
  rw [Prompt.fill, h]
  rfl

end Prompts

namespace Scanner

/-- The prompt that a scan makes for a unit, if it can. -/
def prompt? (s : Scanner) (u : AnalysisUnit) : Option String :=
  (s.prompts.build (s.question u) Prompts.usualKey).run.value.toOption

/-- The template of a scan is too wide for a unit. -/
def TooWide (s : Scanner) (u : AnalysisUnit) : Prop := s.prompts.TooWide (s.question u) Prompts.usualKey

theorem prompt?_eq_none_iff (s : Scanner) (u : AnalysisUnit) : s.prompt? u = none ↔ s.TooWide u :=
  Prompts.build_error_iff rfl (show Json.writable Reply.schema = true by decide) Prompts.usualKey

end Scanner

end SecurityScan
