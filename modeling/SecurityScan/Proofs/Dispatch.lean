import SecurityScan.Dispatch
import SecurityScan.Proofs.Chunk
import SecurityScan.Proofs.Recording

/-!
# The units of a text and the calls for them

The units are fixed before any of them is analyzed: the calls are one for each, in order, whatever
comes of them. A call that fails leaves nothing in its place among the results, so that its findings
are missing and all others stay as they are.
-/

namespace SecurityScan

/-- The value that an outcome leaves: null where a fault stopped the call. -/
def entryOf (outcome : Except Fault Value) : Value := outcome.toOption.getD .null

namespace CombinedReport

@[simp] theorem combine_append (rs ss : List Value) : combine (rs ++ ss) = combine rs ++ combine ss :=
  List.flatMap_append

theorem combine_cons (r : Value) (rs : List Value) :
    combine (r :: rs) = (findingsOf? r).getD [] ++ combine rs := List.flatMap_cons

@[simp] theorem findingsOf?_ofFindings (fs : List Value) : findingsOf? (ofFindings fs) = some fs := by
  simp [findingsOf?, ofFindings, Value.record, Value.entries?, Value.list?, Value.opened,
    Entries.field?, Entries.get?, Value.same]

@[simp] theorem findingsOf?_null : findingsOf? .null = none := rfl

/-- Null in the place of a result takes away the findings of that result. -/
theorem combine_set_null (rs : List Value) (i : Nat) :
    combine (rs.set i .null) = combine (rs.take i) ++ combine (rs.drop (i + 1)) := by
  rw [List.set_eq_take_append_cons_drop]
  split
  · simp [combine_cons]
  · rename_i h
    have h : rs.length ≤ i := Nat.le_of_not_lt h
    simp [List.take_of_length_le h, List.drop_of_length_le (Nat.le_succ_of_le h), combine]

theorem combine_split (rs : List Value) (i : Nat) :
    combine rs = combine (rs.take i) ++ combine rs[i]?.toList ++ combine (rs.drop (i + 1)) := by
  rw [← combine_append, ← combine_append]
  congr 1
  by_cases h : i < rs.length
  · simp [h]
  · have h : rs.length ≤ i := Nat.le_of_not_lt h
    simp [List.take_of_length_le h, List.drop_of_length_le (Nat.le_succ_of_le h), h]

end CombinedReport

namespace AnalysisUnit

/-! ## Units -/

theorem map_content_ofText (limit : Nat) (s : String) (base : Option String) :
    (Chunk.ofText limit s base).map (·.content) = Chunk.split limit s := by
  simp [Chunk.ofText, List.mapIdx_eq_zipIdx_map, Function.comp_def]

/-- The contents of the units put together are the text. -/
theorem join_ofText (limit : Nat) (content : String) (label : Option String) :
    String.join ((ofText limit content label).map (·.content)) = content := by
  unfold ofText
  split
  · simp
  · have h := map_content_ofText limit content label
    rw [List.map_map, Function.comp_def, h, Chunk.join_split]

theorem ofText_empty (limit : Nat) (label : Option String) :
    ofText limit "" label = [⟨"", label⟩] := by
  simp [ofText]

theorem ofText_ne_nil (limit : Nat) (content : String) (label : Option String) :
    ofText limit content label ≠ [] := by
  intro h
  have hc : content = "" := by
    have := join_ofText limit content label
    rw [h] at this
    simpa using this.symm
  rw [hc, ofText_empty] at h
  cases h

/-- A unit has the label of its text, and its number behind it unless it is the only one. -/
theorem label_ofText (limit : Nat) (content : String) {base : String} (hb : base ≠ "") (j : Nat)
    (hj : j < (ofText limit content (some base)).length) :
    ((ofText limit content (some base))[j]).label =
      some (if (ofText limit content (some base)).length = 1 then base
        else base ++ " (chunk " ++ toString (j + 1) ++ "/" ++
          toString (ofText limit content (some base)).length ++ ")") := by
  by_cases hc : content.length ≤ limit
  · have hu : ofText limit content (some base) = [⟨content, some base⟩] := if_pos hc
    simp [hu]
  · have hu : ofText limit content (some base) =
        (Chunk.ofText limit content (some base)).map fun c => ⟨c.content, c.label⟩ := if_neg hc
    have hn : (ofText limit content (some base)).length = (Chunk.split limit content).length := by
      simp [hu, Chunk.ofText]
    simp only [hn] at hj ⊢
    simp only [hu, List.getElem_map, Chunk.ofText, List.getElem_mapIdx, Chunk.labelFor]
    by_cases h1 : (Chunk.split limit content).length = 1
    · simp [h1]
    · have h2 : ¬ ((Chunk.split limit content).length : Int) ≤ 1 := by omega
      simp [h1, h2, hb, String.append_assoc]
      rfl

/-! ## Calls -/

section
variable {σ τ ε : Type}

theorem value_resultOf (u : AnalysisUnit) (o : Except Fault Value) :
    (u.resultOf o).value = entryOf o := by
  cases o with
  | error f => rfl
  | ok v => cases v <;> rfl

/-- A note that a text was split is all that comes before the calls. -/
theorem value_analyzeText (call : Analyze σ) (limit : Nat) (content : String)
    (label : Option String) (w : σ) : (analyzeText call limit content label w).value =
      (analyzeAll call (ofText limit content label) w).value := by
  unfold analyzeText
  split <;> rfl

theorem follows_analyzeAll {c : Analyze (σ × τ)} {d : Analyze σ}
    (h : ∀ u, Session.Follows (c u) (d u)) :
    ∀ us, Session.Follows (analyzeAll c us) (analyzeAll d us)
  | [] => Session.follows_pure _
  | u :: us =>
    ((h u).bind fun _ => Session.follows_ofNoted _).bind fun _ =>
      (follows_analyzeAll h us).bind fun _ => Session.follows_pure _

theorem follows_analyzeText {c : Analyze (σ × τ)} {d : Analyze σ}
    (h : ∀ u, Session.Follows (c u) (d u)) (limit : Nat) (content : String) (label : Option String) :
    Session.Follows (analyzeText c limit content label) (analyzeText d limit content label) := by
  unfold analyzeText
  split
  · exact (Session.follows_ofNoted _).bind fun _ => follows_analyzeAll h _
  · exact follows_analyzeAll h _

/-- What each call adds to the record, and with what outcome, adds up over the units. `P` holds of
no units at all, and of one more unit in front of others by what its call does. -/
theorem analyzeAll_writes {c : Analyze (σ × List ε)}
    {R : AnalysisUnit → Except Fault Value → List ε → Prop}
    {P : List AnalysisUnit → List Value → List ε → Prop} (hc : ∀ u, Session.Writes (c u) (R u))
    (nil : P [] [] [])
    (cons : ∀ u o es us rs fs, R u o es → P us rs fs → P (u :: us) (entryOf o :: rs) (es ++ fs)) :
    ∀ us, Session.Writes (analyzeAll c us) (P us)
  | [] => (Session.writes_pure _).imp fun _ _ h => by rw [h.1, h.2]; exact nil
  | u :: us => by
    have hu : Session.Writes (u.analyze c) fun r es => ∃ o, r = entryOf o ∧ R u o es := by
      refine (hc u).bind fun o es ho => (Session.writes_ofNoted _).imp fun r fs h => ?_
      rw [h.1, h.2, List.append_nil]
      exact ⟨o, value_resultOf u o, ho⟩
    refine hu.bind fun r es h => (analyzeAll_writes hc nil cons us).bind fun rs fs hrs =>
      (Session.writes_pure _).imp fun ss gs hss => ?_
    obtain ⟨o, rfl, ho⟩ := h
    rw [hss.1, hss.2, List.append_nil]
    exact cons u o es us rs fs ho hrs

theorem analyzeText_writes {c : Analyze (σ × List ε)} {limit : Nat} {content : String}
    {label : Option String} {Q : List Value → List ε → Prop}
    (h : Session.Writes (analyzeAll c (ofText limit content label)) Q) :
    Session.Writes (analyzeText c limit content label) Q := by
  unfold analyzeText
  split
  · refine (Session.writes_ofNoted _).bind fun _ es hes => h.imp fun rs fs hq => ?_
    rw [hes.2]
    exact hq
  · exact h

end

/-! ## Isolation -/

section
variable {σ τ : Type}

/-- The results of the units of a text. -/
def results (call : Analyze σ) (limit : Nat) (content : String) (label : Option String) (s : σ) :
    List Value :=
  (analyzeText call limit content label s).value.1

/-- The calls for a text in the order in which they are made, each with its outcome. -/
def calls (call : Analyze σ) (limit : Nat) (content : String) (label : Option String) (s : σ) :
    List (AnalysisUnit × Except Fault Value) :=
  (analyzeText (Session.recorded call) limit content label (s, [])).value.2.2

variable (call : Analyze σ) (limit : Nat) (content : String) (label : Option String) (s : σ)

theorem follows_recorded_text :
    Session.Follows (analyzeText (Session.recorded call) limit content label)
      (analyzeText call limit content label) :=
  follows_analyzeText (Session.follows_recorded call) limit content label

/-- Every unit is called once and in its turn, and what the call comes to is its result. -/
theorem calls_and_results :
    (calls call limit content label s).map (·.1) = ofText limit content label ∧
      results call limit content label s =
        (calls call limit content label s).map fun c => entryOf c.2 := by
  have hw : Session.Writes (analyzeText (Session.recorded call) limit content label) fun rs cs =>
      cs.map (·.1) = ofText limit content label ∧ rs = cs.map fun c => entryOf c.2 := by
    refine analyzeText_writes (analyzeAll_writes
      (P := fun us rs cs => cs.map (·.1) = us ∧ rs = cs.map fun c => entryOf c.2)
      (Session.writes_recorded call) ⟨rfl, rfl⟩ ?_ _)
    rintro u o es us rs fs rfl ⟨hu, hr⟩
    exact ⟨by simp [hu], by simp [hr]⟩
  obtain ⟨cs, hcs, hu, hr⟩ := hw s []
  have hc : calls call limit content label s = cs := hcs
  have hf := (follows_recorded_text call limit content label s []).1
  rw [hc]
  exact ⟨hu, hf.symm.trans hr⟩

theorem value_processText :
    (processText call limit content label s).value.1 =
      CombinedReport.ofFindings (CombinedReport.combine (results call limit content label s)) := rfl

end

/-- Only a failed call leaves null in its place. -/
theorem entryOf_eq_null_iff (o : Except Fault Value) :
    entryOf o = .null ↔ (∃ f, o = .error f) ∨ o = .ok .null := by
  cases o with
  | error f => exact iff_of_true rfl (Or.inl ⟨f, rfl⟩)
  | ok v =>
    constructor
    · intro h
      exact Or.inr (congrArg Except.ok h)
    · rintro (⟨f, h⟩ | h)
      · cases h
      · exact Except.ok.inj h

/-- **A failed call is isolated.** The calls are one for each unit of the text, whatever comes of
them, and recording them changes nothing. The results are what the calls came to, null for those
that failed or came to null, and the findings are those of the results in order. When one outcome
is a failure instead and the others are as before, only the findings of that one result are
missing. -/
theorem analyzeText_isolates (limit : Nat) (content : String) (label : Option String) :
    String.join ((ofText limit content label).map (·.content)) = content ∧
    (∀ o, entryOf o = .null ↔ (∃ f, o = .error f) ∨ o = .ok .null) ∧
    (∀ (σ : Type) (call : Analyze σ) (s : σ),
      Session.Follows (analyzeText (Session.recorded call) limit content label)
        (analyzeText call limit content label) ∧
      (calls call limit content label s).map (·.1) = ofText limit content label ∧
      results call limit content label s =
        (calls call limit content label s).map (fun c => entryOf c.2) ∧
      (processText call limit content label s).value.1 =
        CombinedReport.ofFindings ((calls call limit content label s).flatMap fun c =>
          (CombinedReport.findingsOf? (entryOf c.2)).getD [])) ∧
    ∀ (σ τ : Type) (c : Analyze σ) (d : Analyze τ) (s : σ) (t : τ) (i : Nat)
      (o : Except Fault Value), (∃ f, o = .error f) ∨ o = .ok .null →
      (calls d limit content label t).map (·.2) =
        ((calls c limit content label s).map (·.2)).set i o →
      let rs := results c limit content label s
      let before := CombinedReport.combine (rs.take i)
      let after := CombinedReport.combine (rs.drop (i + 1))
      results d limit content label t = rs.set i .null ∧
      (processText c limit content label s).value.1 =
        CombinedReport.ofFindings (before ++ CombinedReport.combine rs[i]?.toList ++ after) ∧
      (processText d limit content label t).value.1 =
        CombinedReport.ofFindings (before ++ after) := by
  refine ⟨join_ofText limit content label, entryOf_eq_null_iff, ?_, ?_⟩
  · intro σ call s
    obtain ⟨hu, hr⟩ := calls_and_results call limit content label s
    refine ⟨follows_recorded_text call limit content label, hu, hr, ?_⟩
    rw [value_processText, hr, CombinedReport.combine, List.flatMap_map]
  · intro σ τ c d s t i o ho hset rs before after
    have hc := (calls_and_results c limit content label s).2
    have hd := (calls_and_results d limit content label t).2
    -- the results are the entries of the outcomes, of which one was replaced
    have hres : results d limit content label t = rs.set i .null := by
      have hmap : ∀ cs : List (AnalysisUnit × Except Fault Value),
          (cs.map fun e => entryOf e.2) = (cs.map (·.2)).map entryOf := by simp
      rw [hd, hmap, hset, List.map_set, (entryOf_eq_null_iff o).mpr ho, ← hmap, ← hc]
    refine ⟨hres, ?_, ?_⟩
    · rw [value_processText, CombinedReport.combine_split _ i]
    · rw [value_processText, hres, CombinedReport.combine_set_null]

end AnalysisUnit

end SecurityScan
