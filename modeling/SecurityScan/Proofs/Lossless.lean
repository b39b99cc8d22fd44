import SecurityScan.Proofs.Decimal
import SecurityScan.Proofs.Usable

/-!
# What a configuration keeps of its settings

Of settings that the checks find no error in, a configuration has the values as they are: nothing is
cut off, read or written again, and only a timeout may be rounded to a double. Nothing but the
settings has an influence. What the checks do not foresee is that a timeout may be beyond all
doubles and that a value may have no text.
-/

namespace SecurityScan

namespace Double

theorem exists_canonical {n : Nat} (hn : n ≤ 2 ^ 53) :
    ∃ mant exp, Canonical mant exp ∧ n * 2 ^ 1074 = mant * 2 ^ exp := by
  obtain rfl | hpos := Nat.eq_zero_or_pos n
  · exact ⟨0, 0, by decide, by rw [Nat.zero_mul, Nat.zero_mul]⟩
  obtain rfl | hlt := Nat.eq_or_lt_of_le hn
  · have hdouble : ∀ k : Nat, 2 ^ 53 * 2 ^ k = 2 ^ 52 * 2 ^ (k + 1) := fun k => by
      rw [Nat.pow_succ]
      omega
    exact ⟨2 ^ 52, 1074 + 1, by decide, hdouble 1074⟩
  have hlow : 2 ^ n.log2 ≤ n := Nat.log2_self_le (Nat.ne_of_gt hpos)
  have hhigh : n < 2 ^ (n.log2 + 1) := Nat.lt_log2_self
  have hlog : n.log2 < 53 := (Nat.log2_lt (Nat.ne_of_gt hpos)).mpr hlt
  have hsplit : ∀ k, 2 ^ (n.log2 + k) * 2 ^ (52 - n.log2) = 2 ^ (52 + k) := by
    intro k
    rw [← Nat.pow_add]
    congr 1
    omega
  have hscale : 0 < 2 ^ (52 - n.log2) := Nat.pow_pos (by decide)
  refine ⟨n * 2 ^ (52 - n.log2), 1022 + n.log2, ⟨?_, by omega, Or.inr ?_⟩, ?_⟩
  · exact hsplit 1 ▸ Nat.mul_lt_mul_of_pos_right hhigh hscale
  · exact hsplit 0 ▸ Nat.mul_le_mul_right _ hlow
  · rw [Nat.mul_assoc, ← Nat.pow_add]
    congr 2
    omega

/-- A whole number of at most fifty-three bits is a double of the same value. -/
theorem eqInt_ofInt? {i : Int} (hi : i.natAbs ≤ 2 ^ 53) :
    ∃ x, ofInt? i = some x ∧ x.eqInt i = true := by
  obtain ⟨mant, exp, hcanonical, heq⟩ := exists_canonical hi
  have hratio := ofRatio_exact hcanonical (i < 0) Nat.one_pos (by rw [heq, Nat.mul_one])
  refine ⟨_, by rw [ofInt?, hratio]; rfl, ?_⟩
  have hcast : (i.natAbs : Int) * 2 ^ 1074 = mant * 2 ^ exp := by
    have hint := congrArg Int.ofNat heq
    simp only [Int.ofNat_eq_natCast, Int.natCast_mul, Int.natCast_pow, Int.cast_ofNat_Int] at hint
    exact hint
  rw [eqInt, scaled?, ← hcast]
  generalize (2 : Int) ^ 1074 = c
  by_cases hneg : i < 0
  · rw [Int.ofNat_natAbs_of_nonpos (Int.le_of_lt hneg)]
    simp [hneg, Int.neg_mul]
  · rw [Int.natAbs_of_nonneg (Int.not_lt.mp hneg)]
    simp [hneg]

end Double

namespace Settings

/-! ## Only the settings count -/

section
variable {s t : Settings}
  (hs : s.Complete) (ht : t.Complete) (h : ∀ key ∈ usualKeys, s.value key = t.value key)
include hs ht h

theorem issues_congr : s.issues = t.issues := by
  have hwhole : wholeIssues s = wholeIssues t := by
    simp (disch := decide) only [wholeIssues, List.filterMap_cons, List.filterMap_nil, h]
  have hmaps : mappingIssues s = mappingIssues t := by
    simp (disch := decide) only [mappingIssues, List.filterMap_cons, List.filterMap_nil, h]
  rw [issues_eq hs, issues_eq ht]
  simp (disch := decide) only [allIssues, keyIssues, hwhole, timeoutIssues, checkIssues,
    extensionIssues, hmaps, templateIssues, h]

theorem ofSettings_congr : Config.ofSettings s = Config.ofSettings t := by
  have hvalue : ∀ {u : Settings}, u.Complete → ∀ key ∈ usualKeys,
      value (usual.insertAll (u.filter fun e => (usual.get? e.1).isSome)) key = u.value key :=
    fun hu _ hkey => hu.value_insertAll hkey
  rw [Config.ofSettings, Config.ofSettings]
  dsimp only
  simp (disch := decide) only [hvalue hs, hvalue ht, h]

end

/-! ## What is kept -/

/-- A configuration that has the checked settings in its fields as they are. -/
structure Lossless (s : Settings) (config : Config) : Prop where
  provider : s.value "ai_provider" = .str config.provider
  maxTokens : s.value "max_tokens" = .int config.maxTokens
  chunkSize : s.value "chunk_size" = .int config.chunkSize
  toolTimeout : s.value "tool_timeout" = .int config.toolTimeout
  /-- A whole number is rounded to a double, and stays what it is up to fifty-three bits. -/
  requestTimeout : s.value "request_timeout" = .float config.requestTimeout ∨
    ∃ i, s.value "request_timeout" = .int i ∧ Double.ofInt? i = some config.requestTimeout ∧
      (i.natAbs ≤ 2 ^ 53 → config.requestTimeout.eqInt i = true)
  checks : listMembers? (s.value "checks") = some (config.checks.map .str)
  sourceExtensions : listMembers? (s.value "source_extensions") = some config.sourceExtensions
  promptTemplates : (s.value "prompt_templates").entries? = some config.promptTemplates
  brakemanOptions : (s.value "brakeman_options").entries? = some config.brakemanOptions
  bundlerAuditOptions :
    (s.value "bundler_audit_options").entries? = some config.bundlerAuditOptions
  /-- An empty path is no template. -/
  htmlTemplate : ∀ path, config.htmlTemplate = some path ↔
    s.value "html_template" = .str path ∧ path ≠ ""

section
variable {s : Settings} {config : Config}

theorem Accepted.value_whole (ha : s.Accepted) {key : String} (hkey : key ∈ wholeKeys) {n : Int}
    (hn : (s.value key).toWhole = .ok n) : s.value key = .int n := by
  obtain ⟨i, -, hv⟩ := ha.whole key hkey
  rw [hv] at hn ⊢
  exact congrArg Value.int (Except.ok.inj hn)

theorem holds_of_entries? {v : Value} {e : Value × Value} {es : Entries}
    (h : v.entries? = some (e :: es)) : v.holds = true := by
  cases v with
  | map fs =>
    obtain rfl : fs = e :: es := Option.some.inj h
    rfl
  | marked m v =>
    cases v with
    | map fs =>
      cases fs with
      | nil => cases h
      | cons f fs => rfl
    | again i isMap =>
      by_cases hi : i = m
      · simp [Value.entries?, Value.opened, Value.filled, hi] at h
      · simp [Value.entries?, Value.opened, Value.filled, hi] at h
    | _ => cases h
  | _ => cases h

theorem toEntries_eq {v : Value} {es : Entries} (h : v.entries? = some es) :
    v.toEntries = .ok es := by
  rw [Value.toEntries, h]
  cases hholds : v.holds with
  | true => rfl
  | false =>
    cases es with
    | nil => rfl
    | cons e es =>
      rw [holds_of_entries? h] at hholds
      cases hholds

theorem Accepted.entries?_value (ha : s.Accepted) {key : String} (hkey : key ∈ mapKeys)
    {es : Entries} (hes : (s.value key).toEntries = .ok es) :
    (s.value key).entries? = some es := by
  obtain ⟨fs, hfs⟩ := Option.isSome_iff_exists.mp (ha.maps key hkey)
  rw [toEntries_eq hfs] at hes
  rw [hfs, Except.ok.inj hes]

theorem listMembers?_of_textMembers? {v : Value} {names : List String}
    (h : textMembers? v = some names) : listMembers? v = some (names.map .str) := by
  obtain ⟨xs, hxs, h⟩ := Option.bind_eq_some_iff.mp h
  rw [hxs, eq_map_of_mapM_str? h]

theorem lossless_of_frozen (ha : s.Accepted) (hf : s.Frozen config) : s.Lossless config where
  provider := by
    obtain ⟨p, -, hp⟩ := ha.provider
    have hprovider := hf.provider
    rw [hp] at hprovider ⊢
    exact congrArg Value.str (Except.ok.inj hprovider)
  maxTokens := ha.value_whole (by decide) hf.maxTokens
  chunkSize := ha.value_whole (by decide) hf.chunkSize
  toolTimeout := ha.value_whole (by decide) hf.toolTimeout
  requestTimeout := by
    have hfrozen := hf.requestTimeout
    obtain ⟨i, hi⟩ | ⟨x, hx⟩ := ha.wellTyped.timeout
    · rw [hi] at hfrozen ⊢
      rw [Value.toDouble] at hfrozen
      cases hrounded : Double.ofInt? i with
      | none =>
        rw [hrounded] at hfrozen
        cases hfrozen
      | some x =>
        rw [hrounded] at hfrozen
        rw [← Except.ok.inj hfrozen]
        refine Or.inr ⟨i, rfl, hrounded, fun hsize => ?_⟩
        obtain ⟨y, hy, heq⟩ := Double.eqInt_ofInt? hsize
        rwa [← Option.some.inj (hrounded.symm.trans hy)] at heq
    · rw [hx] at hfrozen ⊢
      exact Or.inl (congrArg Value.float (Except.ok.inj hfrozen))
  checks := listMembers?_of_textMembers? (Config.textMembers?_checks ha hf)
  sourceExtensions := by
    obtain ⟨names, hnames, -⟩ := ha.extensions
    have hmembers := hf.sourceExtensions
    rw [members_of_textMembers? hnames] at hmembers
    rw [listMembers?_of_textMembers? hnames, Except.ok.inj hmembers]
  promptTemplates := ha.entries?_value (by decide) hf.promptTemplates
  brakemanOptions := ha.entries?_value (by decide) hf.brakemanOptions
  bundlerAuditOptions := ha.entries?_value (by decide) hf.bundlerAuditOptions
  htmlTemplate path := by
    have hfrozen := hf.htmlTemplate
    obtain hnull | ⟨p, hp⟩ := ha.template
    · rw [hnull] at hfrozen ⊢
      rw [← Except.ok.inj hfrozen]
      constructor
      · rintro ⟨⟩
      · rintro ⟨⟨⟩, -⟩
    · rw [hp] at hfrozen ⊢
      by_cases hempty : p = ""
      · subst hempty
        rw [← Except.ok.inj hfrozen]
        constructor
        · rintro ⟨⟩
        · exact fun h => absurd (Value.str.inj h.1).symm h.2
      · have hholds : (Value.str p).holds = true := by simp [Value.holds, hempty]
        rw [Config.displayedIfHolds, if_pos hholds] at hfrozen
        rw [← Except.ok.inj hfrozen, Option.some.injEq, Value.str.injEq]
        exact ⟨fun h => ⟨h, h ▸ hempty⟩, fun h => h.1⟩

end

/-- **What is accepted is frozen as it is.** Of layers without an error a configuration is made
exactly when the timeout is in the range of doubles and the settings that become texts have one, and
it has the checked settings as they are. Other settings that differ from these only under keys that
are no setting are checked and frozen with the same outcome. -/
theorem frozen_as_accepted (file environment arguments : Settings) :
    let s := layered file environment arguments
    (∀ is, s.issues = .ok is → errorTexts is = [] →
      ((∃ config, Config.ofSettings s = .ok config) ↔ s.Freezable) ∧
      ∀ config, Config.ofSettings s = .ok config → s.Lossless config) ∧
    ∀ t : Settings, Entries.Distinct t →
      (∀ key ∈ usualKeys, Entries.field? t key = Entries.field? s key) →
      t.issues = s.issues ∧ Config.ofSettings t = Config.ofSettings s := by
  intro s
  have hs : s.Complete := complete_layered file environment arguments
  refine ⟨fun is his hnone => ?_, fun t ht hsame => ?_⟩
  · have ha : s.Accepted := (accepted_iff hs).mp ⟨is, his, hnone⟩
    exact ⟨returns_ofSettings hs ha.wellTyped, fun config hconfig =>
      lossless_of_frozen ha (frozen_ofSettings hs hconfig)⟩
  · have ht : t.Complete := ⟨ht, fun key hkey => by rw [hsame key hkey]; exact hs.known key hkey⟩
    have hvalue : ∀ key ∈ usualKeys, t.value key = s.value key := fun key hkey => by
      rw [value, value, hsame key hkey]
    exact ⟨issues_congr ht hs hvalue, ofSettings_congr ht hs hvalue⟩

/-- A timeout of a file, beside what is usual. -/
theorem frozen_as_accepted_inf :
    ∃ config, Config.ofSettings (Config.withTimeout (.infinite false)) = .ok config ∧
      config.requestTimeout = .infinite false ∧ config.chunkSize = 8000 ∧
      config.sourceExtensions = [.str ".rb"] ∧ config.htmlTemplate = none := by
  obtain ⟨ha, hfreezable⟩ := Config.accepted_withTimeout (x := .infinite false) (by decide)
  obtain ⟨hvalue, hsame⟩ := Config.value_withTimeout (x := .infinite false)
  obtain ⟨is, his, hnone⟩ := (accepted_iff (complete_layered ..)).mpr ha
  obtain ⟨hfreezes, hlossless⟩ := (frozen_as_accepted _ _ _).1 is his hnone
  obtain ⟨config, hconfig⟩ := hfreezes.mpr hfreezable
  have hl : Lossless (Config.withTimeout (.infinite false)) config := hlossless config hconfig
  have htimeout := hl.requestTimeout
  have hchunk := hl.chunkSize
  have hextensions := hl.sourceExtensions
  have htemplate := hl.htmlTemplate
  simp (disch := decide) only [hvalue, hsame] at htimeout hchunk hextensions htemplate
  have husual : value usual "chunk_size" = .int 8000 ∧
      value usual "source_extensions" = .list [.str ".rb"] ∧ value usual "html_template" = .null := by
    simp [usual, value, Entries.field?_cons_str]
  refine ⟨config, hconfig, ?_, ?_, ?_, ?_⟩
  · obtain hx | ⟨_, hi, -⟩ := htimeout
    · exact (Value.float.inj hx).symm
    · cases hi
  · exact (Value.int.inj (husual.1.symm.trans hchunk)).symm
  · rw [husual.2.1] at hextensions
    exact (Option.some.inj hextensions).symm
  · rw [Option.eq_none_iff_forall_ne_some]
    intro path hpath
    rw [husual.2.2] at htemplate
    cases ((htemplate path).mp hpath).1

end Settings

namespace Config

open Settings

/-! ## One setting of the backend in a file -/

/-- The sections of a file that sets one of the backend's settings. -/
def backendSections (key : String) (v : Value) : Entries := [(.str "ai", .map [(.str key, v)])]

/-- The settings of a project with such a file. -/
def withBackend (key : String) (v : Value) : Settings :=
  layered (ofSections (backendSections key v)) (ofEnvironment []).value (ofArguments [])

section
variable {key : String} {v : Value} (hkey : key ≠ "provider") (hnull : v.isNull = false)
include hkey hnull

theorem ofSections_backendSections :
    ofSections (backendSections key v) = [(.str key, v)] := by
  have hprovider : (Value.str key).same (.str "provider") = false := by simp [hkey]
  have hmissing : Value.null.isNull = true := rfl
  simp [backendSections, ofSections, putBackend, putFrom, putValue, value, section?,
    Entries.field?_cons_str, Entries.insert, Value.entries?, Value.opened, hnull, hmissing,
    hprovider]

theorem value_withBackend (hv : v.entries? = none) (name : String) :
    value (withBackend key v) name = if key = name then v else value Settings.usual name := by
  have hlayers : withBackend key v = merge Settings.usual [(.str key, v)] := by
    rw [withBackend, ofSections_backendSections hkey hnull]
    rfl
  rw [hlayers, value_merge_single _ key hv]

end

/-- A whole number above zero is accepted as a timeout, and cannot be frozen beyond the range of
doubles. -/
theorem overflow_withBackend {i : Int} (hpos : 0 < i) (hi : Double.ofInt? i = none) :
    (withBackend "request_timeout" (.int i)).Accepted ∧
      ofSettings (withBackend "request_timeout" (.int i)) =
        .error (.overflow "int too large to convert to float") := by
  have hvalue : ∀ name, value (withBackend "request_timeout" (.int i)) name =
      if "request_timeout" = name then .int i else value Settings.usual name :=
    value_withBackend (by decide) rfl rfl
  have hsame : ∀ key ∈ usualKeys, key ≠ "request_timeout" →
      value (withBackend "request_timeout" (.int i)) key = value Settings.usual key := by
    intro key _ hkey
    rw [hvalue, if_neg hkey.symm]
  refine ⟨accepted_usual.of_same hsame ?_, ?_⟩
  · rw [hvalue, if_pos rfl]
    exact { timeout := fun _ => decide_eq_true hpos }
  · have hcomplete : (withBackend "request_timeout" (.int i)).Complete := complete_layered ..
    have husual : value Settings.usual "ai_provider" = .str "auto" ∧
        value Settings.usual "model" = .str "auto" ∧
        value Settings.usual "max_tokens" = .int 4096 := by
      simp [Settings.usual, value, Entries.field?_cons_str]
    rw [ofSettings]
    dsimp only
    simp (disch := decide) only [hcomplete.value_insertAll, hvalue, String.reduceEq, if_false,
      if_true, husual]
    rw [Value.toDouble, hi]
    rfl

theorem ofSettings_timeout_overflow :
    let s := withBackend "request_timeout" (.int (10 ^ 309))
    (∃ is, s.issues = .ok is ∧ errorTexts is = []) ∧
      ofSettings s = .error (.overflow "int too large to convert to float") := by
  obtain ⟨ha, hstops⟩ := overflow_withBackend (i := 10 ^ 309) (Int.pow_pos (by decide))
    (by decide +kernel)
  exact ⟨(accepted_iff (complete_layered ..)).mpr ha, hstops⟩

end Config

end SecurityScan
