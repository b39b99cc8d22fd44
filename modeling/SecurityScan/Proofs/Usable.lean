import SecurityScan.Chunk
import SecurityScan.Proofs.Validation

/-!
# Settings that are accepted

The checks accept exactly the settings that every part of a scan can use, and one more: a timeout
that is not a number compares with nothing, so that no check finds it too small. What is accepted
and frozen is a configuration with sizes from one on, a provider that is known, extensions that
begin with a dot, and a timeout above zero unless it is not a number.
-/

namespace SecurityScan

/-! ## Doubles above zero -/

namespace Double

theorem gtInt_ofScaled {mant : Nat} (h : 0 < mant) (exp : Nat) :
    (ofScaled false mant exp).gtInt 0 = true := by
  rw [ofScaled]
  split
  · have hpos : 0 < mant * 2 ^ exp := Nat.mul_pos h (Nat.pow_pos (by decide))
    simp only [gtInt, scaled?, Option.getD_some, Int.zero_mul, Bool.false_eq_true, if_false,
      decide_eq_true_eq]
    exact_mod_cast hpos
  · rfl

theorem div_le_divRound (num den : Nat) : num / den ≤ divRound num den := by
  unfold divRound
  dsimp only
  split
  · exact Nat.le_succ _
  · exact Nat.le_refl _

/-- What is not below the least double above zero is not rounded to zero. -/
theorem gtInt_ofRatio {num den : Nat} (hden : 0 < den) (h : den ≤ num * 2 ^ 1074) :
    (ofRatio false num den).gtInt 0 = true := by
  have hquotient : num * 2 ^ 1074 / den ≠ 0 := Nat.ne_of_gt (Nat.div_pos h hden)
  have hpow : 2 ^ ((num * 2 ^ 1074 / den).log2 - 52) ≤ num * 2 ^ 1074 / den :=
    Nat.le_trans (Nat.pow_le_pow_right (by decide) (Nat.sub_le _ _)) (Nat.log2_self_le hquotient)
  have hmant : 0 < divRound (num * 2 ^ 1074) (den * 2 ^ ((num * 2 ^ 1074 / den).log2 - 52)) := by
    refine Nat.lt_of_lt_of_le ?_ (div_le_divRound _ _)
    rw [← Nat.div_div_eq_div_mul]
    exact Nat.div_pos hpow (Nat.pow_pos (by decide))
  rw [ofRatio]
  split
  · exact gtInt_ofScaled (Nat.pow_pos (by decide)) _
  · exact gtInt_ofScaled hmant _

/-- A whole number above zero stays above zero. -/
theorem gtInt_of_ofInt? {i : Int} (hi : 0 < i) {x : Double} (h : ofInt? i = some x) :
    x.gtInt 0 = true := by
  have hneg : decide (i < 0) = false := decide_eq_false (Int.not_lt.mpr (Int.le_of_lt hi))
  have hround : (ofRatio false i.natAbs 1).gtInt 0 = true := by
    have hpos : ∀ k : Nat, 1 ≤ i.natAbs * 2 ^ k := fun k =>
      Nat.mul_pos (Int.natAbs_pos.mpr (Int.ne_of_gt hi)) (Nat.pow_pos (by decide))
    exact gtInt_ofRatio Nat.one_pos (hpos 1074)
  rw [ofInt?, hneg] at h
  generalize ofRatio false i.natAbs 1 = rounded at h hround
  cases rounded with
  | infinite neg => cases h
  | nan => cases hround
  | finite => rwa [← Option.some.inj h]

/-- Neither below zero nor zero: above it, or not a number. -/
theorem gtInt_zero_iff {x : Double} :
    x.gtInt 0 = true ↔ (x.ltInt 0 || x.eqInt 0) = false ∧ x ≠ .nan := by
  cases x with
  | nan => exact iff_of_false Bool.false_ne_true fun h => h.2 rfl
  | infinite neg =>
    have hzero : (infinite neg).eqInt 0 = false := rfl
    cases neg <;> simp [gtInt, ltInt, hzero]
  | finite neg mant exp canonical =>
    simp only [gtInt, ltInt, eqInt, scaled?, Option.getD_some, Int.zero_mul, ne_eq, reduceCtorEq,
      not_false_eq_true, and_true, decide_eq_true_eq, Bool.or_eq_false_iff, decide_eq_false_iff_not,
      beq_eq_false_iff_ne, Option.some.injEq]
    omega

end Double

namespace Settings

/-- A configuration is made of accepted settings alone, by freezing them. -/
theorem value_ofChecked_eq_ok_iff {s : Settings} (h : s.Complete) {config : Config} :
    (Config.ofChecked s).run.value = .ok config ↔
      s.Accepted ∧ Config.ofSettings s = .ok config := by
  rw [value_ofChecked, ← accepted_iff h]
  cases his : s.issues with
  | error f => simp
  | ok is =>
    by_cases hnone : errorTexts is = []
    · simp [hnone]
    · simp [hnone]

/-! ## What is frozen -/

/-- A configuration that has the settings in its fields, each converted to the field's type. -/
structure Frozen (s : Settings) (config : Config) : Prop where
  provider : (s.value "ai_provider").displayed = .ok config.provider
  model : (s.value "model").displayed = .ok config.model
  anthropicKey : config.anthropicKey =
    if (s.value "anthropic_api_key").holds then s.value "anthropic_api_key" else .str ""
  openaiKey : config.openaiKey =
    if (s.value "openai_api_key").holds then s.value "openai_api_key" else .str ""
  ollamaEndpoint : config.ollamaEndpoint =
    if (s.value "ollama_endpoint").holds then s.value "ollama_endpoint" else .str ""
  maxTokens : (s.value "max_tokens").toWhole = .ok config.maxTokens
  requestTimeout : (s.value "request_timeout").toDouble = .ok config.requestTimeout
  checks : ∃ members, (s.value "checks").members = .ok members ∧
    members.mapM Value.displayed = .ok config.checks
  language : (s.value "language").displayed = .ok config.language
  promptTemplates : (s.value "prompt_templates").toEntries = .ok config.promptTemplates
  chunkSize : (s.value "chunk_size").toWhole = .ok config.chunkSize
  sourceExtensions : (s.value "source_extensions").members = .ok config.sourceExtensions
  ignoreFile : (s.value "ignore_file").displayed = .ok config.ignoreFile
  brakemanOptions : (s.value "brakeman_options").toEntries = .ok config.brakemanOptions
  bundlerAuditOptions : (s.value "bundler_audit_options").toEntries = .ok config.bundlerAuditOptions
  toolTimeout : (s.value "tool_timeout").toWhole = .ok config.toolTimeout
  reportPath : (s.value "report_output_path").displayed = .ok config.reportPath
  htmlTemplate : Config.displayedIfHolds (s.value "html_template") = .ok config.htmlTemplate
  githubActionsPath : (s.value "github_actions_path").displayed = .ok config.githubActionsPath
  gitlabPath : (s.value "gitlab_ci_path").displayed = .ok config.gitlabPath

theorem frozen_ofSettings {s : Settings} (h : s.Complete) {config : Config}
    (hconfig : Config.ofSettings s = .ok config) : s.Frozen config := by
  have hvalue : ∀ key ∈ usualKeys,
      value (usual.insertAll (s.filter fun e => (usual.get? e.1).isSome)) key = s.value key :=
    fun _ hkey => h.value_insertAll hkey
  rw [Config.ofSettings] at hconfig
  dsimp only at hconfig
  simp (disch := decide) only [hvalue] at hconfig
  obtain ⟨_, hprovider, hconfig⟩ := exists_of_bind hconfig
  obtain ⟨_, hmodel, hconfig⟩ := exists_of_bind hconfig
  obtain ⟨_, htokens, hconfig⟩ := exists_of_bind hconfig
  obtain ⟨_, htimeout, hconfig⟩ := exists_of_bind hconfig
  obtain ⟨_, hmembers, hconfig⟩ := exists_of_bind hconfig
  obtain ⟨_, hchecks, hconfig⟩ := exists_of_bind hconfig
  obtain ⟨_, hlanguage, hconfig⟩ := exists_of_bind hconfig
  obtain ⟨_, htemplates, hconfig⟩ := exists_of_bind hconfig
  obtain ⟨_, hchunk, hconfig⟩ := exists_of_bind hconfig
  obtain ⟨_, hextensions, hconfig⟩ := exists_of_bind hconfig
  obtain ⟨_, hignore, hconfig⟩ := exists_of_bind hconfig
  obtain ⟨_, hbrakeman, hconfig⟩ := exists_of_bind hconfig
  obtain ⟨_, hbundler, hconfig⟩ := exists_of_bind hconfig
  obtain ⟨_, htool, hconfig⟩ := exists_of_bind hconfig
  obtain ⟨_, hreport, hconfig⟩ := exists_of_bind hconfig
  obtain ⟨_, hhtml, hconfig⟩ := exists_of_bind hconfig
  obtain ⟨_, hgithub, hconfig⟩ := exists_of_bind hconfig
  obtain ⟨_, hgitlab, hconfig⟩ := exists_of_bind hconfig
  obtain rfl := Except.ok.inj hconfig
  exact ⟨hprovider, hmodel, rfl, rfl, rfl, htokens, htimeout, ⟨_, hmembers, hchecks⟩, hlanguage,
    htemplates, hchunk, hextensions, hignore, hbrakeman, hbundler, htool, hreport, hhtml, hgithub,
    hgitlab⟩

end Settings

namespace Config

open Settings

/-! ## What a configuration can be used for -/

/-- What the parts of a scan rely on. Only a timeout may still not be a number. -/
structure Usable (config : Config) : Prop where
  provider : config.provider ∈ ["auto", "anthropic", "openai", "ollama"]
  chunkSize : 1 ≤ config.chunkSize
  limit : Chunk.limitOf (.int config.chunkSize) = .ok config.chunkSize.toNat
  maxTokens : 1 ≤ config.maxTokens
  toolTimeout : 1 ≤ config.toolTimeout
  timeout : config.requestTimeout.gtInt 0 = true ∨ config.requestTimeout = .nan
  extensions : config.sourceExtensions ≠ []
  dotted : ∀ e ∈ config.sourceExtensions, ∃ name, e = .str name ∧ Text.startsWith name "." = true

section
variable {s : Settings} {config : Config}

theorem whole_of_accepted (ha : s.Accepted) {key : String} (hkey : key ∈ wholeKeys) {n : Int}
    (hn : (s.value key).toWhole = .ok n) : 1 ≤ n := by
  obtain ⟨i, hi, hv⟩ := ha.whole key hkey
  rw [hv] at hn
  rwa [← Except.ok.inj hn]

/-- An accepted timeout is above zero unless it is not a number. -/
theorem gtInt_timeout_iff (ha : s.Accepted) (hf : s.Frozen config) :
    config.requestTimeout.gtInt 0 = true ↔ s.value "request_timeout" ≠ .float .nan := by
  have htimeout := ha.timeout
  have hfrozen := hf.requestTimeout
  unfold isPositive at htimeout
  split at htimeout
  · rename_i i hv
    rw [hv] at hfrozen ⊢
    rw [decide_eq_true_eq] at htimeout
    refine iff_of_true ?_ nofun
    rw [Value.toDouble] at hfrozen
    cases hx : Double.ofInt? i with
    | none =>
      rw [hx] at hfrozen
      cases hfrozen
    | some x =>
      rw [hx] at hfrozen
      rw [← Except.ok.inj hfrozen]
      exact Double.gtInt_of_ofInt? htimeout hx
  · rename_i x hv
    rw [hv] at hfrozen ⊢
    have hnan : x ≠ .nan ↔ Value.float x ≠ .float .nan := by simp only [ne_eq, Value.float.injEq]
    rw [← Except.ok.inj hfrozen, Double.gtInt_zero_iff, hnan]
    exact and_iff_right (by simpa using htimeout)
  · cases htimeout

/-- Extensions that are given as texts are those of the configuration. -/
theorem sourceExtensions_eq (hf : s.Frozen config) {names : List String}
    (h : textMembers? (s.value "source_extensions") = some names) :
    config.sourceExtensions = names.map .str := by
  have hmembers := hf.sourceExtensions
  rw [members_of_textMembers? h] at hmembers
  exact (Except.ok.inj hmembers).symm

theorem exists_extensions (ha : s.Accepted) (hf : s.Frozen config) : ∃ names : List String,
    config.sourceExtensions = names.map .str ∧ names ≠ [] ∧
      ∀ name ∈ names, Text.startsWith name "." = true := by
  obtain ⟨names, hnames, hne, hall⟩ := ha.extensions
  exact ⟨names, sourceExtensions_eq hf hnames, hne, hall⟩

theorem usable_of_accepted (ha : s.Accepted) (hf : s.Frozen config) : Usable config where
  provider := by
    obtain ⟨p, hp, hv⟩ := ha.provider
    have hprovider := hf.provider
    rw [hv] at hprovider
    rwa [← Except.ok.inj hprovider]
  chunkSize := whole_of_accepted ha (by decide) hf.chunkSize
  limit := by
    rw [Chunk.limitOf]
    exact if_pos (whole_of_accepted ha (by decide) hf.chunkSize)
  maxTokens := whole_of_accepted ha (by decide) hf.maxTokens
  toolTimeout := whole_of_accepted ha (by decide) hf.toolTimeout
  timeout := by
    by_cases hnan : s.value "request_timeout" = .float .nan
    · have hfrozen := hf.requestTimeout
      rw [hnan] at hfrozen
      exact Or.inr (Except.ok.inj hfrozen).symm
    · exact Or.inl ((gtInt_timeout_iff ha hf).mpr hnan)
  extensions := by
    obtain ⟨names, hnames, hne, -⟩ := exists_extensions ha hf
    rw [hnames]
    simpa using hne
  dotted := by
    obtain ⟨names, hnames, -, hall⟩ := exists_extensions ha hf
    rw [hnames]
    intro e he
    obtain ⟨name, hname, rfl⟩ := List.mem_map.mp he
    exact ⟨name, rfl, hall name hname⟩

theorem textMembers?_checks (ha : s.Accepted) (hf : s.Frozen config) :
    textMembers? (s.value "checks") = some config.checks := by
  obtain ⟨names, hnames⟩ := ha.checks
  obtain ⟨members, hmembers, hchecks⟩ := hf.checks
  rw [members_of_textMembers? hnames] at hmembers
  rw [← Except.ok.inj hmembers, mapM_displayed] at hchecks
  rw [hnames, Except.ok.inj hchecks]

end

end Config

/-! ## A project that sets its timeout -/

namespace Settings

theorem accepted_usual : usual.Accepted where
  provider := ⟨"auto", by decide, by simp [usual, value, Entries.field?_cons_str]⟩
  whole := by
    have hwhole : usual.value "chunk_size" = .int 8000 ∧ usual.value "max_tokens" = .int 4096 ∧
        usual.value "tool_timeout" = .int 600 := by
      simp [usual, value, Entries.field?_cons_str]
    simp [wholeKeys, hwhole]
  timeout := by
    have htimeout : Entries.field? usual "request_timeout" =
        some (.float (.ofRatio false 300 1)) := by
      simp only [usual, Entries.field?_cons_str, String.reduceEq, if_false, if_true]
    have hpos : ∀ k : Nat, 1 ≤ 300 * 2 ^ k := fun k =>
      Nat.mul_pos (by decide) (Nat.pow_pos (by decide))
    have hpositive := Double.gtInt_ofRatio Nat.one_pos (hpos 1074)
    rw [value, htimeout, Option.getD_some, isPositive, (Double.gtInt_zero_iff.mp hpositive).1]
    rfl
  checks := by
    have hchecks : usual.value "checks" = .list (Risk.usualNames.map .str) := by
      simp [usual, value, Entries.field?_cons_str]
    rw [hchecks]
    exact ⟨Risk.usualNames, by decide⟩
  extensions := by
    have hextensions : usual.value "source_extensions" = .list [.str ".rb"] := by
      simp [usual, value, Entries.field?_cons_str]
    rw [hextensions]
    exact ⟨[".rb"], rfl, by decide, by decide⟩
  maps := by
    have hmaps : usual.value "prompt_templates" = .map [] ∧
        usual.value "brakeman_options" = .map [] ∧
        usual.value "bundler_audit_options" = .map [] := by
      simp [usual, value, Entries.field?_cons_str]
    have hempty : (Value.map []).isMap = true := rfl
    simp [mapKeys, hmaps, hempty]
  template := Or.inl (by simp [usual, value, Entries.field?_cons_str])

theorem freezable_usual : usual.Freezable where
  timeout := by simp [usual, value, Entries.field?_cons_str]
  texts := by
    have htexts : usual.value "model" = .str "auto" ∧ usual.value "language" = .str "en" ∧
        usual.value "ignore_file" = .str ".codewardignore" ∧
        usual.value "report_output_path" = .str "./codeward_report" ∧
        usual.value "github_actions_path" = .str ".github/workflows/codeward_scan.yml" ∧
        usual.value "gitlab_ci_path" = .str ".gitlab-ci.yml" := by
      simp [usual, value, Entries.field?_cons_str]
    simp [textKeys, htexts, Value.hasText_str]

/-- What the checks let through under a key. -/
structure Allowed (key : String) (v : Value) : Prop where
  provider : key = "ai_provider" → ∃ p ∈ providers, v = .str p := by simp
  whole : key ∈ wholeKeys → ∃ i, 1 ≤ i ∧ v = .int i := by simp [wholeKeys]
  timeout : key = "request_timeout" → isPositive v = true := by simp
  checks : key = "checks" → ∃ names, textMembers? v = some names := by simp
  extensions : key = "source_extensions" → ∃ names, textMembers? v = some names ∧ names ≠ [] ∧
    ∀ name ∈ names, Text.startsWith name "." = true := by simp
  maps : key ∈ mapKeys → v.isMap = true := by simp [mapKeys]
  template : key = "html_template" → v = .null ∨ ∃ path, v = .str path := by simp

theorem accepted_iff_allowed {s : Settings} :
    s.Accepted ↔ ∀ key ∈ usualKeys, Allowed key (s.value key) := by
  constructor
  · intro h key _
    exact ⟨fun hkey => hkey ▸ h.provider, h.whole key, fun hkey => hkey ▸ h.timeout,
      fun hkey => hkey ▸ h.checks, fun hkey => hkey ▸ h.extensions, h.maps key,
      fun hkey => hkey ▸ h.template⟩
  · intro h
    have hwhole : ∀ key ∈ wholeKeys, key ∈ usualKeys := by decide
    have hmaps : ∀ key ∈ mapKeys, key ∈ usualKeys := by decide
    exact ⟨(h "ai_provider" (by decide)).provider rfl,
      fun key hkey => (h key (hwhole key hkey)).whole hkey,
      (h "request_timeout" (by decide)).timeout rfl, (h "checks" (by decide)).checks rfl,
      (h "source_extensions" (by decide)).extensions rfl,
      fun key hkey => (h key (hmaps key hkey)).maps hkey,
      (h "html_template" (by decide)).template rfl⟩

section
variable {s t : Settings} {key : String}
  (hsame : ∀ k ∈ usualKeys, k ≠ key → s.value k = t.value k)
include hsame

/-- Settings are accepted where they differ from accepted ones in one value that is let through. -/
theorem Accepted.of_same (h : t.Accepted) (hvalue : Allowed key (s.value key)) : s.Accepted := by
  rw [accepted_iff_allowed] at h ⊢
  intro k hk
  by_cases hkey : k = key
  · rw [hkey]
    exact hvalue
  · rw [hsame k hk hkey]
    exact h k hk

theorem Freezable.of_same (h : t.Freezable) (hkey : key ∉ textKeys)
    (htimeout : ∀ i, s.value "request_timeout" = .int i → (Double.ofInt? i).isSome = true) :
    s.Freezable where
  timeout := htimeout
  texts k hk := by
    have hknown : ∀ k ∈ textKeys, k ∈ usualKeys := by decide
    rw [hsame k (hknown k hk) fun heq => hkey (heq ▸ hk)]
    exact h.texts k hk

end

end Settings

namespace Config

open Settings

/-- The sections of a file that sets a timeout. -/
def timeoutSections (x : Double) : Entries :=
  [(.str "ai", .map [(.str "request_timeout", .float x)])]

def isTimeoutSections (x : Double) : Except Yaml.Stop Value → Bool
  | .ok (.map [(.str k, .map [(.str l, .float y)])]) =>
    k == "ai" && l == "request_timeout" && y == x
  | _ => false

theorem ofSections_timeoutSections (x : Double) : ofSections (timeoutSections x) =
    [(.str "request_timeout", .float x)] := by
  simp [timeoutSections, ofSections, putBackend, putFrom, putValue, value, section?,
    Entries.field?_cons_str, Entries.insert, Value.entries?, Value.opened, Value.isNull]

section
variable {text : String} {x : Double}

theorem read_timeoutSections (h : isTimeoutSections x (Yaml.read text) = true) :
    Yaml.read text = .ok (.map (timeoutSections x)) := by
  unfold isTimeoutSections at h
  split at h
  · rename_i k l y hread
    simp only [Bool.and_eq_true, beq_iff_eq] at h
    obtain ⟨⟨rfl, rfl⟩, rfl⟩ := h
    exact hread
  · cases h

/-- The settings of a project whose file sets a timeout. -/
def withTimeout (x : Double) : Settings :=
  layered (ofSections (timeoutSections x)) (ofEnvironment []).value (ofArguments [])

theorem value_withTimeout : value (withTimeout x) "request_timeout" = .float x ∧
    ∀ key ∈ usualKeys, key ≠ "request_timeout" →
      value (withTimeout x) key = value Settings.usual key := by
  have hlayers : withTimeout x = merge Settings.usual [(.str "request_timeout", .float x)] := by
    rw [withTimeout, ofSections_timeoutSections]
    rfl
  have hvalue := value_merge_single Settings.usual "request_timeout"
    (rfl : (Value.float x).entries? = none)
  rw [← hlayers] at hvalue
  refine ⟨(hvalue _).trans (if_pos rfl), fun key _ hkey => ?_⟩
  rw [hvalue, if_neg hkey.symm]

/-- A timeout that the check lets through leaves nothing to refuse. -/
theorem accepted_withTimeout (hx : isPositive (.float x) = true) :
    (withTimeout x).Accepted ∧ (withTimeout x).Freezable := by
  obtain ⟨hvalue, hsame⟩ := value_withTimeout (x := x)
  refine ⟨accepted_usual.of_same hsame ?_, freezable_usual.of_same hsame (by decide) ?_⟩
  · rw [hvalue]
    exact { timeout := fun _ => hx }
  · intro i hi
    cases hvalue.symm.trans hi

theorem ofFile_timeoutSections (text : String) (hascii : text.toList.all (·.toNat < 0x80) = true)
    (hlines : Text.newlinesUnified text.toList = text.toList)
    (hshort : (Text.Utf8.encode text).length ≤ 8192)
    (hread : isTimeoutSections x (Yaml.read text) = true) :
    (Settings.ofFile (projectWith text).files (pathIn (projectWith text))).run.value =
      .ok (ofSections (timeoutSections x)) :=
  ofFile_projectWith (fileText_projectWith hascii hlines hshort) (read_timeoutSections hread) rfl

end

/-! ## Every configuration that is built -/

section
variable {source : ConfigSource}

/-- What is built comes of accepted settings, frozen. -/
theorem accepted_of_build {config : Config} (h : (build source).run.value = .ok config) :
    ∃ file, (Settings.ofFile source.files (pathIn source)).run.value = .ok file ∧
      let s := layered file (ofEnvironment source.environment).value (ofArguments source.arguments)
      s.Accepted ∧ s.Frozen config := by
  rw [value_build] at h
  cases hfile : (Settings.ofFile source.files (pathIn source)).run.value with
  | error f =>
    rw [hfile] at h
    cases h
  | ok file =>
    rw [hfile] at h
    have hcomplete := complete_layered file (ofEnvironment source.environment).value
      (ofArguments source.arguments)
    obtain ⟨ha, hconfig⟩ := (value_ofChecked_eq_ok_iff hcomplete).mp h
    exact ⟨file, rfl, ha, frozen_ofSettings hcomplete hconfig⟩

theorem exists_build {file : Settings}
    (hfile : (Settings.ofFile source.files (pathIn source)).run.value = .ok file)
    (ha : (layered file (ofEnvironment source.environment).value
      (ofArguments source.arguments)).Accepted)
    (hfreezable : (layered file (ofEnvironment source.environment).value
      (ofArguments source.arguments)).Freezable) :
    ∃ config, (build source).run.value = .ok config := by
  have hcomplete := complete_layered file (ofEnvironment source.environment).value
    (ofArguments source.arguments)
  obtain ⟨config, hconfig⟩ := (returns_ofSettings hcomplete ha.wellTyped).mpr hfreezable
  refine ⟨config, ?_⟩
  rw [value_build, hfile]
  exact (value_ofChecked_eq_ok_iff hcomplete).mpr ⟨ha, hconfig⟩

end

/-- **Every configuration that is built can be used**, whatever its file, the environment and the
arguments hold: its checks are the texts that the settings list, and its timeout is above zero
except where the setting is not a number. Of accepted settings that can be written one is built. -/
theorem usable_of_build (source : ConfigSource) :
    (∀ config, (build source).run.value = .ok config → Usable config ∧
      ∃ file, (Settings.ofFile source.files (pathIn source)).run.value = .ok file ∧
        let s :=
          layered file (ofEnvironment source.environment).value (ofArguments source.arguments)
        textMembers? (s.value "checks") = some config.checks ∧
        (config.requestTimeout.gtInt 0 = true ↔ s.value "request_timeout" ≠ .float .nan)) ∧
    ∀ file, (Settings.ofFile source.files (pathIn source)).run.value = .ok file →
      let s := layered file (ofEnvironment source.environment).value (ofArguments source.arguments)
      s.Accepted → s.Freezable → ∃ config, (build source).run.value = .ok config := by
  refine ⟨fun config h => ?_, fun file hfile => exists_build hfile⟩
  obtain ⟨file, hfile, ha, hf⟩ := accepted_of_build h
  exact ⟨usable_of_accepted ha hf, file, hfile, textMembers?_checks ha hf, gtInt_timeout_iff ha hf⟩

theorem usable_of_build_inf :
    let source := projectWith "ai: \x7brequest_timeout: .inf\x7d\n"
    ∃ config, (build source).run.value = .ok config ∧ Usable config ∧
      textMembers? (value (withTimeout (.infinite false)) "checks") = some config.checks ∧
      config.requestTimeout.gtInt 0 = true := by
  intro source
  have hfile : (Settings.ofFile source.files (pathIn source)).run.value =
      .ok (ofSections (timeoutSections (.infinite false))) :=
    ofFile_timeoutSections _ (by decide) (by decide) (by decide) (by decide +kernel)
  have hsettings := accepted_withTimeout (x := .infinite false) (by decide)
  obtain ⟨hbuilt, hexists⟩ := usable_of_build source
  obtain ⟨config, hconfig⟩ := hexists _ hfile hsettings.1 hsettings.2
  obtain ⟨husable, file, hfile', hchecks, htimeout⟩ := hbuilt config hconfig
  obtain rfl := Except.ok.inj (hfile.symm.trans hfile')
  refine ⟨config, hconfig, husable, hchecks, htimeout.mpr fun hnan => ?_⟩
  exact nomatch value_withTimeout.1.symm.trans hnan

/-- A timeout that is not a number passes the check and is above nothing. -/
theorem build_timeout_nan : ∃ config,
    (build (projectWith "ai: \x7brequest_timeout: .nan\x7d\n")).run.value = .ok config ∧
      config.requestTimeout = .nan ∧ config.requestTimeout.gtInt 0 = false := by
  have hfile := ofFile_timeoutSections "ai: \x7brequest_timeout: .nan\x7d\n" (x := .nan)
    (by decide) (by decide) (by decide) (by decide +kernel)
  have hsettings := accepted_withTimeout (x := .nan) (by decide)
  obtain ⟨config, hconfig⟩ := exists_build hfile hsettings.1 hsettings.2
  obtain ⟨file, hfile', -, hf⟩ := accepted_of_build hconfig
  obtain rfl := Except.ok.inj (hfile.symm.trans hfile')
  have hfrozen : (value (withTimeout .nan) "request_timeout").toDouble =
      .ok config.requestTimeout := hf.requestTimeout
  rw [value_withTimeout.1] at hfrozen
  have hnan : config.requestTimeout = .nan := (Except.ok.inj hfrozen).symm
  refine ⟨config, hconfig, hnan, ?_⟩
  rw [hnan]
  rfl

end Config

end SecurityScan
