import SecurityScan.Proofs.Lossless
import SecurityScan.Proofs.Overlay

/-!
# Sections of a configuration file

Where in a file each setting is written. A section gives its own settings and no others, and null
gives none. Section `ai` alone gives its keys on under their own names, so that the name of a setting
of another section changes that setting there.
-/

namespace SecurityScan

namespace Entries

theorem field?_erase (es : Entries) (key name : String) :
    (es.erase (.str key)).field? name = if key = name then none else es.field? name := by
  rw [erase]
  split
  · rename_i h
    rw [field?_eq_none_iff]
    intro e he hname
    have hother := (List.mem_filter.mp he).2
    simp [hname, h] at hother
  · rename_i h
    exact field?_filter es fun v => by simp [Ne.symm h]

end Entries

namespace Settings

/-! ## What a file gives -/

/-- What is given at a path of keys through sections. Null gives nothing. -/
def given? (nested : Entries) : List String → Option Value
  | [] => none
  | [key] => (nested.field? key).filter (!·.isNull)
  | name :: path => (section? nested name).bind (given? · path)

theorem given?_section (nested : Entries) (name key : String) (path : List String) :
    given? nested (name :: key :: path) = (section? nested name).bind (given? · (key :: path)) := rfl

/-- The places of a file outside section `ai`, each with its setting. -/
def places : List (List String × String) := [
  (["checks"], "checks"),
  (["language"], "language"),
  (["prompt_templates"], "prompt_templates"),
  (["chunk_size"], "chunk_size"),
  (["model"], "model"),
  (["report", "output_path"], "report_output_path"),
  (["report", "html_template"], "html_template"),
  (["static_analysers", "brakeman", "options"], "brakeman_options"),
  (["static_analysers", "bundler_audit", "options"], "bundler_audit_options"),
  (["static_analysers", "timeout"], "tool_timeout"),
  (["ci_setup", "github_actions_path"], "github_actions_path"),
  (["ci_setup", "gitlab_ci_path"], "gitlab_ci_path"),
  (["files", "source_extensions"], "source_extensions"),
  (["files", "ignore_file"], "ignore_file")]

/-- The places in section `ai`, each with its setting. -/
def backendPlaces : List (List String × String) := [
  (["ai", "provider"], "ai_provider"),
  (["ai", "model"], "model"),
  (["ai", "max_tokens"], "max_tokens"),
  (["ai", "request_timeout"], "request_timeout"),
  (["ai", "anthropic_api_key"], "anthropic_api_key"),
  (["ai", "openai_api_key"], "openai_api_key"),
  (["ai", "ollama_endpoint"], "ollama_endpoint")]

/-- The settings of section `ai`. -/
def ofBackend (nested : Entries) : Settings := putBackend [] ((section? nested "ai").getD [])

theorem putFrom_eq (s : Settings) (fields : Option Entries) (keys : List (String × String)) :
    s.putFrom fields keys =
      putAll (·.2) (fun k => fields.bind (given? · [k.1])) s keys := by
  cases fields with
  | none =>
    rw [putFrom, putAll]
    induction keys with
    | nil => rfl
    | cons k keys ih => exact ih
  | some es =>
    rw [putFrom, putAll]
    simp only [putValue_eq]
    rfl

theorem ofSections_eq (nested : Entries) : ofSections nested =
    putAll (·.2) (fun p => given? nested p.1) (ofBackend nested) places := by
  rw [ofSections]
  simp only [putFrom_eq, putAll, places, List.map_cons, List.map_nil, List.foldl_cons,
    List.foldl_nil, Option.bind_assoc]
  rfl

theorem field?_ofSections (nested : Entries) (key : String) :
    Entries.field? (ofSections nested) key =
      ((places.find? (·.2 == key)).bind (given? nested ·.1)).or
        (Entries.field? (ofBackend nested) key) := by
  have hnodup : (places.map (·.2)).Nodup := by decide
  rw [ofSections_eq, field?_putAll _ _ hnodup]

/-! ## Section ai -/

theorem given?_cons_key (e : Value × Value) (es : Entries) (key : String) :
    given? (e :: es) [key] = if e.1.same (.str key) = true then some e.2 |>.filter (!·.isNull)
      else given? es [key] := by
  rw [given?, Entries.field?_cons]
  split <;> rfl

/-- A key of which there is no second one is not given further on. -/
theorem given?_of_distinct {e : Value × Value} {es : Entries} (h : Entries.Distinct (e :: es))
    {key : String} (hkey : e.1.same (.str key) = true) : given? es [key] = none := by
  have hnone : Entries.field? es key = none := by
    rw [Entries.field?_eq_none_iff]
    intro f hf hfkey
    have hne := (Entries.distinct_cons.mp h).1 f hf
    rw [Value.same_str_iff.mp hkey, hfkey] at hne
    simp at hne
  rw [given?, hnone]
  rfl

theorem given?_backend (nested : Entries) (key : String) :
    given? ((section? nested "ai").getD []) [key] = given? nested ["ai", key] := by
  rw [given?_section]
  cases section? nested "ai" <;> rfl

theorem putBackend_cons (s : Settings) (e : Value × Value) (es : Entries) :
    putBackend s (e :: es) = putBackend (if e.2.isNull then s
      else s.insert (if e.1.same (.str "provider") then .str "ai_provider" else e.1) e.2) es := rfl

/-- All keys of the section but the provider's are given on as they are. -/
theorem field?_putBackend {fields : Entries} (h : fields.Distinct) (s : Settings) {key : String}
    (hprovider : key ≠ "provider") (hai : key ≠ "ai_provider") :
    Entries.field? (s.putBackend fields) key = (given? fields [key]).or (Entries.field? s key) := by
  induction fields generalizing s with
  | nil => rfl
  | cons e es ih =>
    have htarget : (if e.1.same (.str "provider") = true then Value.str "ai_provider" else e.1).same
        (.str key) = e.1.same (.str key) := by
      split
      · rename_i he
        rw [Value.same_str_iff.mp he]
        simp [Ne.symm hai, Ne.symm hprovider]
      · rfl
    rw [putBackend_cons, ih (Entries.distinct_cons.mp h).2, given?_cons_key]
    by_cases hkey : e.1.same (.str key) = true
    · rw [given?_of_distinct h hkey, if_pos hkey]
      cases hnull : e.2.isNull with
      | true => simp [Option.filter, hnull]
      | false => simp [Option.filter, hnull, Entries.field?_insert, htarget, hkey]
    · rw [if_neg hkey]
      cases hnull : e.2.isNull with
      | true => simp
      | false => simp [Entries.field?_insert, htarget, hkey]

/-- The provider is the one of the section as long as there is no other under the name of the
setting. -/
theorem field?_putBackend_provider {fields : Entries} (h : fields.Distinct) (s : Settings)
    (hai : given? fields ["ai_provider"] = none) :
    Entries.field? (s.putBackend fields) "ai_provider" =
      (given? fields ["provider"]).or (Entries.field? s "ai_provider") := by
  induction fields generalizing s with
  | nil => rfl
  | cons e es ih =>
    rw [given?_cons_key] at hai
    rw [putBackend_cons, given?_cons_key]
    by_cases hkey : e.1.same (.str "ai_provider") = true
    · rw [if_pos hkey] at hai
      have hnull : e.2.isNull = true := by simpa using hai
      have hprovider : ¬e.1.same (.str "provider") = true := by
        rw [Value.same_str_iff.mp hkey]
        simp
      rw [ih (Entries.distinct_cons.mp h).2 _ (given?_of_distinct h hkey), if_pos hnull,
        if_neg hprovider]
    · rw [if_neg hkey] at hai
      rw [ih (Entries.distinct_cons.mp h).2 _ hai]
      by_cases hprovider : e.1.same (.str "provider") = true
      · rw [given?_of_distinct h hprovider, if_pos hprovider, if_pos hprovider]
        cases hnull : e.2.isNull with
        | true => simp [Option.filter, hnull]
        | false => simp [Option.filter, hnull, Entries.field?_insert]
      · rw [if_neg hprovider, if_neg hprovider]
        cases hnull : e.2.isNull with
        | true => simp
        | false => simp [Entries.field?_insert, hkey]

section
variable {nested : Entries} (h : (Value.map nested).DistinctKeys)
include h

theorem distinct_backend : Entries.Distinct ((section? nested "ai").getD []) := by
  cases hs : section? nested "ai" with
  | none => exact Entries.distinct_nil
  | some es => exact (Value.distinctKeys_map.mp (distinctKeys_section? h hs)).1

theorem field?_ofBackend {key : String} (hprovider : key ≠ "provider") (hai : key ≠ "ai_provider") :
    Entries.field? (ofBackend nested) key = given? nested ["ai", key] := by
  rw [ofBackend, field?_putBackend (distinct_backend h) [] hprovider hai, Entries.field?_nil,
    Option.or_none, given?_backend]

theorem field?_ofBackend_provider (hai : given? nested ["ai", "ai_provider"] = none) :
    Entries.field? (ofBackend nested) "ai_provider" = given? nested ["ai", "provider"] := by
  rw [ofBackend, field?_putBackend_provider (distinct_backend h) [], Entries.field?_nil,
    Option.or_none, given?_backend]
  rwa [given?_backend]

end

/-! ## Files that give the same -/

/-- What is given at the place of a setting. -/
def givenFor? (nested : Entries) (ps : List (List String × String)) (key : String) : Option Value :=
  (ps.find? (·.2 == key)).bind fun p => given? nested p.1

/-- The keys of section `ai`. -/
def backendKeys : List String := ["provider", "model", "max_tokens", "request_timeout",
  "anthropic_api_key", "openai_api_key", "ollama_endpoint"]

/-- Section `ai` gives nothing under the name of a setting that is none of its own keys. -/
def Tidy (nested : Entries) : Prop :=
  ∀ key ∈ usualKeys, key ∉ backendKeys → given? nested ["ai", key] = none

/-- In a tidy file every setting is what is given at its own places. -/
theorem field?_ofSections_tidy {nested : Entries} (h : (Value.map nested).DistinctKeys)
    (htidy : Tidy nested) {key : String} (hkey : key ∈ usualKeys) :
    Entries.field? (ofSections nested) key =
      (givenFor? nested places key).or (givenFor? nested backendPlaces key) := by
  rw [field?_ofSections, givenFor?]
  congr 1
  by_cases hai : key = "ai_provider"
  · subst hai
    rw [field?_ofBackend_provider h (htidy _ hkey (by decide))]
    rfl
  · have hprovider : ∀ key ∈ usualKeys, key ≠ "provider" := by decide
    have hown : ∀ key ∈ usualKeys, key ≠ "ai_provider" → key ∈ backendKeys →
        backendPlaces.find? (·.2 == key) = some (["ai", key], key) := by decide
    have hother : ∀ key ∈ usualKeys, key ≠ "ai_provider" → key ∉ backendKeys →
        backendPlaces.find? (·.2 == key) = none := by decide
    rw [field?_ofBackend h (hprovider key hkey) hai, givenFor?]
    by_cases hbackend : key ∈ backendKeys
    · rw [hown key hkey hai hbackend]
      rfl
    · rw [hother key hkey hai hbackend, htidy key hkey hbackend]
      rfl

theorem givenFor?_congr {m n : Entries} {ps : List (List String × String)}
    (h : ∀ p ∈ ps, given? m p.1 = given? n p.1) (key : String) :
    givenFor? m ps key = givenFor? n ps key := by
  rw [givenFor?, givenFor?]
  cases hp : ps.find? (·.2 == key) with
  | none => rfl
  | some p => exact h p (List.mem_of_find?_eq_some hp)

/-- Files that give the same everywhere have the same settings. -/
theorem ofSections_congr {m n : Entries} (hplaces : ∀ p ∈ places, given? m p.1 = given? n p.1)
    (hbackend : ofBackend m = ofBackend n) : ofSections m = ofSections n := by
  rw [ofSections_eq, ofSections_eq, hbackend, putAll, putAll]
  exact List.foldl_ext _ _ _ fun s p hp => by rw [hplaces p hp]

theorem given?_congr {m n : Entries} {name : String} (h : m.field? name = n.field? name)
    (path : List String) : given? m (name :: path) = given? n (name :: path) := by
  cases path with
  | nil => rw [given?, given?, h]
  | cons key path => rw [given?_section, given?_section, section?, section?, h]

/-! ## Equal builds -/

theorem field?_layered_congr {f g : Settings} (hf : Entries.Distinct f) (hg : Entries.Distinct g)
    {key : String} (h : Entries.field? f key = Entries.field? g key) (environment : Environment)
    (arguments : Entries) :
    value (layered f (ofEnvironment environment).value (ofArguments arguments)) key =
      value (layered g (ofEnvironment environment).value (ofArguments arguments)) key := by
  rw [value, value, layered, layered, field?_merge (distinct_ofArguments arguments),
    field?_merge (distinct_ofArguments arguments), field?_merge (distinct_ofEnvironment environment),
    field?_merge (distinct_ofEnvironment environment), field?_merge hf, field?_merge hg, h]

/-- A build sees nothing of a file but its settings. -/
theorem build_congr {a b : ConfigSource} {f g : Settings}
    (ha : (ofFile a.files (Config.pathIn a)).run.value = .ok f)
    (hb : (ofFile b.files (Config.pathIn b)).run.value = .ok g)
    (henvironment : a.environment = b.environment) (harguments : a.arguments = b.arguments)
    (hf : Entries.Distinct f) (hg : Entries.Distinct g)
    (h : ∀ key ∈ usualKeys, Entries.field? f key = Entries.field? g key) :
    (Config.build a).run.value = (Config.build b).run.value := by
  have hvalue : ∀ key ∈ usualKeys, _ = _ := fun key hkey =>
    field?_layered_congr hf hg (h key hkey) b.environment b.arguments
  rw [value_build, value_build, ha, hb, henvironment, harguments]
  dsimp only
  rw [value_ofChecked, value_ofChecked, issues_congr (complete_layered ..) (complete_layered ..) hvalue,
    ofSettings_congr (complete_layered ..) (complete_layered ..) hvalue]

/-! ## What is left out -/

/-- A file without the entry at a path of keys. -/
def without (nested : Entries) : List String → Entries
  | [] => nested
  | [key] => nested.erase (.str key)
  | name :: path =>
    match section? nested name with
    | none => nested
    | some es => nested.setField name (.map (without es path))

theorem without_section (nested : Entries) (name key : String) (path : List String) :
    without nested (name :: key :: path) = match section? nested name with
      | none => nested
      | some es => nested.setField name (.map (without es (key :: path))) := rfl

theorem given?_eq_none_iff {nested : Entries} {key : String} : given? nested [key] = none ↔
    ∀ v, nested.field? key = some v → v.isNull = true := by
  rw [given?]
  cases nested.field? key with
  | none => simp
  | some v => simp

theorem section?_of_given?_eq_none {nested : Entries} {name : String}
    (h : given? nested [name] = none) : section? nested name = none := by
  rw [section?]
  cases hv : nested.field? name with
  | none => rfl
  | some v =>
    have hnull := given?_eq_none_iff.mp h v hv
    cases v with
    | null => rfl
    | _ => cases hnull

theorem section?_erase {nested : Entries} {key : String} (h : given? nested [key] = none)
    (name : String) : section? (nested.erase (.str key)) name = section? nested name := by
  by_cases hname : key = name
  · rw [← hname, section?_of_given?_eq_none h, section?, Entries.field?_erase, if_pos rfl]
    rfl
  · rw [section?, section?, Entries.field?_erase, if_neg hname]

theorem section?_setField (nested : Entries) (name : String) (es : Entries) (other : String) :
    Settings.section? (nested.setField name (.map es)) other =
      if name = other then some es else section? nested other := by
  rw [section?, Entries.field?_setField]
  split
  · rfl
  · rfl

/-- Without an entry that gives nothing the same is given everywhere but above it. -/
theorem given?_without {nested : Entries} {path : List String} (h : given? nested path = none)
    {place : List String} (hplace : ¬(place <+: path ∧ place ≠ path)) :
    given? (without nested path) place = given? nested place := by
  induction path generalizing nested place with
  | nil => rfl
  | cons name path ih =>
    cases path with
    | nil =>
      match place with
      | [] => rfl
      | [key] =>
        rw [without, given?, given?, Entries.field?_erase]
        split
        · rename_i hkey
          exact (hkey ▸ h).symm
        · rfl
      | other :: key :: place =>
        rw [without, given?_section, given?_section, section?_erase h]
    | cons key path =>
      rw [without_section]
      cases hsection : section? nested name with
      | none => rfl
      | some es =>
        rw [given?_section, hsection] at h
        match place with
        | [] => rfl
        | [other] =>
          have hne : name ≠ other := by
            rintro rfl
            exact hplace ⟨⟨key :: path, rfl⟩, by simp⟩
          rw [given?, given?, Entries.field?_setField, if_neg hne]
        | other :: below :: place =>
          rw [given?_section, given?_section, section?_setField]
          split
          · rename_i hother
            subst hother
            rw [hsection]
            refine ih h fun hbelow => hplace ⟨List.cons_prefix_cons.mpr ⟨rfl, hbelow.1⟩, ?_⟩
            exact fun heq => hbelow.2 (List.cons.inj heq).2
          · rfl

/-- What is null in section `ai` is not given on. -/
theorem putBackend_erase {fields : Entries} (h : fields.Distinct) {key : String}
    (hkey : given? fields [key] = none) (s : Settings) :
    s.putBackend (fields.erase (.str key)) = s.putBackend fields := by
  have hgiven : ∀ es : Entries, s.putBackend es = s.putBackend (es.filter (!·.2.isNull)) := by
    intro es
    rw [putBackend, putBackend, List.foldl_filter]
    refine List.foldl_ext _ _ _ fun t e _ => ?_
    cases e.2.isNull <;> rfl
  rw [hgiven, hgiven fields, Entries.erase, List.filter_filter]
  congr 1
  refine List.filter_congr fun e he => ?_
  cases hsame : e.1.same (.str key) with
  | false => simp
  | true =>
    have hfield : fields.field? key = some e.2 := by
      have hfound := Entries.get?_of_mem h he (by rw [Value.same_str_iff.mp hsame]; simp)
      rwa [Value.same_str_iff.mp hsame] at hfound
    rw [given?_eq_none_iff.mp hkey _ hfield]
    rfl

/-- Sections, and sections within them. -/
def sectionPaths : List (List String) := [["ai"], ["report"], ["static_analysers"],
  ["static_analysers", "brakeman"], ["static_analysers", "bundler_audit"], ["ci_setup"], ["files"]]

theorem ofBackend_without {nested : Entries} (h : (Value.map nested).DistinctKeys)
    {path : List String} (hnone : given? nested path = none)
    (hpath : path.head? = some "ai" → path.length ≤ 2) :
    ofBackend (without nested path) = ofBackend nested := by
  rw [ofBackend, ofBackend]
  match path with
  | [] => rfl
  | [key] => rw [without, section?_erase hnone]
  | name :: key :: path =>
    rw [without_section]
    cases hsection : section? nested name with
    | none => rfl
    | some es =>
      dsimp only
      rw [section?_setField]
      split
      · rename_i hname
        subst hname
        obtain rfl : path = [] := by
          have := hpath rfl
          simpa using this
        rw [given?_section, hsection] at hnone
        have hes := (Value.distinctKeys_map.mp (distinctKeys_section? h hsection)).1
        rw [hsection]
        exact putBackend_erase hes hnone []
      · rfl

/-- Null for a section or at the place of a setting is the same as nothing. -/
theorem ofSections_without {nested : Entries} (h : (Value.map nested).DistinctKeys)
    {path : List String} (hpath : path ∈ sectionPaths ++ (places ++ backendPlaces).map (·.1))
    (hnone : given? nested path = none) : ofSections (without nested path) = ofSections nested := by
  have habove : ∀ path ∈ sectionPaths ++ (places ++ backendPlaces).map (·.1), ∀ p ∈ places,
      ¬(p.1 <+: path ∧ p.1 ≠ path) := by decide
  have hshort : ∀ path ∈ sectionPaths ++ (places ++ backendPlaces).map (·.1),
      path.head? = some "ai" → path.length ≤ 2 := by decide
  exact ofSections_congr (fun p hp => given?_without hnone (habove path hpath p hp))
    (ofBackend_without h hnone (hshort path hpath))

/-- **Sections keep to themselves.** Every setting of a file is what its own place gives, and else
what section `ai` gives under its name. So files that give the same at all places lead to the same
configuration, unless section `ai` of one of them has something under the name of a setting that is
none of its own keys. Each other section has an influence on its own settings alone, and none but
through its own places. A section or a value that is null is the same as none. -/
theorem sections_apart {m n : Entries} (hm : (Value.map m).DistinctKeys)
    (hn : (Value.map n).DistinctKeys) :
    (∀ key, key ≠ "provider" → key ≠ "ai_provider" → Entries.field? (ofSections m) key =
      (givenFor? m places key).or (given? m ["ai", key])) ∧
    (given? m ["ai", "ai_provider"] = none →
      Entries.field? (ofSections m) "ai_provider" = given? m ["ai", "provider"]) ∧
    (Tidy m → Tidy n → (∀ p ∈ places ++ backendPlaces, given? m p.1 = given? n p.1) →
      ∀ a b : ConfigSource, a.environment = b.environment → a.arguments = b.arguments →
        (ofFile a.files (Config.pathIn a)).run.value = .ok (ofSections m) →
        (ofFile b.files (Config.pathIn b)).run.value = .ok (ofSections n) →
        (Config.build a).run.value = (Config.build b).run.value) ∧
    (∀ name ∈ ["report", "static_analysers", "ci_setup", "files"],
      (∀ other, other ≠ name → m.field? other = n.field? other) →
        (∀ key, (∀ p ∈ places, p.2 = key → p.1.head? ≠ some name) →
          Entries.field? (ofSections m) key = Entries.field? (ofSections n) key) ∧
        ((∀ p ∈ places, p.1.head? = some name → given? m p.1 = given? n p.1) →
          ofSections m = ofSections n)) ∧
    ∀ path ∈ sectionPaths ++ (places ++ backendPlaces).map (·.1), given? m path = none →
      ofSections (without m path) = ofSections m := by
  refine ⟨fun key hprovider hai => ?_, fun hai => ?_,
    fun htidy htidy' hsame a b henvironment harguments ha hb => ?_, fun name hname hother => ?_,
    fun path hpath => ofSections_without hm hpath⟩
  · rw [field?_ofSections, field?_ofBackend hm hprovider hai, givenFor?]
  · rw [field?_ofSections, field?_ofBackend_provider hm hai]
    rfl
  · have hdistinct : ∀ {nested : Entries}, (Value.map nested).DistinctKeys →
        Entries.Distinct (ofSections nested) := fun h =>
      (Value.distinctKeys_map.mp (distinctKeys_ofSections h)).1
    refine build_congr ha hb henvironment harguments (hdistinct hm) (hdistinct hn) fun key hkey => ?_
    rw [field?_ofSections_tidy hm htidy hkey, field?_ofSections_tidy hn htidy' hkey,
      givenFor?_congr fun p hp => hsame p (List.mem_append_left _ hp),
      givenFor?_congr fun p hp => hsame p (List.mem_append_right _ hp)]
  · have hai : "ai" ≠ name := by
      rintro rfl
      simp at hname
    have hbackend : ofBackend m = ofBackend n := by
      rw [ofBackend, ofBackend, section?, section?, hother "ai" hai]
    have hplaces : ∀ p ∈ places, p.1.head? ≠ some name → given? m p.1 = given? n p.1 := by
      rintro ⟨path, key⟩ - hhead
      cases path with
      | nil => rfl
      | cons other path => exact given?_congr (hother other fun h => hhead (h ▸ rfl)) path
    refine ⟨fun key hkey => ?_, fun hown => ?_⟩
    · rw [field?_ofSections, field?_ofSections, hbackend]
      cases hfind : places.find? (·.2 == key) with
      | none => rfl
      | some p =>
        have hp := hplaces p (List.mem_of_find?_eq_some hfind)
          (hkey p (List.mem_of_find?_eq_some hfind) (by simpa using List.find?_some hfind))
        rw [Option.bind_some, Option.bind_some, hp]
    · refine ofSections_congr (fun p hp => ?_) hbackend
      by_cases hhead : p.1.head? = some name
      · exact hown p hp hhead
      · exact hplaces p hp hhead

end Settings

namespace Config

open Settings

/-! ## Files with one key in section ai -/

def isBackendSections (key : String) (i : Int) : Except Yaml.Stop Value → Bool
  | .ok (.map [(.str k, .map [(.str l, .int j)])]) => k == "ai" && l == key && j == i
  | _ => false

theorem read_backendSections {text key : String} {i : Int}
    (h : isBackendSections key i (Yaml.read text) = true) :
    Yaml.read text = .ok (.map (backendSections key (.int i))) := by
  unfold isBackendSections at h
  split at h
  · rename_i k l j hread
    simp only [Bool.and_eq_true, beq_iff_eq] at h
    obtain ⟨⟨rfl, rfl⟩, rfl⟩ := h
    exact hread
  · cases h

/-- The sections of a file with nothing in section `ai`. -/
def emptySections : Entries := [(.str "ai", .map [])]

def isEmptySections : Except Yaml.Stop Value → Bool
  | .ok (.map [(.str k, .map [])]) => k == "ai"
  | _ => false

theorem layered_emptySections :
    layered (ofSections emptySections) (ofEnvironment []).value (ofArguments []) =
      Settings.usual := by
  have hsections : ofSections emptySections = [] := by
    simp [emptySections, ofSections, putBackend, putFrom, putValue, value, section?,
      Entries.field?_cons_str, Value.entries?, Value.opened, Value.isNull]
  rw [hsections]
  rfl

theorem ofFile_emptySections :
    (Settings.ofFile (projectWith "ai: \x7b\x7d\n").files
      (pathIn (projectWith "ai: \x7b\x7d\n"))).run.value = .ok (ofSections emptySections) := by
  have h : isEmptySections (Yaml.read "ai: \x7b\x7d\n") = true := by decide +kernel
  have hread : Yaml.read "ai: \x7b\x7d\n" = .ok (.map emptySections) := by
    unfold isEmptySections at h
    split at h
    · rename_i k hread
      rw [hread, beq_iff_eq.mp h]
      rfl
    · cases h
  exact ofFile_projectWith (fileText_projectWith (by decide) (by decide) (by decide)) hread rfl

/-- A file with section `ai` alone gives nothing at the places outside it. -/
theorem given?_places (v : Value) : ∀ p ∈ places, given? [(.str "ai", v)] p.1 = none := by
  simp [places, given?, section?, Entries.field?_cons_str]

theorem given?_emptySections (key : String) : given? emptySections ["ai", key] = none := by
  rw [emptySections, given?_section, section?, Entries.field?_cons_str, if_pos rfl]
  rfl

theorem given?_backendSections (key : String) (i : Int) (name : String) :
    given? (backendSections key (.int i)) ["ai", name] =
      if key = name then some (.int i) else none := by
  rw [backendSections, given?_section, section?, Entries.field?_cons_str, if_pos rfl]
  show (Entries.field? [(.str key, .int i)] name).filter (!·.isNull) = _
  rw [Entries.field?_cons_str]
  split
  · rfl
  · rfl

theorem distinctKeys_backendSections (key : String) (i : Int) :
    (Value.map (backendSections key (.int i))).DistinctKeys := by
  simp [backendSections, Value.DistinctKeys, Value.entriesDistinctKeys, Entries.Distinct]

theorem distinctKeys_emptySections : (Value.map emptySections).DistinctKeys := by
  simp [emptySections, Value.DistinctKeys, Value.entriesDistinctKeys, Entries.Distinct]

/-- A key in section `ai` that is no setting. -/
theorem sections_apart_seed : (build (projectWith "ai: \x7bseed: 1\x7d\n")).run.value =
    (build (projectWith "ai: \x7b\x7d\n")).run.value := by
  have hseed : ∀ key ∈ usualKeys ++ backendKeys,
      given? (backendSections "seed" (.int 1)) ["ai", key] = none := by
    have hne : ∀ key ∈ usualKeys ++ backendKeys, "seed" ≠ key := by decide
    intro key hkey
    rw [given?_backendSections, if_neg (hne key hkey)]
  have hsame : ∀ p ∈ places ++ backendPlaces,
      given? (backendSections "seed" (.int 1)) p.1 = given? emptySections p.1 := by
    have hpath : ∀ p ∈ backendPlaces, ∃ key ∈ backendKeys, p.1 = ["ai", key] := by decide
    intro p hp
    obtain hp | hp := List.mem_append.mp hp
    · exact (given?_places _ p hp).trans (given?_places _ p hp).symm
    · obtain ⟨key, hkey, hp⟩ := hpath p hp
      rw [hp, hseed key (List.mem_append_right _ hkey), given?_emptySections]
  have hread : Yaml.read "ai: \x7bseed: 1\x7d\n" =
      .ok (.map (backendSections "seed" (.int 1))) :=
    read_backendSections (by decide +kernel)
  have hfile := ofFile_projectWith (fileText_projectWith (by decide) (by decide) (by decide)) hread
    rfl
  exact (sections_apart (distinctKeys_backendSections "seed" 1) distinctKeys_emptySections).2.2.1
    (fun key hkey _ => hseed key (List.mem_append_left _ hkey))
    (fun key _ _ => given?_emptySections key) hsame
    (projectWith _) (projectWith _) rfl rfl hfile ofFile_emptySections

theorem accepted_withBackend_chunk_size {i : Int} (hi : 1 ≤ i) :
    (withBackend "chunk_size" (.int i)).Accepted ∧ (withBackend "chunk_size" (.int i)).Freezable := by
  have hvalue : ∀ name, value (withBackend "chunk_size" (.int i)) name =
      if "chunk_size" = name then .int i else value Settings.usual name :=
    value_withBackend (by decide) rfl rfl
  have hsame : ∀ key ∈ usualKeys, key ≠ "chunk_size" →
      value (withBackend "chunk_size" (.int i)) key = value Settings.usual key := by
    intro key _ hkey
    rw [hvalue, if_neg hkey.symm]
  refine ⟨accepted_usual.of_same hsame ?_, freezable_usual.of_same hsame (by decide) ?_⟩
  · rw [hvalue, if_pos rfl]
    exact { whole := fun _ => ⟨i, hi, rfl⟩ }
  · rw [hvalue]
    exact freezable_usual.timeout

/-- The size of a chunk in section `ai`. -/
theorem build_chunk_size_in_ai :
    ∃ c d, (build (projectWith "ai: \x7bchunk_size: 5\x7d\n")).run.value = .ok c ∧
      (build (projectWith "ai: \x7b\x7d\n")).run.value = .ok d ∧
      c.chunkSize = 5 ∧ d.chunkSize = 8000 := by
  have hread : Yaml.read "ai: \x7bchunk_size: 5\x7d\n" =
      .ok (.map (backendSections "chunk_size" (.int 5))) :=
    read_backendSections (by decide +kernel)
  have hfile := ofFile_projectWith (fileText_projectWith (by decide) (by decide) (by decide)) hread
    rfl
  have hchunk := accepted_withBackend_chunk_size (i := 5) (by decide)
  obtain ⟨c, hc⟩ := exists_build hfile hchunk.1 hchunk.2
  obtain ⟨d, hd⟩ := exists_build ofFile_emptySections (layered_emptySections.symm ▸ accepted_usual)
    (layered_emptySections.symm ▸ freezable_usual)
  obtain ⟨file, hfile', ha, hf⟩ := accepted_of_build hc
  obtain rfl := Except.ok.inj (hfile.symm.trans hfile')
  obtain ⟨file, hfile', ha', hf'⟩ := accepted_of_build hd
  obtain rfl := Except.ok.inj (ofFile_emptySections.symm.trans hfile')
  have hc' : value (withBackend "chunk_size" (.int 5)) "chunk_size" = .int c.chunkSize :=
    (lossless_of_frozen ha hf).chunkSize
  have hd' : value Settings.usual "chunk_size" = .int d.chunkSize :=
    layered_emptySections ▸ (lossless_of_frozen ha' hf').chunkSize
  rw [value_withBackend (by decide) rfl rfl, if_pos rfl] at hc'
  have husual : value Settings.usual "chunk_size" = .int 8000 := by
    simp [Settings.usual, value, Entries.field?_cons_str]
  exact ⟨c, d, hc, hd, (Value.int.inj hc').symm, (Value.int.inj (husual.symm.trans hd')).symm⟩

end Config

end SecurityScan
