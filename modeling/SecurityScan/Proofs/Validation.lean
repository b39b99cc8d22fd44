import SecurityScan.Proofs.Freezing

/-!
# Checked settings

What comes of checking settings and building a configuration of them: a configuration, a refusal
that names every error, or a fault that no check foresees.
-/

namespace SecurityScan

namespace Settings

/-! ## Checking the provider -/

mutual

theorem unkeyable?_eq_none_iff : ∀ {v : Value}, unkeyable? v = none ↔ v.isKey = true
  | .tuple xs => by
    rw [unkeyable?, Value.isKey]
    exact unkeyable?_go_eq_none_iff
  | .null | .bool _ | .int _ | .float _ | .str _ | .date _ | .datetime _ | .bytes _ => by
    simp [unkeyable?, Value.isKey]
  | .list _ | .map _ | .set _ | .marked .. | .again .. => by
    simp [unkeyable?, Value.isKey]

theorem unkeyable?_go_eq_none_iff : ∀ {xs : List Value},
    unkeyable?.go xs = none ↔ Value.isKey.go xs = true
  | [] => by simp [unkeyable?.go, Value.isKey.go]
  | x :: xs => by
    rw [unkeyable?.go, Value.isKey.go, Option.or_eq_none_iff, Bool.and_eq_true,
      unkeyable?_eq_none_iff, unkeyable?_go_eq_none_iff]

end

/-- A provider that can be looked up among the known ones: a key, or a set. -/
def IsSought (v : Value) : Prop := v.isKey = true ∨ ∃ xs, v = .set xs

theorem isSought_str (s : String) : IsSought (.str s) := Or.inl (by simp [Value.isKey])

/-- What comes of the check of a provider. -/
inductive ProviderChecked (v : Value) : Except Fault (List Issue) → Prop
  | known (s : String) (hs : s ∈ providers) (hv : v = .str s) : ProviderChecked v (.ok [])
  | unknown (h : IsSought v) : ProviderChecked v (.ok [.unknownProvider v])
  | stopped (h : ¬IsSought v) (part : Value) :
      ProviderChecked v (.error (.wrongKind ("unhashable type: '" ++ part.kind ++ "'")))

theorem providerChecked (v : Value) : ProviderChecked v (providerIssues v) := by
  unfold providerIssues
  split
  · split
    · rename_i hknown
      exact .known _ (List.contains_iff_mem.mp hknown) rfl
    · exact .unknown (isSought_str _)
  · exact .unknown (Or.inr ⟨_, rfl⟩)
  · rename_i hset
    split
    · rename_i part hpart
      refine .stopped ?_ part
      rintro (hkey | ⟨xs, rfl⟩)
      · rw [unkeyable?_eq_none_iff.mpr hkey] at hpart
        cases hpart
      · exact hset xs rfl
    · rename_i hnone
      exact .unknown (Or.inl (unkeyable?_eq_none_iff.mp hnone))

/-! ## The other checks -/

section
variable {P : Issue → Prop}

theorem forall_mem_ite {c : Bool} {i : Issue} :
    (∀ j ∈ (if c then [] else [i] : List Issue), P j) ↔ c = true ∨ P i := by
  cases c <;> simp

theorem forall_mem_filterMap {keys : List String} {p : String → Bool} {f : String → Issue} :
    (∀ j ∈ keys.filterMap fun key => if p key then none else some (f key), P j) ↔
      ∀ key ∈ keys, p key = true ∨ P (f key) := by
  induction keys with
  | nil => simp
  | cons key keys ih =>
    rw [List.filterMap_cons, List.forall_mem_cons, ← ih]
    cases p key <;> simp

variable (s : Settings)

theorem forall_mem_wholeIssues : (∀ i ∈ wholeIssues s, P i) ↔ ∀ key ∈ wholeKeys,
    isPositiveWhole (s.value key) = true ∨ P (.notPositiveWhole key (s.value key)) :=
  forall_mem_filterMap

theorem forall_mem_timeoutIssues : (∀ i ∈ timeoutIssues s, P i) ↔
    isPositive (s.value "request_timeout") = true ∨ P (.notPositive (s.value "request_timeout")) :=
  forall_mem_ite

theorem forall_mem_mappingIssues : (∀ i ∈ mappingIssues s, P i) ↔
    ∀ key ∈ mapKeys, (s.value key).isMap = true ∨ P (.notMapping key) :=
  forall_mem_filterMap

theorem forall_mem_templateIssues : (∀ i ∈ templateIssues s, P i) ↔
    (s.value "html_template" = .null ∨ ∃ path, s.value "html_template" = .str path) ∨
      P (.templateNotPath (s.value "html_template")) := by
  rw [templateIssues]
  split
  · rename_i hv
    simp [hv]
  · rename_i path hv
    simp [hv]
  · rename_i hnull hstr
    have : ¬(s.value "html_template" = .null ∨ ∃ path, s.value "html_template" = .str path) := by
      rintro (h | ⟨path, h⟩)
      · exact hnull h
      · exact hstr path h
    rw [or_iff_right this, List.forall_mem_singleton]

theorem keyIssues_spec {provider : Value} :
    ∀ i ∈ keyIssues s provider, i.isError = false ∧ i.fault? = none := by
  unfold keyIssues
  split
  · exact forall_mem_ite.mpr (Or.inr ⟨rfl, rfl⟩)
  · exact forall_mem_ite.mpr (Or.inr ⟨rfl, rfl⟩)
  · exact forall_mem_ite.mpr (Or.inr ⟨rfl, rfl⟩)
  · exact List.forall_mem_nil _

theorem fault?_of_mem_checkIssues : ∀ i ∈ checkIssues s, i.fault? = none := by
  rw [checkIssues]
  split
  · exact List.forall_mem_singleton.mpr rfl
  · split
    · exact List.forall_mem_nil _
    · exact List.forall_mem_singleton.mpr rfl

theorem fault?_of_mem_extensionIssues : ∀ i ∈ extensionIssues s, i.fault? = none := by
  rw [extensionIssues]
  split
  · exact forall_mem_ite.mpr (Or.inr rfl)
  · exact List.forall_mem_singleton.mpr rfl

end

/-! ## All checks -/

section
variable {s : Settings}

/-- The issues of all checks, `found` being those of the provider. -/
def allIssues (s : Settings) (found : List Issue) : List Issue :=
  found ++ keyIssues s (s.value "ai_provider") ++ wholeIssues s ++ timeoutIssues s ++
    checkIssues s ++ extensionIssues s ++ mappingIssues s ++ templateIssues s

theorem issues_eq (h : s.Complete) :
    s.issues = providerIssues (s.value "ai_provider") >>= fun found =>
      match (allIssues s found).findSome? Issue.fault? with
      | none => .ok (allIssues s found)
      | some f => .error f := by
  obtain ⟨v, hv⟩ := Option.isSome_iff_exists.mp (h.known "ai_provider" (by decide))
  have hprovider : s.value "ai_provider" = v := by rw [value, hv, Option.getD_some]
  simp only [issues, allIssues, hprovider, hv, Option.getD_some]
  rfl

theorem issues_eq_ok_iff (h : s.Complete) {is : List Issue} : s.issues = .ok is ↔
    ∃ found, providerIssues (s.value "ai_provider") = .ok found ∧ is = allIssues s found ∧
      ∀ i ∈ is, i.fault? = none := by
  rw [issues_eq h]
  cases providerIssues (s.value "ai_provider") with
  | error f => simp [bind, Except.bind]
  | ok found =>
    show (match (allIssues s found).findSome? Issue.fault? with
      | none => Except.ok (allIssues s found)
      | some f => .error f) = .ok is ↔ _
    constructor
    · intro hok
      split at hok
      · rename_i hnone
        obtain rfl := Except.ok.inj hok
        exact ⟨found, rfl, rfl, List.findSome?_eq_none_iff.mp hnone⟩
      · cases hok
    · rintro ⟨_, ⟨⟩, rfl, hnone⟩
      rw [List.findSome?_eq_none_iff.mpr hnone]

/-- The checks of the settings come to an end: the provider can be looked up, and every value that
a message shows has a text. -/
structure Checkable (s : Settings) : Prop where
  sought : IsSought (s.value "ai_provider")
  provider : (s.value "ai_provider").HasText
  whole : ∀ key ∈ wholeKeys, isPositiveWhole (s.value key) = true ∨ (s.value key).HasText
  timeout : isPositive (s.value "request_timeout") = true ∨ (s.value "request_timeout").HasText
  template : (s.value "html_template").HasText

theorem fault?_allIssues {found : List Issue} : (∀ i ∈ allIssues s found, i.fault? = none) ↔
    (∀ i ∈ found, i.fault? = none) ∧
    (∀ key ∈ wholeKeys, isPositiveWhole (s.value key) = true ∨ (s.value key).HasText) ∧
    (isPositive (s.value "request_timeout") = true ∨ (s.value "request_timeout").HasText) ∧
    (s.value "html_template").HasText := by
  have hkeys : ∀ i ∈ keyIssues s (s.value "ai_provider"), i.fault? = none :=
    fun i hi => (keyIssues_spec s i hi).2
  have hmaps : ∀ i ∈ mappingIssues s, i.fault? = none :=
    (forall_mem_mappingIssues s).mpr fun _ _ => Or.inr rfl
  have htemplate : (∀ i ∈ templateIssues s, i.fault? = none) ↔ (s.value "html_template").HasText := by
    rw [forall_mem_templateIssues]
    refine ⟨fun h => ?_, Or.inr⟩
    obtain (h | ⟨path, h⟩) | h := h
    · rw [h]
      exact Value.hasText_null
    · rw [h]
      exact Value.hasText_str path
    · exact h
  simp only [allIssues, List.forall_mem_append, iff_true_intro hkeys, iff_true_intro hmaps,
    iff_true_intro (fault?_of_mem_checkIssues s), iff_true_intro (fault?_of_mem_extensionIssues s),
    forall_mem_wholeIssues, forall_mem_timeoutIssues, htemplate, and_true, and_assoc]
  rfl

theorem returns_issues (h : s.Complete) : Returns s.issues ↔ s.Checkable := by
  have hissues : Returns s.issues ↔ ∃ found, providerIssues (s.value "ai_provider") = .ok found ∧
      ∀ i ∈ allIssues s found, i.fault? = none := by
    simp only [Returns, issues_eq_ok_iff h]
    constructor
    · rintro ⟨_, found, hfound, rfl, hfaults⟩
      exact ⟨found, hfound, hfaults⟩
    · rintro ⟨found, hfound, hfaults⟩
      exact ⟨_, found, hfound, rfl, hfaults⟩
  rw [hissues]
  simp only [fault?_allIssues]
  have hchecked := providerChecked (s.value "ai_provider")
  constructor
  · rintro ⟨found, hfound, hprovider, hwhole, htimeout, htemplate⟩
    rw [hfound] at hchecked
    cases hchecked with
    | known p _ hp =>
      refine ⟨?_, ?_, hwhole, htimeout, htemplate⟩
      · rw [hp]
        exact isSought_str p
      · rw [hp]
        exact Value.hasText_str p
    | unknown hsought =>
      exact ⟨hsought, hprovider _ (List.mem_singleton_self _), hwhole, htimeout, htemplate⟩
  · rintro ⟨hsought, hprovider, hwhole, htimeout, htemplate⟩
    generalize hresult : providerIssues (s.value "ai_provider") = result at hchecked
    cases hchecked with
    | known => exact ⟨[], rfl, List.forall_mem_nil _, hwhole, htimeout, htemplate⟩
    | unknown =>
      exact ⟨_, rfl, List.forall_mem_singleton.mpr hprovider, hwhole, htimeout, htemplate⟩
    | stopped hnot => exact absurd hsought hnot

theorem stops_issues (h : s.Complete) : Stops IsStray s.issues := by
  rw [issues_eq h]
  have hprovider : Stops IsStray (providerIssues (s.value "ai_provider")) := by
    have hchecked := providerChecked (s.value "ai_provider")
    generalize providerIssues (s.value "ai_provider") = result at hchecked
    cases hchecked with
    | known | unknown => exact stops_ok
    | stopped _ part => exact stops_error (isStray_wrongKind _)
  refine hprovider.bind fun found _ => ?_
  split
  · exact stops_ok
  · rename_i f hf
    obtain ⟨i, -, hi⟩ := List.exists_of_findSome?_eq_some hf
    obtain ⟨v, -, hv⟩ := Option.bind_eq_some_iff.mp hi
    exact stops_error (isStray_of_textFault (Value.textFault_of_writeFault? hv))

/-! ## What the checks accept -/

/-- Settings in which the checks find no error. -/
structure Accepted (s : Settings) : Prop where
  provider : ∃ p ∈ providers, s.value "ai_provider" = .str p
  whole : ∀ key ∈ wholeKeys, ∃ i, 1 ≤ i ∧ s.value key = .int i
  timeout : isPositive (s.value "request_timeout") = true
  checks : ∃ names, textMembers? (s.value "checks") = some names
  extensions : ∃ names, textMembers? (s.value "source_extensions") = some names ∧ names ≠ [] ∧
    ∀ name ∈ names, Text.startsWith name "." = true
  maps : ∀ key ∈ mapKeys, (s.value key).isMap = true
  template : s.value "html_template" = .null ∨ ∃ path, s.value "html_template" = .str path

theorem isPositiveWhole_iff {v : Value} : isPositiveWhole v = true ↔ ∃ i, 1 ≤ i ∧ v = .int i := by
  cases v with
  | int i => simp [isPositiveWhole]
  | _ => exact iff_of_false Bool.false_ne_true fun ⟨_, _, h⟩ => nomatch h

theorem providerIssues_free : (∃ found, providerIssues (s.value "ai_provider") = .ok found ∧
    ∀ i ∈ found, i.isError = false) ↔ ∃ p ∈ providers, s.value "ai_provider" = .str p := by
  have hchecked := providerChecked (s.value "ai_provider")
  constructor
  · rintro ⟨found, hfound, hnone⟩
    rw [hfound] at hchecked
    cases hchecked with
    | known p hp hv => exact ⟨p, hp, hv⟩
    | unknown => exact nomatch hnone _ (List.mem_singleton_self _)
  · rintro ⟨p, hp, hv⟩
    refine ⟨[], ?_, List.forall_mem_nil _⟩
    rw [hv, providerIssues, if_pos (List.contains_iff_mem.mpr hp)]

theorem checkIssues_free : (∀ i ∈ checkIssues s, i.isError = false) ↔
    ∃ names, textMembers? (s.value "checks") = some names := by
  rw [checkIssues]
  constructor
  · intro h
    split at h
    · cases h _ (List.mem_singleton_self _)
    · rename_i names hnames
      exact ⟨names, hnames⟩
  · rintro ⟨names, hnames⟩
    rw [hnames]
    dsimp only
    split
    · exact List.forall_mem_nil _
    · exact List.forall_mem_singleton.mpr rfl

theorem extensionIssues_free : (∀ i ∈ extensionIssues s, i.isError = false) ↔
    ∃ names, textMembers? (s.value "source_extensions") = some names ∧ names ≠ [] ∧
      ∀ name ∈ names, Text.startsWith name "." = true := by
  rw [extensionIssues]
  constructor
  · intro h
    split at h
    · rename_i e es hnames
      obtain hall | herror := forall_mem_ite.mp h
      · exact ⟨_, hnames, List.cons_ne_nil _ _, List.all_eq_true.mp hall⟩
      · cases herror
    · cases h _ (List.mem_singleton_self _)
  · rintro ⟨names, hnames, hne, hall⟩
    obtain ⟨e, es, rfl⟩ := List.exists_cons_of_ne_nil hne
    rw [hnames]
    exact forall_mem_ite.mpr (Or.inl (List.all_eq_true.mpr hall))

theorem allIssues_free {found : List Issue} : (∀ i ∈ allIssues s found, i.isError = false) ↔
    (∀ i ∈ found, i.isError = false) ∧
    (∀ key ∈ wholeKeys, ∃ i, 1 ≤ i ∧ s.value key = .int i) ∧
    isPositive (s.value "request_timeout") = true ∧
    (∃ names, textMembers? (s.value "checks") = some names) ∧
    (∃ names, textMembers? (s.value "source_extensions") = some names ∧ names ≠ [] ∧
      ∀ name ∈ names, Text.startsWith name "." = true) ∧
    (∀ key ∈ mapKeys, (s.value key).isMap = true) ∧
    (s.value "html_template" = .null ∨ ∃ path, s.value "html_template" = .str path) := by
  have hkeys : ∀ i ∈ keyIssues s (s.value "ai_provider"), i.isError = false :=
    fun i hi => (keyIssues_spec s i hi).1
  have hwhole : (∀ i ∈ wholeIssues s, i.isError = false) ↔
      ∀ key ∈ wholeKeys, ∃ i, 1 ≤ i ∧ s.value key = .int i := by
    simp only [forall_mem_wholeIssues, isPositiveWhole_iff, Issue.isError, Bool.true_eq_false,
      or_false]
  have htimeout : (∀ i ∈ timeoutIssues s, i.isError = false) ↔
      isPositive (s.value "request_timeout") = true := by
    simp only [forall_mem_timeoutIssues, Issue.isError, Bool.true_eq_false, or_false]
  have hmaps : (∀ i ∈ mappingIssues s, i.isError = false) ↔
      ∀ key ∈ mapKeys, (s.value key).isMap = true := by
    simp only [forall_mem_mappingIssues, Issue.isError, Bool.true_eq_false, or_false]
  have htemplate : (∀ i ∈ templateIssues s, i.isError = false) ↔
      s.value "html_template" = .null ∨ ∃ path, s.value "html_template" = .str path := by
    simp only [forall_mem_templateIssues, Issue.isError, Bool.true_eq_false, or_false]
  simp only [allIssues, List.forall_mem_append, iff_true_intro hkeys, and_true, hwhole, htimeout,
    checkIssues_free, extensionIssues_free, hmaps, htemplate, and_assoc]

theorem Accepted.checkable (h : s.Accepted) : s.Checkable := by
  obtain ⟨p, -, hp⟩ := h.provider
  refine ⟨hp ▸ isSought_str p, hp ▸ Value.hasText_str p, fun key hkey => ?_, Or.inl h.timeout, ?_⟩
  · exact Or.inl (isPositiveWhole_iff.mpr (h.whole key hkey))
  · obtain hnull | ⟨path, hpath⟩ := h.template
    · exact hnull ▸ Value.hasText_null
    · exact hpath ▸ Value.hasText_str path

/-- **What the checks accept.** They come to an end without an error on accepted settings, and on no
others. -/
theorem issues_free_iff (h : s.Complete) :
    (∃ is, s.issues = .ok is ∧ ∀ i ∈ is, i.isError = false) ↔ s.Accepted := by
  constructor
  · rintro ⟨is, his, hnone⟩
    obtain ⟨found, hfound, rfl, -⟩ := (issues_eq_ok_iff h).mp his
    obtain ⟨hprovider, hwhole, htimeout, hchecks, hextensions, hmaps, htemplate⟩ :=
      allIssues_free.mp hnone
    exact ⟨providerIssues_free.mp ⟨found, hfound, hprovider⟩, hwhole, htimeout, hchecks,
      hextensions, hmaps, htemplate⟩
  · intro ha
    obtain ⟨is, his⟩ := (returns_issues h).mpr ha.checkable
    obtain ⟨found, hfound, rfl, -⟩ := (issues_eq_ok_iff h).mp his
    obtain ⟨found', hfound', hprovider⟩ := providerIssues_free.mpr ha.provider
    obtain rfl : found' = found := Except.ok.inj (hfound'.symm.trans hfound)
    exact ⟨_, his, allIssues_free.mpr ⟨hprovider, ha.whole, ha.timeout, ha.checks, ha.extensions,
      ha.maps, ha.template⟩⟩

theorem Accepted.wellTyped (h : s.Accepted) : s.WellTyped where
  provider := h.provider
  whole key hkey := (h.whole key hkey).imp fun _ hi => hi.2
  timeout := by
    have htimeout := h.timeout
    unfold isPositive at htimeout
    split at htimeout
    · exact Or.inl ⟨_, ‹_›⟩
    · exact Or.inr ⟨_, ‹_›⟩
    · cases htimeout
  checks := h.checks
  extensions := h.extensions.imp fun _ hnames => hnames.1
  maps := h.maps
  template := h.template

end

/-! ## Building -/

/-- The texts of the errors among issues. -/
def errorTexts (is : List Issue) : List String :=
  (is.map Issue.text).filter (Text.startsWith · "ERROR:")

theorem startsWith_text (i : Issue) : Text.startsWith i.text "ERROR:" = i.isError := by
  rw [Text.startsWith, Issue.text, String.toList_append]
  cases i.isError <;> rfl

theorem errorTexts_eq (is : List Issue) :
    errorTexts is = (is.filter Issue.isError).map Issue.text := by
  rw [errorTexts, List.filter_map]
  congr 1
  exact List.filter_congr fun i _ => startsWith_text i

theorem value_forIn_note (is : List Issue) :
    (forIn is () fun i _ => do
      Attempt.note .warning i.text
      pure (ForInStep.yield ()) : Attempt Unit).run.value = .ok () := by
  induction is with
  | nil => rfl
  | cons i is ih =>
    rw [List.forIn_cons, Attempt.value_bind]
    exact ih

theorem value_ofChecked (s : Settings) : (Config.ofChecked s).run.value = match s.issues with
    | .error f => .error f
    | .ok is => if errorTexts is = [] then Config.ofSettings s else .error (.settings (errorTexts is)) := by
  rw [Config.ofChecked, Attempt.value_bind]
  cases s.issues with
  | error f => rfl
  | ok is =>
    have hvalue : (Attempt.ofExcept (Except.ok is : Except Fault (List Issue))).run.value = .ok is :=
      rfl
    rw [hvalue]
    dsimp only
    rw [Attempt.value_bind, value_forIn_note, errorTexts_eq]
    dsimp only
    cases is.filter Issue.isError with
    | nil => rfl
    | cons i errors => rfl

/-- What comes of making a configuration of settings, told by the issues that the checks find. -/
structure IsBuilt (s : Settings) (built : Except Fault Config) : Prop where
  checks : (∃ is, s.issues = .ok is) ↔ s.Checkable
  /-- With a configuration the checks have come to an end and found no error. -/
  made : ∀ config, built = .ok config →
    ∃ is, s.issues = .ok is ∧ ∀ i ∈ is, Text.startsWith i.text "ERROR:" = false
  /-- Errors are refused, all of them in the order in which they were found. -/
  refused : ∀ is, s.issues = .ok is → errorTexts is ≠ [] → built = .error (.settings (errorTexts is))
  /-- Nothing is refused but for errors, and the message joins them. -/
  joined : ∀ f, built = .error f → f.kind = "ConfigError" → ∃ is, s.issues = .ok is ∧
    errorTexts is ≠ [] ∧ f.message = String.intercalate "; " (errorTexts is)
  /-- A configuration is made or the settings are refused as long as they can be checked and, without
  an error, frozen. -/
  settled : ((∃ config, built = .ok config) ∨ ∃ f, built = .error f ∧ f.kind = "ConfigError") ↔
    s.Checkable ∧ ((∀ is, s.issues = .ok is → errorTexts is = []) → s.Freezable)
  other : ∀ f, built = .error f → f.kind = "ConfigError" ∨ IsStray f

theorem not_isStray_of_refused {f : Fault} (h : f.kind = "ConfigError") : ¬IsStray f := by
  simp [IsStray, h]

section
variable {s : Settings} {is : List Issue}

theorem errorTexts_eq_nil_iff : errorTexts is = [] ↔
    ∀ i ∈ is, Text.startsWith i.text "ERROR:" = false := by
  simp [errorTexts, List.filter_eq_nil_iff]

theorem accepted_iff (h : s.Complete) :
    (∃ is, s.issues = .ok is ∧ errorTexts is = []) ↔ s.Accepted := by
  simp only [errorTexts_eq_nil_iff, startsWith_text]
  exact issues_free_iff h

theorem isBuilt_of_stopped (h : s.Complete) {f : Fault} (hf : s.issues = .error f) :
    IsBuilt s (.error f) := by
  have hnone : ¬Returns s.issues := hf ▸ not_returns_error
  have hstray : IsStray f := stops_issues h f hf
  have hkind : f.kind ≠ "ConfigError" := fun hkind => not_isStray_of_refused hkind hstray
  refine ⟨returns_issues h, ?_, fun is his => ?_, ?_, iff_of_false ?_ ?_, ?_⟩
  · rintro _ ⟨⟩
  · exact absurd ⟨is, his⟩ hnone
  · rintro _ ⟨⟩ hrefused
    exact absurd hrefused hkind
  · rintro (⟨_, ⟨⟩⟩ | ⟨_, ⟨⟩, hrefused⟩)
    exact hkind hrefused
  · exact fun hs => hnone ((returns_issues h).mpr hs.1)
  · rintro _ ⟨⟩
    exact Or.inr hstray

theorem isBuilt_of_free (h : s.Complete) (his : s.issues = .ok is) (hnone : errorTexts is = []) :
    IsBuilt s (Config.ofSettings s) := by
  have hcheckable : s.Checkable := (returns_issues h).mp ⟨is, his⟩
  have hsame : ∀ is', s.issues = .ok is' → is' = is := fun is' his' =>
    Except.ok.inj (his'.symm.trans his)
  have hfreezes := returns_ofSettings h ((accepted_iff h).mp ⟨is, his, hnone⟩).wellTyped
  have hkind : ∀ f, Config.ofSettings s = .error f → f.kind ≠ "ConfigError" := fun f hf hrefused =>
    not_isStray_of_refused hrefused (stops_ofSettings s f hf)
  refine ⟨returns_issues h, fun _ _ => ⟨is, his, errorTexts_eq_nil_iff.mp hnone⟩, ?_, ?_, ?_, ?_⟩
  · intro is' his' herrors
    rw [hsame is' his'] at herrors
    exact absurd hnone herrors
  · exact fun f hf hrefused => absurd hrefused (hkind f hf)
  · constructor
    · rintro (hmade | ⟨f, hf, hrefused⟩)
      · exact ⟨hcheckable, fun _ => hfreezes.mp hmade⟩
      · exact absurd hrefused (hkind f hf)
    · rintro ⟨-, hfreezable⟩
      exact Or.inl (hfreezes.mpr (hfreezable fun is' his' => by rw [hsame is' his', hnone]))
  · exact fun f hf => Or.inr (stops_ofSettings s f hf)

theorem isBuilt_of_errors (h : s.Complete) (his : s.issues = .ok is) (herrors : errorTexts is ≠ []) :
    IsBuilt s (.error (.settings (errorTexts is))) := by
  refine ⟨returns_issues h, ?_, fun is' his' _ => ?_, ?_, iff_of_true ?_ ⟨?_, ?_⟩, ?_⟩
  · rintro _ ⟨⟩
  · rw [Except.ok.inj (his'.symm.trans his)]
  · rintro _ ⟨⟩ -
    exact ⟨is, his, herrors, rfl⟩
  · exact Or.inr ⟨_, rfl, rfl⟩
  · exact (returns_issues h).mp ⟨is, his⟩
  · exact fun hnone => absurd (hnone is his) herrors
  · rintro _ ⟨⟩
    exact Or.inl rfl

theorem isBuilt_ofChecked (h : s.Complete) : IsBuilt s (Config.ofChecked s).run.value := by
  rw [value_ofChecked]
  cases his : s.issues with
  | error f => exact isBuilt_of_stopped h his
  | ok is =>
    dsimp only
    split
    · exact isBuilt_of_free h his ‹_›
    · exact isBuilt_of_errors h his ‹_›

end

end Settings

namespace Config

open Settings

/-- **Errors in settings.** What is built of a configuration file, an environment and arguments is a
configuration only when the checks found no error, and is refused for errors alone, with a message
that joins them all. The checks themselves stop at a provider that cannot be looked up and at a wrong
value that cannot be written; settings without an error stop the building only at a timeout beyond
the doubles and at a value that has no text. -/
theorem isBuilt_build (source : ConfigSource) {file : Settings}
    (hfile : (Settings.ofFile source.files (pathIn source)).run.value = .ok file) :
    IsBuilt (layered file (ofEnvironment source.environment).value (ofArguments source.arguments))
      (build source).run.value := by
  rw [value_build, hfile]
  exact isBuilt_ofChecked (complete_layered ..)

end Config

/-! ## A project with a configuration file -/

namespace Text.Utf8

theorem encodeChar_of_ascii {c : Char} (h : c.toNat < 0x80) :
    String.utf8EncodeChar c = [UInt8.ofNat c.toNat] := by
  have hc : c.val.toNat ≤ 0x7f := Nat.le_of_lt_succ h
  rw [String.utf8EncodeChar, if_pos hc]
  rfl

theorem decodeFrom_ascii {cs : List Char} (h : ∀ c ∈ cs, c.toNat < 0x80) (i : Nat) :
    decodeFrom i (cs.flatMap String.utf8EncodeChar) = .ok cs := by
  induction cs generalizing i with
  | nil => rfl
  | cons c cs ih =>
    obtain ⟨hc, hcs⟩ := List.forall_mem_cons.mp h
    have hbyte : (UInt8.ofNat c.toNat).toNat = c.toNat :=
      UInt8.toNat_ofNat_of_lt' (Nat.lt_trans hc (by decide))
    have hlength : sequenceLength (UInt8.ofNat c.toNat) = some 1 := by
      rw [sequenceLength, if_pos]
      rw [UInt8.lt_iff_toNat_lt, hbyte]
      exact hc
    have hstep : ∀ rest, decodeFrom i (UInt8.ofNat c.toNat :: rest) =
        (do return c :: (← decodeFrom (i + 1) rest)) := by
      intro rest
      rw [decodeFrom.eq_def]
      simp only [hlength, hbyte, Char.ofNat_toNat]
    rw [List.flatMap_cons, encodeChar_of_ascii hc, List.singleton_append, hstep, ih hcs]
    rfl

end Text.Utf8

namespace Settings

/-- Bytes that come in at once are decoded as they are. -/
theorem decodeBlocks_short {size : Nat} {bs : Text.Utf8.Bytes} {cs : List Char}
    (h : Text.Utf8.decodeFrom 0 bs = .ok cs) (hshort : bs.length ≤ size) (fuel : Nat) :
    decodeBlocks [] (blocks size (fuel + 1) bs) = .ok cs := by
  have hend : blocks size fuel (bs.drop size) = [] := by
    rw [List.drop_eq_nil_of_le hshort]
    cases fuel <;> rfl
  rw [blocks, hend]
  split
  · rename_i hempty
    rw [List.isEmpty_iff.mp hempty] at h
    exact h
  · rw [List.take_of_length_le hshort, decodeBlocks, List.nil_append, h]
    exact congrArg Except.ok (List.append_nil cs)

end Settings

namespace Config

open Settings

/-- A project with a configuration file. -/
def projectWith (text : String) : ConfigSource where
  files := ⟨[(".codewardrc", .file (Text.Utf8.encode text))], "/"⟩
  environment := []
  arguments := []
  project := "."
  file := none

section
variable {text : String}

theorem find_projectWith : (projectWith text).files.find ".codewardrc" =
    .ok (.file [".codewardrc"] (Text.Utf8.encode text)) := by
  have hn : Text.splitOn '/' ".codewardrc" = [".codewardrc"] := by decide
  have hcwd : Path.names "/" = [] := by decide
  simp +decide [Files.FileSystem.find, hn, hcwd, Files.walk, projectWith, Files.Dir.at,
    Files.Dir.child?]

theorem fileText_projectWith (hascii : text.toList.all (·.toNat < 0x80) = true)
    (hlines : Text.newlinesUnified text.toList = text.toList)
    (hshort : (Text.Utf8.encode text).length ≤ 8192) :
    Settings.fileText (projectWith text).files ".codewardrc" = .ok text := by
  have hascii : ∀ c ∈ text.toList, c.toNat < 0x80 := by simpa using hascii
  have hdecode := decodeBlocks_short (Text.Utf8.decodeFrom_ascii hascii 0) hshort
    (Text.Utf8.encode text).length
  rw [Settings.fileText, Files.FileSystem.read, find_projectWith]
  dsimp only
  rw [Text.Utf8.encode] at hdecode ⊢
  rw [hdecode]
  dsimp only
  rw [hlines, String.ofList_toList]

theorem ofFile_projectWith {nested : Entries}
    (htext : Settings.fileText (projectWith text).files ".codewardrc" = .ok text)
    (hread : Yaml.read text = .ok (.map nested)) (hne : nested.isEmpty = false) :
    (Settings.ofFile (projectWith text).files (pathIn (projectWith text))).run.value =
      .ok (ofSections nested) := by
  have hpath : pathIn (projectWith text) = ".codewardrc" := by
    show Path.tidy (Path.join "." Settings.fileName) = ".codewardrc"
    decide
  have htidy : Path.tidy ".codewardrc" = ".codewardrc" := by decide
  have hplace : (projectWith text).files.place? ".codewardrc" =
      .ok (some (.file [".codewardrc"] (Text.Utf8.encode text))) := by
    rw [Files.FileSystem.place?, find_projectWith]
    rfl
  have hholds : (Value.map nested).holds = true := by rw [Value.holds, hne, Bool.not_false]
  rw [hpath, Settings.ofFile, htidy, hplace, htext]
  dsimp only
  rw [hread]
  dsimp only
  rw [hholds]
  rfl

end

def isChunkSections : Except Yaml.Stop Value → Bool
  | .ok (.map [(.str k, .int 0)]) => k == "chunk_size"
  | _ => false

theorem read_chunkSections : Yaml.read "chunk_size: 0\n" =
    .ok (.map [(.str "chunk_size", .int 0)]) := by
  have h : isChunkSections (Yaml.read "chunk_size: 0\n") = true := by decide +kernel
  unfold isChunkSections at h
  split at h
  · rename_i k hread
    rw [beq_iff_eq] at h
    rw [hread, h]
  · cases h

theorem isBuilt_build_chunk_size :
    let source := projectWith "chunk_size: 0\n"
    let file := ofSections [(.str "chunk_size", .int 0)]
    (Settings.ofFile source.files (pathIn source)).run.value = .ok file ∧
    IsBuilt (layered file (ofEnvironment source.environment).value (ofArguments source.arguments))
      (build source).run.value := by
  intro source file
  have hfile : (Settings.ofFile source.files (pathIn source)).run.value = .ok file :=
    ofFile_projectWith (fileText_projectWith (by decide) (by decide) (by decide))
      read_chunkSections rfl
  exact ⟨hfile, isBuilt_build source hfile⟩

/-- The sections of a file with a list for the provider. -/
def providerSections : Entries :=
  [(.str "ai", .map [(.str "provider", .list [.str "anthropic"])])]

def isProviderSections : Except Yaml.Stop Value → Bool
  | .ok (.map [(.str k, .map [(.str l, .list [.str p])])]) =>
    k == "ai" && l == "provider" && p == "anthropic"
  | _ => false

theorem read_providerSections : Yaml.read "ai: \x7bprovider: [anthropic]\x7d\n" =
    .ok (.map providerSections) := by
  have h : isProviderSections (Yaml.read "ai: \x7bprovider: [anthropic]\x7d\n") = true := by
    decide +kernel
  unfold isProviderSections at h
  split at h
  · rename_i k l p hread
    simp only [Bool.and_eq_true, beq_iff_eq] at h
    obtain ⟨⟨rfl, rfl⟩, rfl⟩ := h
    exact hread
  · cases h

theorem ofSections_providerSections : ofSections providerSections =
    [(.str "ai_provider", .list [.str "anthropic"])] := by
  simp [providerSections, ofSections, putBackend, putFrom, putValue, value, section?,
    Entries.field?_cons_str, Entries.insert, Value.entries?, Value.opened, Value.isNull]

theorem value_providerSections :
    value (layered (ofSections providerSections) (ofEnvironment []).value (ofArguments []))
      "ai_provider" = .list [.str "anthropic"] := by
  have hargument : Entries.field? (ofArguments []) "ai_provider" = none := by
    simp [field?_ofArguments, argumentValue?, argumentKeys]
  have hvariable : Entries.field? (ofEnvironment []).value "ai_provider" = none := by
    simp [field?_ofEnvironment, environmentValue?, readable, variableValue?, firstSet]
  rw [ofSections_providerSections, value, layered, field?_merge_of_none hargument,
    field?_merge_of_none hvariable, field?_merge (by simp [Entries.Distinct])]
  simp [Entries.field?_cons_str, mergeValue]

/-- A list for the provider stops the checks before they find anything. -/
theorem build_stopped_by_list :
    let source := projectWith "ai: \x7bprovider: [anthropic]\x7d\n"
    (Settings.ofFile source.files (pathIn source)).run.value = .ok (ofSections providerSections) ∧
    (build source).run.value = .error (.wrongKind "unhashable type: 'list'") := by
  intro source
  have hfile : (Settings.ofFile source.files (pathIn source)).run.value =
      .ok (ofSections providerSections) :=
    ofFile_projectWith (fileText_projectWith (by decide) (by decide) (by decide))
      read_providerSections rfl
  refine ⟨hfile, ?_⟩
  have hprovider : providerIssues (value (layered (ofSections providerSections)
      (ofEnvironment source.environment).value (ofArguments source.arguments)) "ai_provider") =
        .error (.wrongKind "unhashable type: 'list'") := by
    refine (congrArg providerIssues value_providerSections).trans ?_
    simp [providerIssues, unkeyable?, Value.isKey, Value.kind]
  rw [value_build, hfile]
  dsimp only
  rw [value_ofChecked, issues_eq (complete_layered ..), hprovider]
  rfl

end Config

end SecurityScan
