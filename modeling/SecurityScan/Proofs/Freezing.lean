import SecurityScan.Proofs.Settings

/-!
# Freezing settings

Settings of the right kinds become a configuration unless a timeout is no double or a value has no
text. What stops them otherwise is one of four kinds of fault, none of which a check foresees.
-/

namespace SecurityScan

/-! ## Values that have a text -/

namespace Value

/-- No whole number in the value is too long to be written, and its collections do not stand too
deep in one another. -/
def HasText (v : Value) : Prop := v.textFault? = none

theorem hasText_str (s : String) : (str s).HasText := rfl

theorem hasText_null : null.HasText := rfl

theorem returns_displayed_iff {v : Value} : Returns v.displayed ↔ v.HasText := by
  rw [displayed, textBy, HasText]
  cases v.textFault? with
  | none => exact iff_of_true returns_ok rfl
  | some f => exact iff_of_false not_returns_error (by simp)

/-- The faults of a value without a text. -/
def TextFault (f : Fault) : Prop := f = .tooDeep ∨ f = .tooLongToWrite

theorem textFault_of_room {room : Nat} {x : Option Fault} {f : Fault}
    (h : (if room = 0 then some .tooDeep else x) = some f) (hx : x = some f → TextFault f) :
    TextFault f := by
  split at h
  · exact Or.inl (Option.some.inj h).symm
  · exact hx h

section
variable {f : Fault}

mutual

theorem textFault_of_writeFault? : ∀ {around : List Nat} {room : Nat} {v : Value},
    v.writeFault? around room = some f → TextFault f
  | _, _, .list _, h | _, _, .tuple _, h | _, _, .set _, h => by
    rw [writeFault?] at h
    exact textFault_of_room h textFault_of_writeFaults?
  | _, _, .map _, h => by
    rw [writeFault?] at h
    exact textFault_of_room h textFault_of_entryWriteFaults?
  | _, _, .marked _ _, h => by
    rw [writeFault?] at h
    refine textFault_of_room h fun h => ?_
    split at h
    · cases h
    · exact textFault_of_writeFault? h
  | _, _, .int _, h => by
    rw [writeFault?] at h
    refine textFault_of_room h fun h => ?_
    split at h
    · cases h
    · exact Or.inr (Option.some.inj h).symm
  | _, _, .null, h | _, _, .bool _, h | _, _, .float _, h | _, _, .str _, h | _, _, .date _, h
  | _, _, .datetime _, h | _, _, .bytes _, h | _, _, .again _ _, h => by
    unfold writeFault? at h
    exact textFault_of_room h fun h => nomatch h

theorem textFault_of_writeFaults? : ∀ {around : List Nat} {room : Nat} {xs : List Value},
    writeFaults? around room xs = some f → TextFault f
  | _, _, [], h => by
    rw [writeFaults?] at h
    cases h
  | _, _, _ :: _, h => by
    rw [writeFaults?, Option.or_eq_some_iff] at h
    obtain h | ⟨-, h⟩ := h
    · exact textFault_of_writeFault? h
    · exact textFault_of_writeFaults? h

theorem textFault_of_entryWriteFaults? : ∀ {around : List Nat} {room : Nat} {es : Entries},
    entryWriteFaults? around room es = some f → TextFault f
  | _, _, [], h => by
    rw [entryWriteFaults?] at h
    cases h
  | _, _, (_, _) :: _, h => by
    rw [entryWriteFaults?, Option.or_eq_some_iff, Option.or_eq_some_iff] at h
    obtain h | ⟨-, h | ⟨-, h⟩⟩ := h
    · exact textFault_of_writeFault? h
    · exact textFault_of_writeFault? h
    · exact textFault_of_entryWriteFaults? h

end

end

theorem stops_displayed (v : Value) : Stops TextFault v.displayed := by
  rw [displayed, textBy]
  cases h : v.textFault? with
  | none => exact stops_ok
  | some f => exact stops_error (textFault_of_writeFault? h)

end Value

namespace Settings

/-! ## Settings without a gap -/

/-- The keys of all settings. -/
def usualKeys : List String := usual.filterMap (·.1.str?)

/-- Every setting has a value, and no key comes twice. -/
structure Complete (s : Settings) : Prop where
  distinct : Entries.Distinct s
  known : ∀ key ∈ usualKeys, (Entries.field? s key).isSome = true

theorem complete_usual : Complete usual where
  distinct := by simp [usual, Entries.Distinct]
  known _ hkey := Entries.isSome_field? hkey

theorem Complete.merge {s : Settings} (h : s.Complete) (layer : Settings) :
    Complete (Settings.merge s layer) := by
  rw [Settings.merge]
  induction layer generalizing s with
  | nil => exact h
  | cons e layer ih =>
    obtain ⟨k, v⟩ := e
    rw [mergeEntries]
    refine ih ⟨h.distinct.insert _ _, fun key hkey => ?_⟩
    rw [Entries.field?_insert]
    split
    · rfl
    · exact h.known key hkey

theorem complete_layered (file environment arguments : Settings) :
    Complete (layered file environment arguments) :=
  ((complete_usual.merge file).merge environment).merge arguments

/-- A value that a configuration is made of is the one that the settings have. -/
theorem Complete.value_insertAll {s : Settings} (h : s.Complete) {key : String}
    (hkey : key ∈ usualKeys) :
    value (usual.insertAll (s.filter fun e => (usual.get? e.1).isSome)) key = s.value key := by
  have hknown : ∀ v : Value, (usual.get? (Value.str key, v).1).isSome = true :=
    fun _ => complete_usual.known key hkey
  rw [value, value, Entries.field?_insertAll (h.distinct.filter _), Entries.field?_filter s hknown]
  obtain ⟨v, hv⟩ := Option.isSome_iff_exists.mp (h.known key hkey)
  rw [hv]
  rfl

/-! ## Freezing what is free of errors -/

/-- The keys of the settings that are whole numbers. -/
def wholeKeys : List String := ["chunk_size", "max_tokens", "tool_timeout"]

/-- Every setting that is checked is of the kind that its field asks for. -/
structure WellTyped (s : Settings) : Prop where
  provider : ∃ p ∈ providers, s.value "ai_provider" = .str p
  whole : ∀ key ∈ wholeKeys, ∃ i, s.value key = .int i
  timeout : (∃ i, s.value "request_timeout" = .int i) ∨ ∃ x, s.value "request_timeout" = .float x
  checks : ∃ names, textMembers? (s.value "checks") = some names
  extensions : ∃ names, textMembers? (s.value "source_extensions") = some names
  maps : ∀ key ∈ mapKeys, (s.value key).isMap = true
  template : s.value "html_template" = .null ∨ ∃ p, s.value "html_template" = .str p

/-- The keys of the settings that become texts whatever they are. -/
def textKeys : List String := ["model", "language", "ignore_file", "report_output_path",
  "github_actions_path", "gitlab_ci_path"]

/-- Settings without errors of which a configuration can be made. -/
structure Freezable (s : Settings) : Prop where
  /-- A timeout that is a whole number is in the range of doubles. -/
  timeout : ∀ i, s.value "request_timeout" = .int i → (Double.ofInt? i).isSome = true
  texts : ∀ key ∈ textKeys, (s.value key).HasText

theorem eq_map_of_mapM_str? {xs : List Value} {names : List String}
    (h : xs.mapM Value.str? = some names) : xs = names.map .str := by
  induction xs generalizing names with
  | nil =>
    obtain rfl := Option.some.inj h
    rfl
  | cons x xs ih =>
    rw [List.mapM_cons] at h
    obtain ⟨name, hname, h⟩ := Option.bind_eq_some_iff.mp h
    obtain ⟨rest, hrest, h⟩ := Option.bind_eq_some_iff.mp h
    obtain rfl := Option.some.inj h
    rw [ih hrest]
    cases x <;> cases hname
    rfl

theorem members_of_textMembers? {v : Value} {names : List String}
    (h : textMembers? v = some names) : v.members = .ok (names.map .str) := by
  obtain ⟨xs, hxs, h⟩ := Option.bind_eq_some_iff.mp h
  obtain rfl := eq_map_of_mapM_str? h
  have hmembers : v.members? = some (names.map .str) := by
    rw [listMembers?] at hxs
    rw [Value.members?]
    split at hxs
    · rename_i ys hys
      rw [hys, ← hxs]
    · rename_i ys hys
      rw [hys, ← hxs]
    · cases hxs
  rw [Value.members, hmembers]

theorem mapM_displayed (names : List String) :
    (names.map Value.str).mapM Value.displayed = .ok names := by
  have hok : ∀ v ∈ names.map Value.str, v.displayed = .ok v.display := by
    intro v hv
    obtain ⟨name, -, rfl⟩ := List.mem_map.mp hv
    rfl
  rw [mapM_eq_ok hok, List.map_map]
  exact congrArg Except.ok (List.map_id names)

theorem returns_inRange (x : Option Double) : Returns (Value.inRange x) ↔ x.isSome = true := by
  cases x with
  | none => exact iff_of_false not_returns_error (by simp)
  | some x => exact iff_of_true returns_ok rfl

theorem returns_toDouble {v : Value} (h : (∃ i, v = .int i) ∨ ∃ x, v = .float x) :
    Returns v.toDouble ↔ ∀ i, v = .int i → (Double.ofInt? i).isSome = true := by
  obtain ⟨i, rfl⟩ | ⟨x, rfl⟩ := h
  · rw [Value.toDouble, returns_inRange]
    simp only [Value.int.injEq, forall_eq']
  · rw [Value.toDouble]
    exact iff_of_true returns_ok fun _ hi => nomatch hi

theorem returns_toEntries {v : Value} (h : v.isMap = true) : Returns v.toEntries := by
  obtain ⟨es, hes⟩ := Option.isSome_iff_exists.mp h
  rw [Value.toEntries, hes]
  split
  · exact returns_ok
  · exact returns_ok

theorem returns_displayedIfHolds {v : Value} (h : v = .null ∨ ∃ s, v = .str s) :
    Returns (Config.displayedIfHolds v) := by
  obtain rfl | ⟨s, rfl⟩ := h
  · exact returns_ok
  · rw [Config.displayedIfHolds]
    split
    · exact returns_ok
    · exact returns_ok

theorem returns_ofSettings {s : Settings} (h : s.Complete) (htyped : s.WellTyped) :
    Returns (Config.ofSettings s) ↔ s.Freezable := by
  have hvalue : ∀ key ∈ usualKeys,
      value (usual.insertAll (s.filter fun e => (usual.get? e.1).isSome)) key = s.value key :=
    fun _ hkey => h.value_insertAll hkey
  obtain ⟨names, hnames⟩ := htyped.checks
  obtain ⟨extensions, hextensions⟩ := htyped.extensions
  have hmembers := members_of_textMembers? hnames
  have hextensions := members_of_textMembers? hextensions
  rw [Config.ofSettings]
  dsimp only
  simp (disch := decide) only [hvalue]
  -- No step looks at what another one gave, so that each of them has to return.
  simp only [returns_bind, returns_pure, and_true, exists_and_right, hmembers, hextensions,
    mapM_displayed, Except.ok.injEq, exists_eq_left', exists_eq', true_and]
  constructor
  · rintro ⟨-, hmodel, -, htimeout, hlanguage, -, -, hignore, -, -, -, hreport, -, hgithub, hgitlab⟩
    refine ⟨(returns_toDouble htyped.timeout).mp htimeout, ?_⟩
    simp only [textKeys, List.forall_mem_cons, ← Value.returns_displayed_iff]
    exact ⟨hmodel, hlanguage, hignore, hreport, hgithub, hgitlab, List.forall_mem_nil _⟩
  · intro hfreezable
    obtain ⟨provider, -, hprovider⟩ := htyped.provider
    have htext : ∀ key ∈ textKeys, Returns (s.value key).displayed := fun key hkey =>
      Value.returns_displayed_iff.mpr (hfreezable.texts key hkey)
    have hwhole : ∀ key ∈ wholeKeys, Returns (s.value key).toWhole := by
      intro key hkey
      obtain ⟨i, hi⟩ := htyped.whole key hkey
      rw [hi]
      exact returns_ok
    have hmap : ∀ key ∈ mapKeys, Returns (s.value key).toEntries := fun key hkey =>
      returns_toEntries (htyped.maps key hkey)
    rw [hprovider]
    exact ⟨⟨provider, rfl⟩, htext _ (by decide), hwhole _ (by decide),
      (returns_toDouble htyped.timeout).mpr hfreezable.timeout, htext _ (by decide),
      hmap _ (by decide), hwhole _ (by decide), htext _ (by decide), hmap _ (by decide),
      hmap _ (by decide), hwhole _ (by decide), htext _ (by decide),
      returns_displayedIfHolds htyped.template, htext _ (by decide), htext _ (by decide)⟩

/-! ## Faults that no check foresees -/

/-- An operation on a value of the wrong kind, a number that is too long to be written, cannot be
read or is too large for a double, or collections that stand too deep in one another. -/
def IsStray (f : Fault) : Prop :=
  f.kind ∈ ["TypeError", "ValueError", "OverflowError", "RecursionError"]

theorem isStray_wrongKind (message : String) : IsStray (.wrongKind message) := by
  simp [IsStray, Fault.kind]

theorem isStray_badValue (message : String) : IsStray (.badValue message) := by
  simp [IsStray, Fault.kind]

theorem isStray_overflow (message : String) : IsStray (.overflow message) := by
  simp [IsStray, Fault.kind]

theorem isStray_of_textFault {f : Fault} (h : Value.TextFault f) : IsStray f := by
  obtain rfl | rfl := h
  · simp [IsStray, Fault.kind]
  · exact isStray_badValue _

theorem stops_text (v : Value) : Stops IsStray v.displayed := fun f hf =>
  isStray_of_textFault (Value.stops_displayed v f hf)

theorem stops_wholeOf (s : String) : Stops IsStray (Fault.wholeOf s) := by
  rw [Fault.wholeOf]
  split
  · exact stops_ok
  · exact stops_error (isStray_badValue _)
  · exact stops_error (isStray_badValue _)

theorem stops_doubleOf (s : String) : Stops IsStray (Fault.doubleOf s) := by
  rw [Fault.doubleOf]
  split
  · exact stops_ok
  · exact stops_error (isStray_badValue _)

theorem stops_mapError {α : Type} {x : Except Fault α} {message : String} :
    Stops IsStray (x.mapError fun _ => Fault.badValue message) := by
  cases x with
  | error e => exact stops_error (isStray_badValue _)
  | ok a => exact stops_ok

theorem stops_toWhole (v : Value) : Stops IsStray v.toWhole := by
  unfold Value.toWhole
  split
  · exact stops_ok
  · exact stops_ok
  · exact stops_error (isStray_badValue _)
  · split
    · exact stops_ok
    · exact stops_error (isStray_overflow _)
  · exact stops_wholeOf _
  · split
    · exact stops_mapError
    · exact stops_error (isStray_badValue _)
  · exact stops_error (isStray_wrongKind _)

theorem stops_inRange (x : Option Double) : Stops IsStray (Value.inRange x) := by
  cases x with
  | none => exact stops_error (isStray_overflow _)
  | some x => exact stops_ok

theorem stops_toDouble (v : Value) : Stops IsStray v.toDouble := by
  unfold Value.toDouble
  split
  · exact stops_ok
  · exact stops_inRange _
  · exact stops_ok
  · exact stops_doubleOf _
  · split
    · exact stops_mapError
    · exact stops_error (isStray_badValue _)
  · exact stops_error (isStray_wrongKind _)

theorem stops_members (v : Value) : Stops IsStray v.members := by
  rw [Value.members]
  split
  · exact stops_ok
  · exact stops_error (isStray_wrongKind _)

theorem stops_pairsToMap (xs : List Value) (place : Nat) (es : Entries) :
    Stops IsStray (Value.pairsToMap place es xs) := by
  induction xs generalizing place es with
  | nil => exact stops_ok
  | cons x xs ih =>
    rw [Value.pairsToMap]
    split
    · exact stops_error (isStray_wrongKind _)
    · split
      · exact ih _ _
      · exact stops_error (isStray_wrongKind _)
    · exact stops_error (isStray_badValue _)

theorem stops_toEntries (v : Value) : Stops IsStray v.toEntries := by
  rw [Value.toEntries]
  split
  · exact stops_ok
  · split
    · exact stops_ok
    · exact (stops_members v).bind fun _ _ => stops_pairsToMap _ _ _

theorem stops_displayedIfHolds (v : Value) : Stops IsStray (Config.displayedIfHolds v) := by
  rw [Config.displayedIfHolds]
  split
  · exact (stops_text v).map
  · exact stops_ok

/-- Whatever settings are frozen, a setting that is not of its kind is a stray fault. -/
theorem stops_ofSettings (s : Settings) : Stops IsStray (Config.ofSettings s) := by
  rw [Config.ofSettings]
  refine (stops_text _).bind fun _ _ => ?_
  refine (stops_text _).bind fun _ _ => ?_
  refine (stops_toWhole _).bind fun _ _ => ?_
  refine (stops_toDouble _).bind fun _ _ => ?_
  refine (stops_members _).bind fun _ _ => ?_
  refine (stops_mapM stops_text _).bind fun _ _ => ?_
  refine (stops_text _).bind fun _ _ => ?_
  refine (stops_toEntries _).bind fun _ _ => ?_
  refine (stops_toWhole _).bind fun _ _ => ?_
  refine (stops_members _).bind fun _ _ => ?_
  refine (stops_text _).bind fun _ _ => ?_
  refine (stops_toEntries _).bind fun _ _ => ?_
  refine (stops_toEntries _).bind fun _ _ => ?_
  refine (stops_toWhole _).bind fun _ _ => ?_
  refine (stops_text _).bind fun _ _ => ?_
  refine (stops_displayedIfHolds _).bind fun _ _ => ?_
  refine (stops_text _).bind fun _ _ => ?_
  exact (stops_text _).bind fun _ _ => stops_ok

end Settings

end SecurityScan
