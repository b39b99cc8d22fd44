import SecurityScan.Proofs.Rendering

/-!
# Additional keys

A finding and a reply may have keys beside the known ones. In what is kept of a reply they have the
same values, but for two things: a key with null is left out, and a number that is not finite becomes
null. There are no other keys.
-/

namespace SecurityScan

namespace Value

/-- The value itself or one that stands somewhere in it has the property `P`. -/
inductive Contains (P : Value → Prop) : Value → Prop
  | self {v : Value} : P v → Contains P v
  | item {x : Value} {xs : List Value} : x ∈ xs → Contains P x → Contains P (.list xs)
  | field {e : Value × Value} {es : Entries} : e ∈ es → Contains P e.2 → Contains P (.map es)

theorem contains_list {P : Value → Prop} {xs : List Value} :
    (Value.list xs).Contains P ↔ P (.list xs) ∨ ∃ x ∈ xs, x.Contains P := by
  constructor
  · intro h
    cases h with
    | self h => exact .inl h
    | item hx h => exact .inr ⟨_, hx, h⟩
  · rintro (h | ⟨x, hx, h⟩)
    exacts [.self h, .item hx h]

theorem contains_map {P : Value → Prop} {es : Entries} :
    (Value.map es).Contains P ↔ P (.map es) ∨ ∃ e ∈ es, e.2.Contains P := by
  constructor
  · intro h
    cases h with
    | self h => exact .inl h
    | field he h => exact .inr ⟨_, he, h⟩
  · rintro (h | ⟨e, he, h⟩)
    exacts [.self h, .field he h]

def IsNonFinite : Value → Prop
  | .float .nan | .float (.infinite _) => True
  | _ => False

/-- A number in the value is not finite. -/
def HasNonFinite (v : Value) : Prop := v.Contains IsNonFinite

theorem plainAll_eq_map (xs : List Value) : plainAll xs = xs.map plain := by
  induction xs with
  | nil => rfl
  | cons x xs ih => rw [plainAll, ih, List.map_cons]

theorem plainEntries_eq_map (es : Entries) :
    plainEntries es = es.map fun e => (plainKey e.1, e.2.plain) := by
  induction es with
  | nil => rfl
  | cons e es ih => rw [plainEntries, ih, List.map_cons]

theorem map_eq_self_iff {α : Type} {f : α → α} {xs : List α} :
    xs.map f = xs ↔ ∀ x ∈ xs, f x = x := by
  conv_lhs => rhs; rw [← List.map_id xs]
  exact List.map_inj_left

/-- Plain values of JSON differ from the values themselves only in numbers that are not finite. -/
theorem plain_eq_self_iff {v : Value} (h : v.IsJsonTree) : v.plain = v ↔ ¬v.HasNonFinite := by
  unfold HasNonFinite
  induction h with
  | null | bool | int | str =>
    exact iff_of_true (by simp [plain]) fun h => by cases h with | self h => exact h
  | float x =>
    cases x with
    | nan => exact iff_of_false (by simp [plain]) fun h => h (.self trivial)
    | infinite neg => exact iff_of_false (by simp [plain]) fun h => h (.self trivial)
    | finite => exact iff_of_true (by simp [plain]) fun h => by cases h with | self h => exact h
  | @list xs _ ih =>
    rw [plain, plainAll_eq_map, Value.list.injEq, map_eq_self_iff, contains_list, not_or,
      and_iff_right (show ¬IsNonFinite (.list xs) from id), not_exists]
    exact forall_congr' fun x => ⟨fun h ⟨hx, hx'⟩ => (ih x hx).mp (h hx) hx',
      fun h hx => (ih x hx).mpr fun hx' => h ⟨hx, hx'⟩⟩
  | @map es hkeys _ ih =>
    rw [plain, plainEntries_eq_map, Value.map.injEq, map_eq_self_iff, contains_map, not_or,
      and_iff_right (show ¬IsNonFinite (.map es) from id), not_exists]
    have hplain : ∀ e ∈ es, (plainKey e.1, e.2.plain) = e ↔ e.2.plain = e.2 := by
      rintro ⟨k, v⟩ he
      obtain ⟨s, rfl⟩ := hkeys _ he
      simp [plainKey]
    exact forall_congr' fun e =>
      ⟨fun h ⟨he, he'⟩ => (ih e he).mp ((hplain e he).mp (h he)) he',
        fun h he => (hplain e he).mpr ((ih e he).mpr fun he' => h ⟨he, he'⟩)⟩

end Value

namespace Reply

theorem isJsonTree_of_objectOf {raw : Value} {es : Entries} (h : objectOf? raw = some es)
    (hraw : raw.IsJsonTree) : (Value.map es).IsJsonTree := by
  cases raw with
  | map fs =>
    obtain rfl := Option.some.inj h
    exact hraw
  | str s => exact Value.IsDecoded.isJsonTree (entriesDecoded_of_objectOf h trivial)
  | _ => cases h

/-! ## Forwarding -/

/-- Beside the known keys, `fs` has the entries of `es` whose values are not null, and no others. A
value stays as it is unless a number in it is not finite. -/
def Forwards (known : List String) (es fs : Entries) : Prop :=
  ∀ k v, (∀ name ∈ known, k ≠ .str name) →
    ((k, v) ∈ fs ↔
      ∃ w, (k, w) ∈ es ∧ w.isNull = false ∧ v = w.plain ∧ (v = w ↔ ¬w.HasNonFinite))

theorem mem_keptExtras {es : Entries} {k v : Value} :
    (k, v) ∈ keptExtras es ↔ ∃ w, (k, w) ∈ es ∧ w.isNull = false ∧ w.plain = v := by
  simp only [keptExtras, List.mem_map, List.mem_filter, Prod.exists, Prod.mk.injEq,
    Bool.not_eq_true']
  constructor
  · rintro ⟨k, w, ⟨hmem, hnull⟩, rfl, hv⟩
    exact ⟨w, hmem, hnull, hv⟩
  · rintro ⟨w, hmem, hnull, hv⟩
    exact ⟨k, w, ⟨hmem, hnull⟩, rfl, hv⟩

theorem forwards_of_beside {known : List String} {es fs : Entries}
    (htree : ∀ e ∈ es, e.2.IsJsonTree) (h : beside known fs = keptExtras (beside known es)) :
    Forwards known es fs := by
  intro k v hk
  have hother : ∀ {w} {gs : Entries}, (k, w) ∈ gs ↔ (k, w) ∈ beside known gs := by
    intro w gs
    rw [mem_beside, and_iff_left hk]
  rw [hother, h, mem_keptExtras]
  refine exists_congr fun w => ?_
  rw [← hother]
  refine and_congr_right fun hmem => and_congr_right fun _ => ?_
  constructor
  · rintro rfl
    exact ⟨rfl, Value.plain_eq_self_iff (htree _ hmem)⟩
  · exact fun hv => hv.1.symm

/-- What is kept of a finding has its additional entries. -/
theorem forwards_finding {f : Finding} {es : Entries} (h : f.In es)
    (htree : (Value.map es).IsJsonTree) : ∃ gs, keptFinding f.toEntries = .map gs ∧
      Forwards findingKeys es gs := by
  refine ⟨_, Finding.keptFinding_eq h.isApart, forwards_of_beside htree.values ?_⟩
  have hkept : ∀ e ∈ keptExtras f.more, ∀ k ∈ findingKeys, e.1 ≠ .str k := by
    rintro ⟨k, v⟩ he
    obtain ⟨w, hw, -⟩ := mem_keptExtras.mp he
    exact h.isApart (k, w) hw
  rw [beside_append, beside_eq_nil fun _ => Finding.key_of_mem_known, beside_eq_self hkept,
    List.nil_append, h.more]

section
variable {r : Envelope} {es : Entries} (hr : r.In es) (htree : (Value.map es).IsJsonTree)
include hr htree

/-- What is kept of an envelope has its additional entries. -/
theorem forwards_envelope (findings : Value) :
    Forwards [envelopeKey] es ((.str envelopeKey, findings) :: keptExtras r.more) := by
  refine forwards_of_beside htree.values ?_
  rw [beside_cons_of_mem (List.mem_singleton_self _), ← hr.more]
  refine beside_eq_self fun e he => ?_
  obtain ⟨w, hw, -⟩ := mem_keptExtras.mp he
  rw [hr.more] at hw
  exact (mem_beside.mp hw).2

theorem forwards_findings : ∃ xs, es.field? envelopeKey = some (.list xs) ∧
    List.Forall₂ (fun x y => ∃ fs gs, x = .map fs ∧ y = .map gs ∧ Forwards findingKeys fs gs) xs
      ((r.findings.map Finding.toEntries).map keptFinding) := by
  obtain ⟨xs, hxs, hfs⟩ := hr.findings
  have htrees := (htree.field hxs).items
  refine ⟨xs, hxs, ?_⟩
  rw [List.map_map, List.forall₂_map_right_iff]
  refine ((List.forall₂_and_left _ _).mpr ⟨htrees, hfs⟩).imp ?_
  rintro x f ⟨hx, fs, rfl, hin⟩
  obtain ⟨gs, hgs, hforwards⟩ := forwards_finding hin hx
  exact ⟨fs, gs, rfl, hgs, hforwards⟩

end

/-- **Additional keys.** Of every reply that is kept, the reply and each of its findings has the
additional keys that came with it and no others, but for those with null, and under them the values
that came, in which only numbers that are not finite have become null. -/
theorem read_forwards (raw kept : Value) (hraw : raw.IsJsonTree)
    (h : (read raw).run.value = .ok (some kept)) :
    ∃ es rs xs ys, objectOf? raw = some es ∧ kept = .map rs ∧ Forwards ["security_risks"] es rs ∧
      es.field? "security_risks" = some (.list xs) ∧
      Entries.field? rs "security_risks" = some (.list ys) ∧
      List.Forall₂ (fun x y => ∃ fs gs, x = .map fs ∧ y = .map gs ∧
        Forwards ["type", "location", "details", "severity", "code_snippet"] fs gs) xs ys := by
  obtain ⟨es, hobject, h⟩ := exists_map_of_read h
  have hes := isJsonTree_of_objectOf hobject hraw
  rw [value_read_map] at h
  cases henvelope : envelopeOf es with
  | error n => rw [henvelope] at h; cases h
  | ok p =>
    obtain ⟨findings, more⟩ := p
    rw [henvelope] at h
    change (checkedValue findings more).map some = _ at h
    cases hchecked : checkedValue findings more with
    | error f => rw [hchecked] at h; cases h
    | ok v =>
      rw [hchecked] at h
      obtain rfl : v = kept := Option.some.inj (Except.ok.inj h)
      obtain ⟨r, hr, -, rfl, rfl⟩ := (envelopeOf_eq_ok hes).mp henvelope
      obtain ⟨xs, hxs, hfindings⟩ := forwards_findings hr hes
      refine ⟨es, _, xs, _, hobject, eq_of_checkedValue hchecked, forwards_envelope hr hes _, hxs,
        ?_, hfindings⟩
      rw [Entries.field?_cons_str, envelopeKey, if_pos rfl]

/-! ## A key that is lost -/

/-- A finding with a weakness under a key of its own. -/
def weakFinding (weakness : Value) : Entries := [
  (.str "type", .str "XSS"), (.str "location", .str "a.rb:1"), (.str "details", .str "d"),
  (.str "severity", .str "High"), (.str "cwe", weakness)]

def weakReply (weakness : Value) : Entries :=
  [(.str "security_risks", .list [.map (weakFinding weakness)])]

def weakRisk (weakness : Value) : Finding :=
  ⟨"XSS", "a.rb:1", "d", .high, none, [(.str "cwe", weakness)]⟩

def weakEnvelope (weakness : Value) : Envelope := ⟨[weakRisk weakness], []⟩

theorem weakRisk_in (weakness : Value) : (weakRisk weakness).In (weakFinding weakness) where
  type := by simp [weakRisk, weakFinding, Entries.field?_cons_str]
  location := by simp [weakRisk, weakFinding, Entries.field?_cons_str]
  details := by simp [weakRisk, weakFinding, Entries.field?_cons_str]
  severity := ⟨"High", by simp [weakFinding, Entries.field?_cons_str],
    show Text.capitalize (Text.strip "High") = Severity.high.name by decide⟩
  snippet := by simp [weakRisk, weakFinding, Entries.field?_cons_str]
  more := by simp [weakRisk, weakFinding, beside, findingKeys]

theorem weakEnvelope_in (weakness : Value) : (weakEnvelope weakness).In (weakReply weakness) where
  findings := ⟨[.map (weakFinding weakness)],
    by simp [weakReply, Entries.field?_cons_str, envelopeKey],
    .cons ⟨weakFinding weakness, rfl, weakRisk_in weakness⟩ .nil⟩
  more := by simp [weakEnvelope, weakReply, beside, envelopeKey]

theorem read_weakReply {weakness : Value} (hj : weakness.isJson = true)
    (hdepth : weakness.depth ≤ maxDepth) : (read (.map (weakReply weakness))).run.value =
      .ok (some (.map (weakEnvelope weakness).kept.toEntries)) := by
  have hkeys : ∀ s ∈ ["security_risks", "type", "location", "details", "severity", "cwe", "XSS",
      "a.rb:1", "d", "High"], Text.hasLoneHalf s = false := by decide
  simp only [List.forall_mem_cons] at hkeys
  have hjson : Value.entriesJson (weakReply weakness) = true := by
    simp [weakReply, weakFinding, Value.entriesJson, Value.isJson, Value.allJson, Value.str?, hkeys, hj]
  refine (read_of_in hjson (weakEnvelope_in weakness)).2 ?_
  rintro ⟨e, he, hdeep⟩
  obtain rfl : e = (.str "cwe", weakness) := by
    simpa [weakEnvelope, weakRisk, Envelope.others] using he
  exact absurd hdeep (Nat.not_lt.mpr hdepth)

/-- A list with null under an additional key. -/
def weaknesses : Value := .map [(.str "ids", .list [.str "CWE-79", .null])]

/-- What is under an additional key stays, with the nulls inside it. -/
theorem read_forwards_weaknesses : (Value.map (weakReply weaknesses)).IsJsonTree ∧
    ∃ rs xs ys, Forwards ["security_risks"] (weakReply weaknesses) rs ∧
      (weakReply weaknesses).field? "security_risks" = some (.list xs) ∧
      Entries.field? rs "security_risks" = some (.list ys) ∧
      List.Forall₂ (fun x y => ∃ fs gs, x = .map fs ∧ y = .map gs ∧
        Forwards ["type", "location", "details", "severity", "code_snippet"] fs gs) xs ys := by
  have htree : (Value.map (weakReply weaknesses)).IsJsonTree :=
    Value.IsDecoded.isJsonTree (by
      simp [weakReply, weakFinding, weaknesses, Value.IsDecoded, Value.EntriesDecoded,
        Value.AllDecoded])
  obtain ⟨es, rs, xs, ys, hobject, -, h⟩ :=
    read_forwards _ _ htree (@read_weakReply weaknesses (by decide) (by decide))
  obtain rfl := Option.some.inj hobject
  exact ⟨htree, rs, xs, ys, h⟩

/-- An additional key with null is not in what is kept. -/
theorem null_not_forwarded : (.str "cwe", .null) ∈ weakFinding .null ∧
    ∃ rs gs, (read (.map (weakReply .null))).run.value = .ok (some (.map rs)) ∧
      Entries.field? rs "security_risks" = some (.list [.map gs]) ∧
      Entries.field? gs "cwe" = none := by
  refine ⟨by simp [weakFinding], _, (weakRisk .null).kept.toEntries,
    read_weakReply (by decide) (by decide), ?_, ?_⟩
  · rw [Envelope.toEntries, Entries.field?_cons_str, envelopeKey, if_pos rfl]
    rfl
  · simp [weakRisk, Finding.toEntries, Finding.known, Finding.kept, Entries.field?_cons_str,
      Value.isNull]

end Reply

end SecurityScan
