import SecurityScan.Proofs.Decoding
import SecurityScan.Proofs.Forwarding

/-!
# How an analysis ends

A question without an answer has null for one, and so has a reply that is no JSON or does not fit. What
is left are four faults: the text of the reply nests too deep or has a number of too many digits, or the
reply fits and something beside its known keys nests too deep or has a key that has no form as bytes.
-/

namespace SecurityScan

/-! ## Keys without a form as bytes -/

namespace Value

/-- A map with a key that has no form as bytes. -/
def HoldsBadKey : Value → Prop
  | .map es => ∃ e ∈ es, ∃ s, e.1 = .str s ∧ Text.hasLoneHalf s = true
  | _ => False

/-- A map in the value has a key that has no form as bytes. -/
def HasBadKey (v : Value) : Prop := v.Contains HoldsBadKey

theorem allKeysEncodable_iff {xs : List Value} :
    allKeysEncodable xs = true ↔ ∀ x ∈ xs, x.keysEncodable = true := by
  induction xs with
  | nil => simp [allKeysEncodable]
  | cons x xs ih => simp [allKeysEncodable, ih]

theorem entryKeysEncodable_iff {es : Entries} : entryKeysEncodable es = true ↔
    ∀ e ∈ es, e.1.str?.all (!Text.hasLoneHalf ·) = true ∧ e.2.keysEncodable = true := by
  induction es with
  | nil => simp [entryKeysEncodable]
  | cons e es ih => simp [entryKeysEncodable, ih]

theorem keysEncodable_iff {v : Value} (h : v.IsJsonTree) :
    v.keysEncodable = true ↔ ¬v.HasBadKey := by
  unfold HasBadKey
  induction h with
  | null | bool | int | float | str =>
    exact iff_of_true (by simp [keysEncodable]) fun h => by cases h with | self h => exact h
  | @list xs _ ih =>
    rw [keysEncodable, allKeysEncodable_iff, contains_list, not_or,
      and_iff_right (show ¬HoldsBadKey (.list xs) from id), not_exists]
    exact forall_congr' fun x => ⟨fun h ⟨hx, hx'⟩ => (ih x hx).mp (h hx) hx',
      fun h hx => (ih x hx).mpr fun hx' => h ⟨hx, hx'⟩⟩
  | @map es hkeys _ ih =>
    rw [keysEncodable, entryKeysEncodable_iff, contains_map, not_or]
    constructor
    · intro h
      constructor
      · rintro ⟨e, he, s, hs, hhalf⟩
        have hfit := (h e he).1
        simp [hs, str?, hhalf] at hfit
      · rintro ⟨e, he, hbad⟩
        exact (ih e he).mp (h e he).2 hbad
    · rintro ⟨hhere, hbelow⟩ e he
      refine ⟨?_, (ih e he).mpr fun hbad => hbelow ⟨e, he, hbad⟩⟩
      obtain ⟨s, hs⟩ := hkeys e he
      cases hhalf : Text.hasLoneHalf s with
      | false => simp [hs, str?, hhalf]
      | true => exact absurd ⟨e, he, s, hs, hhalf⟩ hhere

end Value

namespace Reply

/-! ## Which replies are kept -/

/-- A reply that fits and whose additional keys have forms as bytes. -/
def IsAccepted (es : Entries) : Prop :=
  Fits es ∧ ∀ e, IsAdditional es e → ∃ s, e.1 = .str s ∧ Text.hasLoneHalf s = false

/-- In what stands under the additional keys there is a key without a form as bytes. -/
def HasBadEntry (es : Entries) : Prop := ∃ e, IsAdditional es e ∧ e.2.HasBadKey

section
variable {es : Entries} (htree : (Value.map es).IsJsonTree)
include htree

theorem isJsonTree_of_isAdditional {e : Value × Value} (he : IsAdditional es e) : e.2.IsJsonTree := by
  obtain ⟨he, -⟩ | ⟨xs, fs, hxs, hfs, he, -⟩ := he
  · exact htree.values e he
  · exact ((htree.field hxs).items _ hfs).values e he

/-- The parts of a reply that is accepted. -/
theorem isAccepted_iff : IsAccepted es ↔ ∃ r : Envelope, r.In es ∧
    envelopeOf es = .ok (r.findings.map Finding.toEntries, r.more) := by
  constructor
  · rintro ⟨hfits, hkeys⟩
    obtain ⟨r, hr⟩ := fits_iff.mp hfits
    have hfit : KeysFit r.others := fun e he => hkeys e (hr.mem_others_iff.mp he)
    exact ⟨r, hr, (envelopeOf_eq_ok htree).mpr ⟨r, hr, hfit, rfl, rfl⟩⟩
  · rintro ⟨r, -, henvelope⟩
    obtain ⟨r, hr, hfit, -⟩ := (envelopeOf_eq_ok htree).mp henvelope
    exact ⟨fits_iff.mpr ⟨r, hr⟩, fun e he => hfit e (hr.mem_others_iff.mpr he)⟩

/-- Some of the other entries cannot be kept for their keys when one has such a key inside. -/
theorem any_badKey_iff {r : Envelope} (hr : r.In es) :
    (r.others.any fun e => !e.2.keysEncodable) = true ↔ HasBadEntry es := by
  rw [List.any_eq_true]
  refine exists_congr fun e => ?_
  rw [hr.mem_others_iff, Bool.not_eq_true']
  refine and_congr_right fun he => ?_
  rw [← not_iff_not, Bool.not_eq_false]
  exact Value.keysEncodable_iff (isJsonTree_of_isAdditional htree he)

/-- What comes of a reply that is a map. -/
theorem value_read_tree :
    let answer := (read (.map es)).run.value
    (¬IsAccepted es → answer = .ok none) ∧
    (IsAccepted es → IsTooDeep es → answer = .error depthExceeded) ∧
    (IsAccepted es → ¬IsTooDeep es → HasBadEntry es → answer = .error .unencodable) ∧
    (IsAccepted es → ¬IsTooDeep es → ¬HasBadEntry es → ∃ v, answer = .ok (some v)) := by
  intro answer
  have hanswer := value_read_map es
  by_cases haccepted : IsAccepted es
  · obtain ⟨r, hr, henvelope⟩ := (isAccepted_iff htree).mp haccepted
    rw [henvelope] at hanswer
    simp only [checkedValue, otherEntries_eq hr] at hanswer
    refine ⟨fun h => absurd haccepted h, fun _ hdeep => ?_, fun _ hdeep hbad => ?_,
      fun _ hdeep hbad => ?_⟩
    · rw [if_pos ((any_tooDeep r).mpr (hr.tooDeep_iff.mpr hdeep))] at hanswer
      exact hanswer
    · rw [if_neg fun h => hdeep (hr.tooDeep_iff.mp ((any_tooDeep r).mp h)),
        if_pos ((any_badKey_iff htree hr).mpr hbad)] at hanswer
      exact hanswer
    · rw [if_neg fun h => hdeep (hr.tooDeep_iff.mp ((any_tooDeep r).mp h)),
        if_neg fun h => hbad ((any_badKey_iff htree hr).mp h)] at hanswer
      exact ⟨_, hanswer⟩
  · have hnone : answer = .ok none := by
      cases henvelope : envelopeOf es with
      | error n =>
        rw [henvelope] at hanswer
        exact hanswer
      | ok p =>
        obtain ⟨r, hr, -, hfindings, hmore⟩ := (envelopeOf_eq_ok htree).mp henvelope
        refine absurd ((isAccepted_iff htree).mpr ⟨r, hr, ?_⟩) haccepted
        rw [henvelope, ← hfindings, ← hmore]
    refine ⟨fun _ => hnone, ?_, ?_, ?_⟩
    all_goals exact fun h => absurd h haccepted

end

/-! ## What stops the reading of a reply -/

/-- The fault of a text that is not read, unless it is only malformed. -/
def decodingFault? : Json.Error → Option Fault
  | .malformed .. => none
  | .tooManyDigits n => some (.tooManyDigits n)
  | .tooDeep => some .tooDeep

theorem value_read_of_error {s : String} {e : Json.Error} (h : Json.read (withoutFence s) = .error e) :
    (read (.str s)).run.value = match decodingFault? e with
      | none => .ok none
      | some f => .error f := by
  rw [read, Attempt.value_bind, value_decoded, h]
  cases e <;> rfl

theorem value_read_of_ok {s : String} {v : Value} (h : Json.read (withoutFence s) = .ok v) :
    (read (.str s)).run.value = (checked v).run.value := by
  rw [read, Attempt.value_bind, value_decoded, h]

theorem value_checked_of_not_map {v : Value} (h : ∀ es, v ≠ .map es) :
    (checked v).run.value = .ok none := by
  cases v with
  | map es => exact absurd rfl (h es)
  | _ => rfl

/-- A reply means what its map means. -/
theorem value_read_of_objectOf {raw : Value} {es : Entries} (h : objectOf? raw = some es) :
    (read raw).run.value = (read (.map es)).run.value := by
  unfold objectOf? at h
  split at h
  · obtain rfl := Option.some.inj h
    rfl
  · split at h
    · rename_i hs
      obtain rfl := Option.some.inj h
      exact value_read_of_ok hs
    · cases h
  · cases h

/-- The faults that a reply can come to, and what it is then. -/
inductive Stops (raw : Value) : Fault → Prop
  /-- A text that nests too deep to be read. -/
  | deepText {s : String} : raw = .str s → Json.read (withoutFence s) = .error .tooDeep →
    Stops raw .tooDeep
  /-- A text with a number that is too long to be read. -/
  | longNumber {s : String} {n : Nat} : raw = .str s →
    Json.read (withoutFence s) = .error (.tooManyDigits n) → Stops raw (.tooManyDigits n)
  /-- A reply that is accepted, with something nested too deep under an additional key. -/
  | deepEntry {es : Entries} : objectOf? raw = some es → IsAccepted es → IsTooDeep es →
    Stops raw depthExceeded
  /-- A reply that is accepted, with a key without a form as bytes inside an additional entry. -/
  | badKey {es : Entries} : objectOf? raw = some es → IsAccepted es → ¬IsTooDeep es →
    HasBadEntry es → Stops raw .unencodable

theorem stops_iff_of_objectOf {raw : Value} {es : Entries} (h : objectOf? raw = some es) {f : Fault} :
    Stops raw f ↔ IsAccepted es ∧
      (IsTooDeep es ∧ f = depthExceeded ∨ ¬IsTooDeep es ∧ HasBadEntry es ∧ f = .unencodable) := by
  have htext : ∀ s e, raw = .str s → Json.read (withoutFence s) ≠ .error e := by
    intro s e hraw hs
    rw [hraw, objectOf?_str, hs] at h
    cases h
  constructor
  · intro hf
    cases hf with
    | deepText hraw hs => exact absurd hs (htext _ _ hraw)
    | longNumber hraw hs => exact absurd hs (htext _ _ hraw)
    | deepEntry hes haccepted hdeep =>
      obtain rfl := Option.some.inj (h.symm.trans hes)
      exact ⟨haccepted, .inl ⟨hdeep, rfl⟩⟩
    | badKey hes haccepted hdeep hbad =>
      obtain rfl := Option.some.inj (h.symm.trans hes)
      exact ⟨haccepted, .inr ⟨hdeep, hbad, rfl⟩⟩
  · rintro ⟨haccepted, ⟨hdeep, rfl⟩ | ⟨hdeep, hbad, rfl⟩⟩
    exacts [.deepEntry h haccepted hdeep, .badKey h haccepted hdeep hbad]

theorem stops_iff_of_no_object {raw : Value} (h : objectOf? raw = none) {f : Fault} :
    Stops raw f ↔
      ∃ s e, raw = .str s ∧ Json.read (withoutFence s) = .error e ∧ decodingFault? e = some f := by
  constructor
  · intro hf
    cases hf with
    | deepText hraw hs => exact ⟨_, _, hraw, hs, rfl⟩
    | longNumber hraw hs => exact ⟨_, _, hraw, hs, rfl⟩
    | deepEntry hes => rw [h] at hes; cases hes
    | badKey hes => rw [h] at hes; cases hes
  · rintro ⟨s, e, hraw, hs, hf⟩
    cases e with
    | malformed => cases hf
    | tooManyDigits n =>
      obtain rfl := Option.some.inj hf
      exact .longNumber hraw hs
    | tooDeep =>
      obtain rfl := Option.some.inj hf
      exact .deepText hraw hs

/-- What a reply of the kinds that JSON has comes to, when it is not read. -/
theorem read_eq_error_iff {raw : Value} (hraw : raw.IsJsonTree) {f : Fault} :
    (read raw).run.value = .error f ↔ Stops raw f := by
  cases hobject : objectOf? raw with
  | some es =>
    obtain ⟨hnone, hdeep, hbad, hkept⟩ := value_read_tree (isJsonTree_of_objectOf hobject hraw)
    rw [value_read_of_objectOf hobject, stops_iff_of_objectOf hobject]
    by_cases h₁ : IsAccepted es
    · by_cases h₂ : IsTooDeep es
      · rw [hdeep h₁ h₂]
        simp [h₁, h₂, eq_comm]
      · by_cases h₃ : HasBadEntry es
        · rw [hbad h₁ h₂ h₃]
          simp [h₁, h₂, h₃, eq_comm]
        · obtain ⟨v, hv⟩ := hkept h₁ h₂ h₃
          rw [hv]
          simp [h₂, h₃]
    · rw [hnone h₁]
      simp [h₁]
  | none =>
    rw [stops_iff_of_no_object hobject]
    cases raw with
    | str s =>
      cases hs : Json.read (withoutFence s) with
      | ok v =>
        have hmap : ∀ es, v ≠ .map es := by
          rintro es rfl
          rw [objectOf?_str, hs] at hobject
          cases hobject
        rw [value_read_of_ok hs, value_checked_of_not_map hmap]
        refine iff_of_false (by rintro ⟨⟩) ?_
        rintro ⟨t, e, ht, he, -⟩
        obtain rfl := Value.str.inj ht
        rw [hs] at he
        cases he
      | error e =>
        have hfault : (∃ t e', Value.str s = .str t ∧ Json.read (withoutFence t) = .error e' ∧
            decodingFault? e' = some f) ↔ decodingFault? e = some f := by
          constructor
          · rintro ⟨t, e', ht, he', hf⟩
            obtain rfl := Value.str.inj ht
            obtain rfl := Except.error.inj (hs.symm.trans he')
            exact hf
          · exact fun hf => ⟨s, e, rfl, hs, hf⟩
        rw [value_read_of_error hs, hfault]
        cases decodingFault? e <;> simp
    | map es => cases hobject
    | _ => exact iff_of_false (by rintro ⟨⟩) (by rintro ⟨s, e, hs, -⟩; cases hs)

/-- The faults that a reply of any kind can come to. -/
theorem fault_of_read {raw : Value} {f : Fault} (h : (read raw).run.value = .error f) :
    f = .tooDeep ∨ (∃ n, f = .tooManyDigits n) ∨ f = depthExceeded ∨ f = .unencodable := by
  have hmap : ∀ es, (read (.map es)).run.value = .error f → f = depthExceeded ∨ f = .unencodable := by
    intro es hes
    rw [value_read_map] at hes
    split at hes
    · simp only [checkedValue] at hes
      split at hes
      · exact .inl (Except.error.inj hes).symm
      · split at hes
        · exact .inr (Except.error.inj hes).symm
        · cases hes
    · cases hes
  cases hobject : objectOf? raw with
  | some es =>
    rw [value_read_of_objectOf hobject] at h
    exact .inr (.inr (hmap es h))
  | none =>
    cases raw with
    | str s =>
      cases hs : Json.read (withoutFence s) with
      | ok v =>
        rw [value_read_of_ok hs, value_checked_of_not_map] at h
        · cases h
        · rintro es rfl
          rw [objectOf?_str, hs] at hobject
          cases hobject
      | error e =>
        rw [value_read_of_error hs] at h
        cases e with
        | malformed => cases h
        | tooManyDigits n => exact .inr (.inl ⟨n, (Except.error.inj h).symm⟩)
        | tooDeep => exact .inl (Except.error.inj h).symm
    | map es => cases hobject
    | _ => cases h

/-! ## Texts that are read -/

theorem fenced?_isInfix {cs inner : List Char} (h : fenced? cs = some inner) : inner <:+: cs := by
  obtain ⟨rest, hrest, hend⟩ := Option.bind_eq_some_iff.mp h
  obtain rfl := afterStart?_eq_some.mp hrest
  have hinner := beforeEnd?_eq_some.mp hend
  have htag : (afterStart? languageTag rest).getD rest <:+ rest := by
    cases ht : afterStart? languageTag rest with
    | none => exact List.suffix_rfl
    | some r =>
      obtain rfl := afterStart?_eq_some.mp ht
      exact List.suffix_append _ _
  have hprefix : inner <+: (afterStart? languageTag rest).getD rest := ⟨fence, hinner.symm⟩
  exact hprefix.isInfix.trans (htag.isInfix.trans (List.suffix_append _ _).isInfix)

/-- What stands between the fences stands in the text. -/
theorem withoutFence_infix (s : String) : (withoutFence s).toList <:+: s.toList := by
  rw [withoutFence, String.toList_ofList]
  have htrim := Text.trimBy_infix Text.isBlank s.toList
  split
  · rename_i inner hinner
    exact (Text.trimBy_infix _ inner).trans ((fenced?_isInfix hinner).trans htrim)
  · exact htrim

/-- A text with few brackets and only short runs of digits is read, unless it is malformed. -/
theorem decodingFault?_eq_none {s : String} {e : Json.Error}
    (h : Json.read (withoutFence s) = .error e)
    (hbrackets : s.toList.countP Json.isOpening ≤ Json.maxDepth)
    (hdigits : ∀ ds, ds <:+: s.toList → Json.AllDigits ds → ds.length ≤ Number.maxDigits) :
    decodingFault? e = none := by
  have hinfix := withoutFence_infix s
  cases e with
  | malformed => rfl
  | tooManyDigits n =>
    obtain ⟨hn, ds, hds, hlength, hrun⟩ := Json.exists_of_tooManyDigits h
    have hshort := hdigits ds (hds.trans hinfix) hrun
    omega
  | tooDeep =>
    have hdeep := Json.countP_of_tooDeep h
    have hfew := hinfix.sublist.countP_le (p := Json.isOpening)
    omega

end Reply

/-! ## Analyses -/

namespace Manager

section
variable {raw : Value}

theorem meaning_eq_error_iff {f : Fault} :
    meaning raw = .error f ↔ (Reply.read raw).run.value = .error f := by
  rw [meaning]
  cases (Reply.read raw).run.value <;> simp [Except.map]

/-- What is meant is nothing or a list of findings. -/
theorem kept_of_meaning {v : Value} (h : meaning raw = .ok v) : v = .null ∨
    ∃ fs, CombinedReport.findingsOf? v = some fs ∧ ∀ f ∈ fs, Reply.IsKept f := by
  rw [meaning] at h
  cases hread : (Reply.read raw).run.value with
  | error f => rw [hread] at h; cases h
  | ok kept =>
    rw [hread] at h
    obtain rfl := Except.ok.inj h
    cases kept with
    | none => exact .inl rfl
    | some v => exact .inr (Reply.findingsOf?_of_read hread)

end

/-- **How an analysis ends.** A question that comes to a fault, wherever the fault arises, has null for
an answer. Every answer is null or has a list of findings in their kept form. The analysis itself comes
to one of four faults, and of a reply of the kinds that JSON has, as every text is, it is told which
replies do: a text only when it has more than so many opening brackets or digits in a row, and
otherwise a reply that fits, for what stands under its additional keys. -/
theorem analyze_ends {σ : Type} (m : Manager) (send : Backend.Request → Session σ Sent)
    (prompt : String) (schema : Value) (w : σ) :
    let called := (m.call send prompt schema w).value.1
    let answer := (m.analyze send prompt schema w).value.1
    (∀ f, called = .error f → answer = .ok .null) ∧
    (∀ v, answer = .ok v → v = .null ∨
      ∃ fs, CombinedReport.findingsOf? v = some fs ∧ ∀ f ∈ fs, Reply.IsKept f) ∧
    ∀ raw, called = .ok raw →
      (∀ f, answer = .error f → f = .tooDeep ∨ (∃ n, f = .tooManyDigits n) ∨
        f = Reply.depthExceeded ∨ f = .unencodable) ∧
      (raw.IsJsonTree → ∀ f, answer = .error f ↔ Reply.Stops raw f) ∧
      ∀ s, raw = .str s → s.toList.countP Json.isOpening ≤ Json.maxDepth →
        (∀ ds, ds <:+: s.toList → Json.AllDigits ds → ds.length ≤ Number.maxDigits) →
        ∀ f, answer = .error f →
          ∃ es, Reply.objectOf? raw = some es ∧ Reply.IsAccepted es ∧
            (Reply.IsTooDeep es ∨ Reply.HasBadEntry es) := by
  intro called answer
  have hstopped : ∀ f, called = .error f → answer = .ok .null := fun f hf =>
    value_analyze_call.trans (by rw [show (m.call send prompt schema w).value.1 = .error f from hf])
  have hmeaning : ∀ raw, called = .ok raw → answer = meaning raw := fun raw hraw =>
    value_analyze_call.trans (by rw [show (m.call send prompt schema w).value.1 = .ok raw from hraw])
  refine ⟨hstopped, fun v hv => ?_, fun raw hraw => ⟨fun f hf => ?_, fun htree f => ?_, ?_⟩⟩
  · cases hcalled : called with
    | ok raw =>
      rw [hmeaning raw hcalled] at hv
      exact kept_of_meaning hv
    | error f =>
      rw [hstopped f hcalled] at hv
      exact .inl (Except.ok.inj hv).symm
  · rw [hmeaning raw hraw] at hf
    exact Reply.fault_of_read (meaning_eq_error_iff.mp hf)
  · rw [hmeaning raw hraw]
    exact meaning_eq_error_iff.trans (Reply.read_eq_error_iff htree)
  · rintro s rfl hbrackets hdigits f hf
    rw [hmeaning _ hraw] at hf
    have hstops := (Reply.read_eq_error_iff (.str s)).mp (meaning_eq_error_iff.mp hf)
    cases hobject : Reply.objectOf? (.str s) with
    | some es =>
      obtain ⟨haccepted, ⟨hdeep, -⟩ | ⟨-, hbad, -⟩⟩ := (Reply.stops_iff_of_objectOf hobject).mp hstops
      exacts [⟨es, rfl, haccepted, .inl hdeep⟩, ⟨es, rfl, haccepted, .inr hbad⟩]
    | none =>
      obtain ⟨t, e, ht, he, hfault⟩ := (Reply.stops_iff_of_no_object hobject).mp hstops
      obtain rfl := Value.str.inj ht
      rw [Reply.decodingFault?_eq_none he hbrackets hdigits] at hfault
      cases hfault

end Manager

/-! ## A number that is too long -/

namespace Json

theorem readValue_one (fuel depth : Nat) (cs : List Char) :
    readValue (fuel + 1) depth ('1' :: cs) = readNumber ('1' :: cs) := by
  unfold readValue
  split
  all_goals first | rfl | simp_all

theorem read_ones {n : Nat} (h : Number.maxDigits < n) :
    read (String.ofList (List.replicate n '1')) = .error (.tooManyDigits n) := by
  obtain ⟨k, rfl⟩ := Nat.exists_eq_add_one_of_ne_zero (Nat.ne_of_gt (Nat.zero_lt_of_lt h))
  have hdigits : AllDigits (List.replicate (k + 1) '1') := by
    intro d hd
    rw [List.eq_of_mem_replicate hd]
    decide
  have hnumber := @readNumber_digits _ [] false hdigits (by simp) (by simp [List.replicate_succ])
    endsNumber_nil
  rw [List.append_nil, List.length_replicate, if_pos h] at hnumber
  have hvalue : readNumber (List.replicate (k + 1) '1') = .error (.tooManyDigits (k + 1)) := hnumber
  rw [List.replicate_succ] at hvalue
  have hskip : skipSpace ('1' :: List.replicate k '1') = '1' :: List.replicate k '1' :=
    skipSpace_cons (by decide) _
  rw [read, String.toList_ofList, List.replicate_succ, readDocument]
  · rw [hskip, readValue_one, hvalue]
    rfl
  · rintro cs hcs
    cases hcs

end Json

namespace Manager

def oneReply (n : Nat) : String := String.ofList (List.replicate n '1')

theorem withoutFence_oneReply (n : Nat) : Reply.withoutFence (oneReply n) = oneReply n := by
  have hblank : Text.isBlank '1' = false := by decide
  have hleft : Text.trimLeftBy Text.isBlank (List.replicate n '1') = List.replicate n '1' :=
    List.dropWhile_eq_self_iff.mpr fun _ => by simp [hblank]
  have hstrip : Text.trimBy Text.isBlank (List.replicate n '1') = List.replicate n '1' := by
    rw [Text.trimBy, hleft, Text.trimRightBy, List.reverse_replicate]
    exact (congrArg List.reverse hleft).trans List.reverse_replicate
  rw [Reply.withoutFence_of_open, Text.strip, oneReply, String.toList_ofList, hstrip]
  rw [oneReply, String.toList_ofList, hleft]
  intro hfence
  have hmark : '`' ∈ List.replicate n '1' := hfence.subset (by decide)
  exact absurd (List.eq_of_mem_replicate hmark) (by decide)

/-- A reply that is nothing but a number of 4301 digits ends the analysis. -/
theorem long_number_ends_analysis :
    let send := answering (.choices [.str (oneReply 4301)])
    keyedManager.Reached keyedConfig ∧
    (keyedManager.call send "p" .null ()).value.1 = .ok (.str (oneReply 4301)) ∧
    (keyedManager.analyze send "p" .null ()).value.1 = .error (.tooManyDigits 4301) := by
  intro send
  obtain ⟨r, hr⟩ := reached_keyedManager.exists_request rfl "p" .null
  have hsent : (send r ()).value.1 = .ok (.choices [.str (oneReply 4301)]) := rfl
  have hcontent : Backend.Answer.content (.choices [.str (oneReply 4301)]) =
      .ok (.str (oneReply 4301)) := by
    rw [Backend.Answer.content, Value.orElse_empty]
  have hread : Json.read (Reply.withoutFence (oneReply 4301)) = .error (.tooManyDigits 4301) := by
    rw [withoutFence_oneReply]
    exact Json.read_ones (by decide)
  refine ⟨reached_keyedManager, ?_, ?_⟩
  · rw [value_call hr hsent, hcontent]
  · rw [value_analyze hr hsent hcontent, meaning, Reply.value_read_of_error hread]
    rfl

end Manager

end SecurityScan
