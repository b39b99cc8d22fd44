import Mathlib.Data.List.Induction
import Mathlib.Data.List.TakeWhile
import SecurityScan.Proofs.Attempt
import SecurityScan.Proofs.Json

/-!
# Values that come from JSON

Whatever a text is, what is read of it has a form in JSON again. What a reply keeps of such a value
is of that kind too.
-/

namespace SecurityScan

namespace Value

mutual

/-- Values that a JSON text can be read as: numbers, whole ones with no more digits than are read,
any texts, and lists and maps of such values, the maps under texts. -/
def IsDecoded : Value → Prop
  | .null | .bool _ | .float _ | .str _ => True
  | .int i => i.natAbs < Number.digitLimit
  | .list xs => AllDecoded xs
  | .map es => EntriesDecoded es
  | _ => False

def AllDecoded : List Value → Prop
  | [] => True
  | x :: xs => x.IsDecoded ∧ AllDecoded xs

def EntriesDecoded : List (Value × Value) → Prop
  | [] => True
  | (k, v) :: es => (∃ s, k = .str s) ∧ v.IsDecoded ∧ EntriesDecoded es

end

theorem allDecoded_iff {xs : List Value} : AllDecoded xs ↔ ∀ x ∈ xs, x.IsDecoded := by
  induction xs with
  | nil => simp [AllDecoded]
  | cons x xs ih => rw [List.forall_mem_cons, ← ih, AllDecoded]

theorem entriesDecoded_iff {es : Entries} :
    EntriesDecoded es ↔ ∀ e ∈ es, (∃ s, e.1 = .str s) ∧ e.2.IsDecoded := by
  induction es with
  | nil => simp [EntriesDecoded]
  | cons e es ih => rw [List.forall_mem_cons, ← ih, EntriesDecoded, and_assoc]

theorem IsDecoded.field {es : Entries} (h : (Value.map es).IsDecoded) {name : String} {v : Value}
    (hv : es.field? name = some v) : v.IsDecoded :=
  (entriesDecoded_iff.mp h _ (Entries.mem_of_field? hv)).2

/-- The list that a map has under a name. -/
def listAt? (v : Value) (name : String) : Option (List Value) :=
  match v with
  | .map es => (Entries.field? es name).bind list?
  | _ => none

theorem IsDecoded.exists_of_listAt {v : Value} (h : v.IsDecoded) {name : String} {xs : List Value}
    (hxs : v.listAt? name = some xs) :
    ∃ es : Entries, v = .map es ∧ es.field? name = some (.list xs) := by
  cases v with
  | map es =>
    obtain ⟨w, hw, hlist⟩ := Option.bind_eq_some_iff.mp hxs
    have hdecoded := h.field hw
    cases w with
    | list ys => exact ⟨es, rfl, Option.some.inj hlist ▸ hw⟩
    | marked => exact hdecoded.elim
    | _ => cases hlist
  | _ => cases hxs

theorem EntriesDecoded.setField {es : Entries} (h : EntriesDecoded es) (name : String) {v : Value}
    (hv : v.IsDecoded) : EntriesDecoded (es.setField name v) := by
  unfold Entries.setField
  induction es with
  | nil => exact ⟨⟨name, rfl⟩, hv, trivial⟩
  | cons e es ih =>
    obtain ⟨hkey, hvalue, hes⟩ := h
    cases he : e.1.same (.str name) with
    | true =>
      rw [Entries.insert_cons_pos he]
      exact ⟨hkey, hv, hes⟩
    | false =>
      rw [Entries.insert_cons_neg he]
      exact ⟨hkey, hvalue, ih hes⟩

mutual

theorem IsDocument.isDecoded : ∀ {v : Value}, v.IsDocument → v.IsDecoded
  | .null, _ | .bool _, _ | .str _, _ | .float (.finite ..), _ => trivial
  | .int _, h => h
  | .list _, h => AllDocuments.allDecoded h
  | .map _, h => EntryDocuments.entriesDecoded h.2

theorem AllDocuments.allDecoded : ∀ {xs : List Value}, AllDocuments xs → AllDecoded xs
  | [], _ => trivial
  | _ :: _, ⟨hx, hxs⟩ => ⟨hx.isDecoded, hxs.allDecoded⟩

theorem EntryDocuments.entriesDecoded : ∀ {es : Entries}, EntryDocuments es → EntriesDecoded es
  | [], _ => trivial
  | (_, _) :: _, ⟨⟨s, hs, _⟩, hv, hes⟩ => ⟨⟨s, hs⟩, hv.isDecoded, hes.entriesDecoded⟩

end

end Value

/-! ## Reading -/

theorem Double.digitsNat_lt {ds : List Char} (h : ∀ c ∈ ds, Text.isDigit c = true) :
    digitsNat ds < 10 ^ ds.length := by
  induction ds using List.reverseRecOn with
  | nil => decide
  | append_singleton ds c ih =>
    have hds := ih fun d hd => h d (List.mem_append_left _ hd)
    have hc : digitsNat [c] < 10 := by
      have hdigit := h c (by simp)
      simp only [Text.isDigit, Bool.and_eq_true, decide_eq_true_eq] at hdigit
      have hnine : c.toNat ≤ 57 := hdigit.2
      show 10 * 0 + (c.toNat - 48) < 10
      omega
    rw [digitsNat_append, List.length_append, List.length_singleton, Nat.pow_succ]
    omega

namespace Json

theorem isDigit_of_wholePart {cs whole rest : List Char} (h : wholePart cs = (whole, rest)) :
    ∀ c ∈ whole, Text.isDigit c = true := by
  unfold wholePart at h
  split at h
  · obtain ⟨rfl, -⟩ := Prod.mk.inj h
    intro c hc
    rw [List.mem_singleton.mp hc]
    decide
  · rw [List.span_eq_takeWhile_dropWhile] at h
    obtain ⟨rfl, -⟩ := Prod.mk.inj h
    exact fun c hc => List.mem_takeWhile_imp hc

theorem gives_readNumber (cs : List Char) : Gives (fun r => r.1.IsDecoded) (readNumber cs) := by
  unfold readNumber
  split
  rename_i neg unsigned _
  split
  · exact gives_error
  · rename_i whole rest _ hwhole
    dsimp only
    split
    · split
      · exact gives_error
      · rename_i hlength
        refine gives_ok ?_
        have hlt := Double.digitsNat_lt (isDigit_of_wholePart hwhole)
        have hpow : 10 ^ whole.length ≤ Number.digitLimit :=
          Nat.pow_le_pow_right (by decide) (Nat.le_of_not_lt hlength)
        show Int.natAbs _ < Number.digitLimit
        split <;> omega
    · exact gives_ok trivial

theorem gives_read (fuel : Nat) :
    (∀ depth cs, Gives (fun r => r.1.IsDecoded) (readValue fuel depth cs)) ∧
    (∀ depth es cs, Value.EntriesDecoded es →
      Gives (fun r => Value.EntriesDecoded r.1) (readMembers fuel depth es cs)) ∧
    ∀ depth cs, Gives (fun r => Value.AllDecoded r.1) (readItems fuel depth cs) := by
  induction fuel with
  | zero =>
    refine ⟨fun depth cs => ?_, fun depth es cs _ => ?_, fun depth cs => ?_⟩
    · rw [readValue]; exact gives_error
    · rw [readMembers]; exact gives_error
    · rw [readItems]; exact gives_error
  | succ fuel ih =>
    obtain ⟨hvalue, hmembers, hitems⟩ := ih
    refine ⟨fun depth cs => ?_, fun depth es cs hes => ?_, fun depth cs => ?_⟩
    · unfold readValue
      split
      · exact gives_bind fun _ => gives_ok trivial
      · split
        · exact gives_error
        · split
          · exact gives_ok trivial
          · exact (hmembers _ [] _ trivial).bind fun r hr => gives_ok hr
      · split
        · exact gives_error
        · split
          · exact gives_ok trivial
          · exact (hitems _ _).bind fun r hr => gives_ok hr
      all_goals first | exact gives_ok trivial | exact gives_readNumber _
    · unfold readMembers
      split
      · refine gives_bind fun r => ?_
        obtain ⟨name, rest⟩ := r
        dsimp only
        split
        · refine (hvalue _ _).bind fun r hr => ?_
          obtain ⟨v, rest⟩ := r
          have hset := hes.setField name hr
          dsimp only
          split
          · exact gives_ok hset
          · exact hmembers _ _ _ hset
          · exact gives_error
        · exact gives_error
      · exact gives_error
    · unfold readItems
      refine (hvalue _ _).bind fun r hr => ?_
      obtain ⟨x, rest⟩ := r
      dsimp only
      split
      · exact gives_ok ⟨hr, trivial⟩
      · exact (hitems _ _).bind fun xs hxs => gives_ok ⟨hr, hxs⟩
      · exact gives_error

/-- What is read of a text, whatever the text is. -/
theorem isDecoded_of_read {s : String} {v : Value} (h : read s = .ok v) : v.IsDecoded := by
  have hdocument : Gives Value.IsDecoded (readDocument s.toList) := by
    unfold readDocument
    split
    · exact gives_error
    · refine ((gives_read _).1 _ _).bind fun r hr => ?_
      obtain ⟨v, rest⟩ := r
      dsimp only
      split
      · exact gives_ok hr
      · exact gives_error
  exact (hdocument.mapError _) v h

/-! ## Writing -/

mutual

theorem writable_of_isDecoded : ∀ {v : Value}, v.IsDecoded → writable v = true
  | .null, _ | .bool _, _ | .int _, _ | .float _, _ | .str _, _ => by rw [writable]
  | .list xs, h => by
    rw [writable]
    exact writableItems_of_allDecoded h
  | .map es, h => by
    rw [writable]
    exact writableEntries_of_entriesDecoded h

theorem writableItems_of_allDecoded : ∀ {xs : List Value}, Value.AllDecoded xs →
    writableItems xs = true
  | [], _ => rfl
  | x :: xs, h => by
    rw [writableItems, writable_of_isDecoded h.1, writableItems_of_allDecoded h.2]
    rfl

theorem writableEntries_of_entriesDecoded : ∀ {es : Entries}, Value.EntriesDecoded es →
    writableEntries es = true
  | [], _ => rfl
  | (k, v) :: es, ⟨⟨name, hname⟩, hv, hes⟩ => by
    rw [writableEntries, hname, writable_of_isDecoded hv, writableEntries_of_entriesDecoded hes]
    rfl

end

end Json

end SecurityScan
