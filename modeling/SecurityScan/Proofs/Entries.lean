import SecurityScan.Value.Basic

/-!
# Maps and their keys

What a map has under a text is told by the first entry with that key. Putting an entry in changes
what is under its own key alone, and a map never loses a key.
-/

namespace SecurityScan

theorem Value.same_str_iff {v : Value} {s : String} : v.same (.str s) = true ↔ v = .str s := by
  cases v <;> simp [Value.same, Value.sameNumber, Value.numeric?]

@[simp] theorem Value.str_same_str (s t : String) : (Value.str s).same (.str t) = (s == t) := by
  rw [Value.same]

theorem Value.str_same_iff {s : String} {v : Value} : (Value.str s).same v = true ↔ v = .str s := by
  cases v <;> simp [Value.same]
  exact eq_comm

namespace Entries

/-! ## Looking up -/

@[simp] theorem field?_nil (name : String) : field? [] name = none := rfl

theorem field?_cons (e : Value × Value) (es : Entries) (name : String) :
    field? (e :: es) name = if e.1.same (.str name) = true then some e.2 else field? es name := by
  simp only [field?, get?, List.find?_cons]
  split <;> simp_all

theorem field?_cons_str (key : String) (v : Value) (es : Entries) (name : String) :
    field? ((.str key, v) :: es) name = if key = name then some v else field? es name := by
  simp [field?_cons]

theorem field?_eq_none_iff {es : Entries} {name : String} :
    field? es name = none ↔ ∀ e ∈ es, e.1 ≠ .str name := by
  induction es with
  | nil => simp
  | cons e es ih =>
    rw [field?_cons, List.forall_mem_cons, ← ih, ne_eq, ← Value.same_str_iff]
    by_cases h : e.1.same (.str name) = true
    · simp [h]
    · simp [h]

/-- A text among the keys is found. -/
theorem isSome_field? {es : Entries} {name : String} (h : name ∈ es.filterMap (·.1.str?)) :
    (field? es name).isSome = true := by
  obtain ⟨e, he, hname⟩ := List.mem_filterMap.mp h
  have hkey : e.1 = .str name := by
    unfold Value.str? at hname
    split at hname
    · rename_i s hs
      rw [hs, Option.some.inj hname]
    · cases hname
  rw [Option.isSome_iff_ne_none]
  exact fun hnone => field?_eq_none_iff.mp hnone e he hkey

theorem mem_of_field? {es : Entries} {name : String} {v : Value} (h : field? es name = some v) :
    (.str name, v) ∈ es := by
  induction es with
  | nil => cases h
  | cons e es ih =>
    rw [field?_cons] at h
    split at h
    · rename_i he
      obtain rfl := Option.some.inj h
      rw [← Value.same_str_iff.mp he]
      exact List.mem_cons_self ..
    · exact List.mem_cons_of_mem _ (ih h)

theorem get?_eq_none_iff {es : Entries} {key : Value} :
    es.get? key = none ↔ ∀ e ∈ es, e.1.same key = false := by
  simp [get?, List.find?_eq_none]

/-! ## Putting in -/

theorem insert_cons_pos {e : Value × Value} {key : Value} (h : e.1.same key = true) (es : Entries)
    (v : Value) : insert (e :: es) key v = (e.1, v) :: es := if_pos h

theorem insert_cons_neg {e : Value × Value} {key : Value} (h : e.1.same key = false) (es : Entries)
    (v : Value) : insert (e :: es) key v = e :: insert es key v := if_neg (by simp [h])

/-- A key that is not there yet goes to the end. -/
theorem insert_of_none {es : Entries} {key : Value} (h : es.get? key = none) (v : Value) :
    es.insert key v = es ++ [(key, v)] := by
  rw [get?_eq_none_iff] at h
  induction es with
  | nil => rfl
  | cons e es ih =>
    obtain ⟨he, hes⟩ := List.forall_mem_cons.mp h
    rw [insert_cons_neg he, ih hes, List.cons_append]

/-- A key that is there keeps its place, so that the keys stay as they are. -/
theorem keys_insert (es : Entries) (key v : Value) : (es.insert key v).map (·.1) =
    es.map (·.1) ++ if es.get? key = none then [key] else [] := by
  by_cases h : es.get? key = none
  · rw [if_pos h, insert_of_none h, List.map_append]
    rfl
  · rw [if_neg h, List.append_nil]
    rw [get?_eq_none_iff] at h
    induction es with
    | nil => exact absurd (by simp) h
    | cons e es ih =>
      cases he : e.1.same key with
      | true => rw [insert_cons_pos he]; rfl
      | false =>
        have hes : ¬∀ f ∈ es, f.1.same key = false := fun hes =>
          h (List.forall_mem_cons.mpr ⟨he, hes⟩)
        rw [insert_cons_neg he, List.map_cons, ih hes, List.map_cons]

theorem mem_insert {es : Entries} {key v : Value} {e : Value × Value}
    (h : e ∈ es.insert key v) : e ∈ es ∨ e.2 = v := by
  induction es with
  | nil =>
    obtain rfl := List.mem_singleton.mp h
    exact Or.inr rfl
  | cons f es ih =>
    cases hf : f.1.same key with
    | true =>
      rw [insert_cons_pos hf] at h
      obtain rfl | h := List.mem_cons.mp h
      · exact Or.inr rfl
      · exact Or.inl (List.mem_cons_of_mem _ h)
    | false =>
      rw [insert_cons_neg hf] at h
      obtain rfl | h := List.mem_cons.mp h
      · exact Or.inl (List.mem_cons_self ..)
      · exact (ih h).imp_left (List.mem_cons_of_mem _)

/-- An entry stays when something is put under another key. -/
theorem mem_insert_of_mem {es : Entries} {key : Value} {e : Value × Value} (h : e ∈ es)
    (hne : e.1.same key = false) (v : Value) : e ∈ es.insert key v := by
  induction es with
  | nil => cases h
  | cons f es ih =>
    cases hf : f.1.same key with
    | true =>
      rw [insert_cons_pos hf]
      obtain rfl | h := List.mem_cons.mp h
      · rw [hf] at hne; cases hne
      · exact List.mem_cons_of_mem _ h
    | false =>
      rw [insert_cons_neg hf]
      obtain rfl | h := List.mem_cons.mp h
      · exact List.mem_cons_self ..
      · exact List.mem_cons_of_mem _ (ih h)

/-- Only what is under its own key changes. -/
theorem field?_insert (es : Entries) (key v : Value) (name : String) : (es.insert key v).field? name =
    if key.same (.str name) = true then some v else es.field? name := by
  induction es with
  | nil => rw [insert, field?_cons]
  | cons e es ih =>
    cases he : e.1.same key with
    | true =>
      have hkey : e.1.same (.str name) = key.same (.str name) := by
        rw [Bool.eq_iff_iff, Value.same_str_iff, Value.same_str_iff]
        constructor
        · intro hname
          exact Value.str_same_iff.mp (hname ▸ he)
        · rintro rfl
          exact Value.same_str_iff.mp he
      rw [insert_cons_pos he, field?_cons, field?_cons, hkey]
      split
      · rfl
      · rfl
    | false =>
      rw [insert_cons_neg he, field?_cons, field?_cons, ih]
      by_cases hname : e.1 = .str name
      · have hkey : ¬key.same (.str name) = true := by
          intro hkey
          rw [Value.same_str_iff.mp hkey, Value.same_str_iff.mpr hname] at he
          cases he
        have hpos := Value.same_str_iff.mpr hname
        rw [if_pos hpos, if_neg hkey, if_pos hpos]
      · rw [if_neg (mt Value.same_str_iff.mp hname), if_neg (mt Value.same_str_iff.mp hname)]

theorem field?_setField (es : Entries) (key : String) (v : Value) (name : String) :
    (es.setField key v).field? name = if key = name then some v else es.field? name := by
  simp [setField, field?_insert]

/-! ## Maps without a key twice -/

/-- A key of a map is the same as none before it. -/
def Distinct (es : Entries) : Prop := (es.map (·.1)).Pairwise fun k l => k.same l = false

theorem distinct_nil : Distinct [] := .nil

theorem distinct_cons {e : Value × Value} {es : Entries} :
    Distinct (e :: es) ↔ (∀ f ∈ es, e.1.same f.1 = false) ∧ es.Distinct := by
  simp [Distinct, List.pairwise_cons]

theorem get?_eq_none_of_distinct {es fs : Entries} {e : Value × Value}
    (h : Distinct (es ++ e :: fs)) : es.get? e.1 = none := by
  rw [get?_eq_none_iff]
  intro f hf
  rw [Distinct, List.map_append] at h
  exact (List.pairwise_append.mp h).2.2 _ (List.mem_map_of_mem hf) e.1 (List.mem_cons_self ..)

/-- Entries put in one after the other stand behind those that are there. -/
theorem insertAll_append {es fs : Entries} (h : Distinct (es ++ fs)) :
    es.insertAll fs = es ++ fs := by
  induction fs generalizing es with
  | nil => exact (List.append_nil es).symm
  | cons e fs ih =>
    have hcons : es ++ e :: fs = (es ++ [e]) ++ fs := by simp
    rw [insertAll, List.foldl_cons, insert_of_none (get?_eq_none_of_distinct h), hcons]
    rw [hcons] at h
    exact ih h

theorem Distinct.insert {es : Entries} (h : es.Distinct) (key v : Value) :
    (es.insert key v).Distinct := by
  rw [Distinct, keys_insert]
  split
  · rename_i hnone
    refine List.pairwise_append.mpr ⟨h, List.pairwise_singleton .., ?_⟩
    intro k hk l hl
    obtain ⟨e, he, rfl⟩ := List.mem_map.mp hk
    rw [List.mem_singleton.mp hl]
    exact get?_eq_none_iff.mp hnone e he
  · rw [List.append_nil]
    exact h

/-- What is put in last is found first. -/
theorem field?_insertAll {fs : Entries} (h : Distinct fs) (es : Entries) (name : String) :
    field? (es.insertAll fs) name = (field? fs name).or (field? es name) := by
  rw [insertAll]
  induction fs generalizing es with
  | nil => rfl
  | cons e fs ih =>
    obtain ⟨he, hfs⟩ := distinct_cons.mp h
    rw [List.foldl_cons, ih hfs, field?_insert, field?_cons]
    by_cases hkey : e.1.same (.str name) = true
    · have hnone : field? fs name = none := field?_eq_none_iff.mpr fun f hf hfkey => by
        have := he f hf
        simp [hfkey, hkey] at this
      rw [hnone, if_pos hkey, if_pos hkey]
      rfl
    · rw [if_neg hkey, if_neg hkey]

theorem field?_filter {p : Value × Value → Bool} {name : String} (es : Entries)
    (h : ∀ v, p (.str name, v) = true) : field? (es.filter p) name = field? es name := by
  induction es with
  | nil => rfl
  | cons e es ih =>
    obtain ⟨k, v⟩ := e
    rw [List.filter_cons, field?_cons, ← ih]
    by_cases hkey : k.same (.str name) = true
    · obtain rfl := Value.same_str_iff.mp hkey
      rw [if_pos (h v), field?_cons, if_pos hkey]
    · rw [if_neg hkey]
      split
      · rw [field?_cons, if_neg hkey]
      · rfl

theorem Distinct.filter {es : Entries} (h : es.Distinct) (p : Value × Value → Bool) :
    Distinct (es.filter p) :=
  h.sublist ((List.filter_sublist (l := es)).map _)

end Entries

end SecurityScan
