import SecurityScan.Proofs.Entries

/-!
# Values without a key twice

A map in which no key comes twice has one value under each of its keys. It stays so when a
collection inside it that holds itself is opened.
-/

namespace SecurityScan.Value

/-! ## Equality of what is filled in

A collection that holds itself is the same as nothing, so that filling it in tells no two values
apart and makes no two the same. -/

@[simp] theorem marked_same (m : Nat) (v w : Value) : (Value.marked m v).same w = false := by
  simp [same]

@[simp] theorem again_same (m : Nat) (isMap : Bool) (w : Value) :
    (Value.again m isMap).same w = false := by
  simp [same]

@[simp] theorem same_marked (v : Value) (m : Nat) (w : Value) : v.same (.marked m w) = false := by
  cases v <;> simp [same, sameNumber, numeric?]

@[simp] theorem same_again (v : Value) (m : Nat) (isMap : Bool) :
    v.same (.again m isMap) = false := by
  cases v <;> simp [same, sameNumber, numeric?]

theorem filledAll_eq_map (m : Nat) (w : Value) (xs : List Value) :
    filledAll m w xs = xs.map (filled m w) := by
  induction xs with
  | nil => rfl
  | cons x xs ih => rw [filledAll, ih, List.map_cons]

theorem filledEntries_eq_map (m : Nat) (w : Value) (es : Entries) :
    filledEntries m w es = es.map fun e => (filled m w e.1, filled m w e.2) := by
  induction es with
  | nil => rfl
  | cons e es ih => rw [filledEntries, ih, List.map_cons]

section
variable (m n : Nat) (w : Value)

theorem same_filled_again (a : Value) (i : Nat) (isMap : Bool) :
    a.same (filled m (.marked n w) (.again i isMap)) = false := by
  rw [filled]
  split
  · exact same_marked ..
  · exact same_again ..

mutual

theorem same_filled : ∀ a b : Value,
    (filled m (.marked n w) a).same (filled m (.marked n w) b) = a.same b
  | .again i isMap, b => by
    rw [again_same, filled]
    split
    · exact marked_same ..
    · exact again_same ..
  | .marked i v, b => by rw [marked_same, filled, marked_same]
  | .list xs, b => by
    cases b with
    | again i isMap => rw [same_filled_again, same_again]
    | list ys => simp [filled, same, filledAll_eq_map, sameAll_filled xs ys]
    | _ => simp [filled, same]
  | .tuple xs, b => by
    cases b with
    | again i isMap => rw [same_filled_again, same_again]
    | tuple ys => simp [filled, same, filledAll_eq_map, sameAll_filled xs ys]
    | _ => simp [filled, same]
  | .set xs, b => by
    cases b with
    | again i isMap => rw [same_filled_again, same_again]
    | set ys => simp [filled, same, filledAll_eq_map, sameMembers_filled xs ys]
    | _ => simp [filled, same]
  | .map es, b => by
    cases b with
    | again i isMap => rw [same_filled_again, same_again]
    | map fs => simp [filled, same, filledEntries_eq_map, sameEntries_filled es fs]
    | _ => simp [filled, same]
  | .null, b | .bool _, b | .int _, b | .float _, b | .str _, b | .date _, b | .datetime _, b
  | .bytes _, b => by
    cases b with
    | again i isMap => rw [same_filled_again, same_again]
    | _ => simp [filled, same, sameNumber, numeric?]

theorem sameAll_filled : ∀ xs ys : List Value,
    sameAll (xs.map (filled m (.marked n w))) (ys.map (filled m (.marked n w))) = sameAll xs ys
  | [], ys => by cases ys <;> simp [sameAll]
  | x :: xs, ys => by
    cases ys with
    | nil => simp [sameAll]
    | cons y ys => simp [sameAll, same_filled x y, sameAll_filled xs ys]

theorem sameMembers_filled : ∀ xs ys : List Value,
    sameMembers (xs.map (filled m (.marked n w))) (ys.map (filled m (.marked n w))) =
      sameMembers xs ys
  | [], ys => by simp [sameMembers]
  | x :: xs, ys => by
    simp [sameMembers, sameMembers_filled xs ys, Function.comp_def, same_filled x]

theorem sameEntries_filled : ∀ es fs : List (Value × Value),
    sameEntries (es.map fun e => (filled m (.marked n w) e.1, filled m (.marked n w) e.2))
      (fs.map fun e => (filled m (.marked n w) e.1, filled m (.marked n w) e.2)) =
      sameEntries es fs
  | [], fs => by simp [sameEntries]
  | (k, v) :: es, fs => by
    simp [sameEntries, sameEntries_filled es fs, Function.comp_def, same_filled k, same_filled v]

end

end

/-! ## Maps within maps -/

mutual

/-- No key comes twice in a value that is a map, nor in the maps under its keys. -/
def DistinctKeys : Value → Prop
  | .map es => Entries.Distinct es ∧ entriesDistinctKeys es
  | .marked _ v => DistinctKeys v
  | _ => True

def entriesDistinctKeys : List (Value × Value) → Prop
  | [] => True
  | (_, v) :: es => DistinctKeys v ∧ entriesDistinctKeys es

end

theorem entriesDistinctKeys_iff {es : Entries} :
    entriesDistinctKeys es ↔ ∀ e ∈ es, e.2.DistinctKeys := by
  induction es with
  | nil => simp [entriesDistinctKeys]
  | cons e es ih => rw [entriesDistinctKeys, List.forall_mem_cons, ih]

theorem distinctKeys_map {es : Entries} :
    (Value.map es).DistinctKeys ↔ es.Distinct ∧ ∀ e ∈ es, e.2.DistinctKeys := by
  rw [DistinctKeys, entriesDistinctKeys_iff]

theorem distinctKeys_empty : (Value.map []).DistinctKeys := ⟨.nil, trivial⟩

theorem distinctKeys_insert {es : Entries} (h : (Value.map es).DistinctKeys) (key : Value)
    {v : Value} (hv : v.DistinctKeys) : (Value.map (es.insert key v)).DistinctKeys := by
  rw [distinctKeys_map] at h ⊢
  refine ⟨h.1.insert key v, fun e he => ?_⟩
  obtain he | he := Entries.mem_insert he
  · exact h.2 e he
  · rw [he]
    exact hv

mutual

theorem DistinctKeys.filled {m n : Nat} {w : Value} (hw : (Value.marked n w).DistinctKeys) :
    ∀ {v : Value}, v.DistinctKeys → (Value.filled m (.marked n w) v).DistinctKeys
  | .again i isMap, h => by
    rw [Value.filled]
    split
    · exact hw
    · exact h
  | .marked i v, h => by
    rw [Value.filled]
    exact DistinctKeys.filled hw (v := v) h
  | .map es, h => by
    obtain ⟨hes, hvs⟩ := h
    rw [Value.filled, filledEntries_eq_map]
    refine ⟨?_, entriesDistinctKeys_filled hw hvs⟩
    rw [Entries.Distinct, List.map_map, List.pairwise_map]
    exact (List.pairwise_map.mp hes).imp fun h => (same_filled ..).trans h
  | .list _, _ | .tuple _, _ | .set _, _ | .null, _ | .bool _, _ | .int _, _ | .float _, _
  | .str _, _ | .date _, _ | .datetime _, _ | .bytes _, _ => trivial

theorem entriesDistinctKeys_filled {m n : Nat} {w : Value}
    (hw : (Value.marked n w).DistinctKeys) : ∀ {es : Entries}, entriesDistinctKeys es →
    entriesDistinctKeys (es.map fun e => (filled m (.marked n w) e.1, filled m (.marked n w) e.2))
  | [], _ => trivial
  | (_, _) :: _, h => ⟨DistinctKeys.filled hw h.1, entriesDistinctKeys_filled hw h.2⟩

end

/-- The entries of such a map are those of one, even if it holds itself. -/
theorem DistinctKeys.entries {v : Value} (h : v.DistinctKeys) {es : Entries}
    (hes : v.entries? = some es) : (Value.map es).DistinctKeys := by
  cases v with
  | map fs =>
    obtain rfl : fs = es := Option.some.inj hes
    exact h
  | marked m v =>
    cases v with
    | map fs =>
      have hfilled := DistinctKeys.filled (m := m) h (v := .map fs) h
      rw [Value.filled] at hfilled
      obtain rfl : filledEntries m _ fs = es := Option.some.inj hes
      exact hfilled
    | again i isMap =>
      by_cases hi : i = m
      · simp [entries?, opened, Value.filled, hi] at hes
      · simp [entries?, opened, Value.filled, hi] at hes
    | _ => cases hes
  | _ => cases hes

end SecurityScan.Value
