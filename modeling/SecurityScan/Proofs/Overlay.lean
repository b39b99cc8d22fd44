import SecurityScan.Proofs.Keys
import SecurityScan.Proofs.Settings

/-!
# One tree of maps over another

What a tree of maps holds at a path after another was laid over it is told by the two trees at this
path and above it. Laying the same tree over it once more changes nothing.
-/

namespace SecurityScan

/-! ## Looking up -/

namespace Entries

/-- All keys are such that a map may have them. -/
def Keyed (es : Entries) : Prop := ∀ e ∈ es, e.1.isKey = true

theorem get?_cons (e : Value × Value) (es : Entries) (key : Value) :
    get? (e :: es) key = if e.1.same key = true then some e.2 else get? es key := by
  simp only [get?, List.find?_cons]
  split
  · rename_i h
    rw [if_pos h]
    rfl
  · rename_i h
    rw [if_neg (by simp [h])]

theorem get?_congr {es : Entries} {k l : Value} (h : ∀ e ∈ es, e.1.same k = e.1.same l) :
    es.get? k = es.get? l := by
  induction es with
  | nil => rfl
  | cons e es ih =>
    obtain ⟨he, hes⟩ := List.forall_mem_cons.mp h
    rw [get?_cons, get?_cons, he, ih hes]

theorem mem_of_get? {es : Entries} {key v : Value} (h : es.get? key = some v) :
    ∃ e ∈ es, e.2 = v := by
  obtain ⟨e, he, rfl⟩ := Option.map_eq_some_iff.mp h
  exact ⟨e, List.mem_of_find?_eq_some he, rfl⟩

/-- A key that is the same as itself is found. -/
theorem get?_of_mem {es : Entries} (h : es.Distinct) {e : Value × Value} (he : e ∈ es)
    (hself : e.1.same e.1 = true) : es.get? e.1 = some e.2 := by
  induction es with
  | nil => cases he
  | cons f es ih =>
    obtain ⟨hf, hes⟩ := distinct_cons.mp h
    rw [get?_cons]
    obtain rfl | he := List.mem_cons.mp he
    · rw [if_pos hself]
    · rw [if_neg (by simp [hf e he]), ih hes he]

theorem Keyed.insert {es : Entries} (h : es.Keyed) {key : Value} (hkey : key.isKey = true)
    (v : Value) : (es.insert key v).Keyed := by
  have hkeys : ∀ k ∈ (es.insert key v).map (·.1), k.isKey = true := by
    rw [keys_insert]
    intro k hk
    obtain hk | hk := List.mem_append.mp hk
    · obtain ⟨e, he, rfl⟩ := List.mem_map.mp hk
      exact h e he
    · split at hk
      · rw [List.mem_singleton.mp hk]
        exact hkey
      · cases hk
  exact fun e he => hkeys e.1 (List.mem_map_of_mem he)

/-- Under a key that is the same as the one put in there is what was put in. -/
theorem get?_insert {es : Entries} (h : es.Keyed) {key : Value} (hkey : key.isKey = true)
    (v k : Value) : (es.insert key v).get? k = if key.same k = true then some v else es.get? k := by
  induction es with
  | nil => rw [Entries.insert, get?_cons]
  | cons e es ih =>
    obtain ⟨he, hes⟩ := List.forall_mem_cons.mp h
    cases hsame : e.1.same key with
    | true =>
      rw [insert_cons_pos hsame, get?_cons, get?_cons, Value.same_congr he hkey hsame]
      split <;> rfl
    | false =>
      rw [insert_cons_neg hsame, get?_cons, get?_cons, ih hes]
      by_cases hk : key.same k = true
      · rw [if_pos hk, if_neg, if_pos hk]
        intro hek
        rw [Value.same_of_same he hkey hek hk] at hsame
        cases hsame
      · rw [if_neg hk, if_neg hk]

/-- Putting in what is there already changes nothing. -/
theorem insert_get? {es : Entries} {key v : Value} (h : es.get? key = some v) :
    es.insert key v = es := by
  induction es with
  | nil => cases h
  | cons e es ih =>
    rw [get?_cons] at h
    cases hsame : e.1.same key with
    | true =>
      rw [if_pos hsame] at h
      rw [insert_cons_pos hsame, ← Option.some.inj h]
    | false =>
      rw [if_neg (by simp [hsame])] at h
      rw [insert_cons_neg hsame, ih h]

end Entries

/-! ## Maps laid over maps -/

namespace Settings

/-- Under a key there is what the layer has for it, put over what was there, and what was there when
the layer has nothing for it. -/
theorem get?_mergeEntries {layer : Entries} (hkeys : layer.Keyed) (h : layer.Distinct)
    {es : Entries} (hes : es.Keyed) (k : Value) : (mergeEntries es layer).get? k =
      ((layer.get? k).map (mergeValue (es.get? k))).or (es.get? k) := by
  induction layer generalizing es with
  | nil => rfl
  | cons e layer ih =>
    obtain ⟨key, v⟩ := e
    obtain ⟨hkey, hrest⟩ := List.forall_mem_cons.mp hkeys
    obtain ⟨hne, hdistinct⟩ := Entries.distinct_cons.mp h
    rw [mergeEntries, ih hrest hdistinct (hes.insert hkey _), Entries.get?_insert hes hkey,
      Entries.get?_cons]
    by_cases hk : key.same k = true
    · have hnone : Entries.get? layer k = none := Entries.get?_eq_none_iff.mpr fun f hf => by
        by_contra hfk
        rw [Bool.not_eq_false] at hfk
        have hkf := Value.same_of_same hkey (hrest f hf) hk hfk
        rw [hne f hf] at hkf
        cases hkf
      have hthere : es.get? key = es.get? k :=
        Entries.get?_congr fun e he => Value.same_congr_right hkey hk (hes e he)
      rw [hnone, if_pos hk, if_pos hk, hthere]
      rfl
    · rw [if_neg hk, if_neg hk]

/-- The keys that were there come first, in their order, and then those that the layer adds. -/
theorem keys_mergeEntries {layer : Entries} (hkeys : layer.Keyed) (h : layer.Distinct)
    {es : Entries} (hes : es.Keyed) : (mergeEntries es layer).map (·.1) =
      es.map (·.1) ++ (layer.map (·.1)).filter fun k => (es.get? k).isNone := by
  induction layer generalizing es with
  | nil => simp [mergeEntries]
  | cons e layer ih =>
    obtain ⟨key, v⟩ := e
    obtain ⟨hkey, hrest⟩ := List.forall_mem_cons.mp hkeys
    obtain ⟨hne, hdistinct⟩ := Entries.distinct_cons.mp h
    have hsame : ∀ k ∈ layer.map (·.1), ((es.insert key (mergeValue (es.get? key) v)).get? k).isNone =
        (es.get? k).isNone := by
      intro k hk
      obtain ⟨f, hf, rfl⟩ := List.mem_map.mp hk
      rw [Entries.get?_insert hes hkey, if_neg (by simp [hne f hf])]
    rw [mergeEntries, ih hrest hdistinct (hes.insert hkey _), Entries.keys_insert,
      List.filter_congr hsame, List.append_assoc, List.map_cons, List.filter_cons]
    cases es.get? key <;> rfl

/-- A layer whose every entry changes nothing changes nothing. -/
theorem mergeEntries_eq_self {es layer : Entries} (h : ∀ e ∈ layer, ∃ w, es.get? e.1 = some w ∧
    mergeValue (some w) e.2 = w) : mergeEntries es layer = es := by
  induction layer with
  | nil => rw [mergeEntries]
  | cons e layer ih =>
    obtain ⟨⟨w, hw, hmerge⟩, hrest⟩ := List.forall_mem_cons.mp h
    obtain ⟨key, v⟩ := e
    rw [mergeEntries, hw, hmerge, Entries.insert_get? hw, ih hrest]

end Settings

/-! ## Trees of maps -/

namespace Value

/-- Maps within maps, down to values that are none. -/
inductive IsTree : Value → Prop
  | leaf {v : Value} (h : v.entries? = none) : IsTree v
  | map {es : Entries} (keyed : es.Keyed) (distinct : es.Distinct) (values : ∀ e ∈ es, IsTree e.2) :
    IsTree (.map es)

/-- The value at a path of keys. -/
def at? (v : Value) : List Value → Option Value
  | [] => some v
  | k :: path => do ((← v.entries?).get? k).bind fun w => w.at? path

/-- There is an entry at the path, or a value that is no map at some place above it. -/
def Covers (v : Value) (path : List Value) : Prop :=
  (v.at? path).isSome = true ∨
    ∃ above, above <+: path ∧ above ≠ path ∧ ∃ w, v.at? above = some w ∧ w.entries? = none

/-- Every key of every map in it is the same as itself: none is a number that is no number. -/
def Findable (v : Value) : Prop :=
  ∀ path es, v.at? path = some (.map es) → ∀ e ∈ es, e.1.same e.1 = true

theorem IsTree.get? {es : Entries} (h : (Value.map es).IsTree) {key v : Value}
    (hv : es.get? key = some v) : v.IsTree := by
  cases h with
  | leaf h => cases h
  | map _ _ values =>
    obtain ⟨e, he, rfl⟩ := Entries.mem_of_get? hv
    exact values e he

theorem IsTree.keyed {es : Entries} (h : (Value.map es).IsTree) : es.Keyed := by
  cases h with
  | leaf h => cases h
  | map keyed => exact keyed

theorem IsTree.distinct {es : Entries} (h : (Value.map es).IsTree) : es.Distinct := by
  cases h with
  | leaf h => cases h
  | map _ distinct => exact distinct

@[simp] theorem at?_nil (v : Value) : v.at? [] = some v := rfl

theorem at?_map (es : Entries) (k : Value) (path : List Value) :
    (Value.map es).at? (k :: path) = (es.get? k).bind fun w => w.at? path := rfl

theorem at?_cons_of_leaf {v : Value} (h : v.entries? = none) (k : Value) (path : List Value) :
    v.at? (k :: path) = none := by
  rw [at?, h]
  rfl

/-- A record of trees is a tree. -/
theorem isTree_record {fields : List (String × Value)} (h : (fields.map (·.1)).Nodup)
    (hvalues : ∀ f ∈ fields, f.2.IsTree) : (record fields).IsTree := by
  refine .map (fun e he => ?_) ?_ fun e he => ?_
  · obtain ⟨f, -, rfl⟩ := List.mem_map.mp he
    rfl
  · rw [Entries.Distinct, List.map_map, List.pairwise_map]
    exact (List.pairwise_map.mp h).imp fun hne => by simp [hne]
  · obtain ⟨f, hf, rfl⟩ := List.mem_map.mp he
    exact hvalues f hf

theorem findable_of_leaf {v : Value} (h : v.entries? = none) : v.Findable
  | [], _, hes => by
    obtain rfl := Option.some.inj hes
    cases h
  | k :: path, _, hes => by
    rw [at?_cons_of_leaf h k path] at hes
    cases hes

theorem findable_record {fields : List (String × Value)} (h : ∀ f ∈ fields, f.2.Findable) :
    (record fields).Findable
  | [], es, hes => by
    obtain rfl := Value.map.inj (Option.some.inj hes)
    intro e he
    obtain ⟨f, -, rfl⟩ := List.mem_map.mp he
    simp
  | k :: path, es, hes => by
    obtain ⟨w, hw, hat⟩ := Option.bind_eq_some_iff.mp hes
    obtain ⟨e, he, rfl⟩ := Entries.mem_of_get? hw
    obtain ⟨f, hf, rfl⟩ := List.mem_map.mp he
    exact h f hf path es hat

theorem covers_nil (v : Value) : v.Covers [] := Or.inl rfl

/-- What is no map stands above every path. -/
theorem covers_of_leaf {v : Value} (h : v.entries? = none) : ∀ path, v.Covers path
  | [] => covers_nil v
  | _ :: _ => Or.inr ⟨[], List.nil_prefix, by simp, v, rfl, h⟩

theorem covers_map {es : Entries} {k : Value} {path : List Value} :
    (Value.map es).Covers (k :: path) ↔ ∃ w, es.get? k = some w ∧ w.Covers path := by
  constructor
  · rintro (h | ⟨above, habove, hne, w, hw, hleaf⟩)
    · obtain ⟨w, hw, hat⟩ := Option.bind_eq_some_iff.mp (Option.eq_some_of_isSome h)
      exact ⟨w, hw, Or.inl (by rw [hat]; rfl)⟩
    · cases above with
      | nil =>
        obtain rfl := Option.some.inj hw
        cases hleaf
      | cons l above =>
        obtain ⟨rfl, hrest⟩ := List.cons_prefix_cons.mp habove
        obtain ⟨u, hu, hat⟩ := Option.bind_eq_some_iff.mp hw
        exact ⟨u, hu, Or.inr ⟨above, hrest, fun h => hne (h ▸ rfl), w, hat, hleaf⟩⟩
  · rintro ⟨w, hw, h | ⟨above, habove, hne, u, hu, hleaf⟩⟩
    · exact Or.inl (by rw [at?_map, hw]; exact h)
    · refine Or.inr ⟨k :: above, List.cons_prefix_cons.mpr ⟨rfl, habove⟩, ?_, u, ?_, hleaf⟩
      · exact fun h => hne (List.cons.inj h).2
      · rw [at?_map, hw]
        exact hu

/-- The trees under the keys of a tree have keys that are found as well. -/
theorem Findable.get? {es : Entries} (h : (Value.map es).Findable) {key v : Value}
    (hv : es.get? key = some v) : v.Findable := by
  intro path fs hfs
  refine h (key :: path) fs ?_
  rw [at?_map, hv]
  exact hfs

end Value

/-! ## A tree over another -/

namespace Settings

open Value (IsTree)

/-- A tree over the empty map is the tree. -/
theorem mergeEntries_nil {es : Entries} (h : es.Distinct) : mergeEntries [] es = es :=
  mergeEntries_append h

theorem mergeValue_maps (es fs : Entries) :
    mergeValue (some (.map es)) (.map fs) = .map (mergeEntries es fs) := by
  rw [mergeValue]
  rfl

/-- Over no tree of maps there is only the layer, as over the empty one. -/
theorem mergeValue_map {below : Option Value} (hbelow : ∀ v, below = some v → v.IsTree)
    {layer : Entries} (h : layer.Distinct) : ∃ es : Entries, (Value.map es).IsTree ∧
      mergeValue below (.map layer) = .map (mergeEntries es layer) := by
  have hempty : (Value.map []).IsTree := .map (by simp [Entries.Keyed]) .nil (by simp)
  cases below with
  | none =>
    refine ⟨[], hempty, ?_⟩
    rw [mergeEntries_nil h, mergeValue_of_none (Or.inl rfl)]
  | some v =>
    cases hbelow v rfl with
    | leaf hleaf =>
      refine ⟨[], hempty, ?_⟩
      rw [mergeEntries_nil h, mergeValue_of_none (Or.inl (by exact hleaf))]
    | @map es keyed distinct values =>
      refine ⟨es, .map keyed distinct values, ?_⟩
      rw [mergeValue]
      rfl

/-- A leaf is at a path when the layer has it there, or when it was there before and the layer does
not cover the path. -/
theorem at?_mergeValue {below layer : Value} (hbelow : below.IsTree) (hlayer : layer.IsTree)
    (path : List Value) {v : Value} (hv : v.entries? = none) :
    (mergeValue (some below) layer).at? path = some v ↔
      layer.at? path = some v ∨ (below.at? path = some v ∧ ¬layer.Covers path) := by
  induction path generalizing below layer with
  | nil =>
    have hcovers := layer.covers_nil
    cases hlayer with
    | leaf hleaf => simp [mergeValue_of_none (Or.inr hleaf), hcovers]
    | map =>
      have hmap : ∀ fs : Entries, Value.map fs ≠ v := by
        rintro fs rfl
        cases hv
      rw [mergeValue]
      split <;> simp [hmap, hcovers]
  | cons k path ih =>
    cases hlayer with
    | leaf hleaf =>
      have hcovers := layer.covers_of_leaf hleaf (k :: path)
      simp [mergeValue_of_none (Or.inr hleaf), hcovers]
    | @map fs keyed distinct values =>
      cases hbelow with
      | leaf hleaf =>
        rw [mergeValue_of_none (Or.inl (by exact hleaf)), below.at?_cons_of_leaf hleaf]
        simp
      | @map es keyed' distinct' values' =>
        rw [mergeValue_maps, Value.at?_map, Value.at?_map, Value.at?_map, Value.covers_map,
          get?_mergeEntries keyed distinct keyed']
        cases hk : fs.get? k with
        | none => simp
        | some w =>
          cases hk' : es.get? k with
          | none => simp [mergeValue_of_none (Or.inl (rfl : (none : Option Value).bind _ = none))]
          | some u =>
            have hu := (IsTree.map keyed' distinct' values').get? hk'
            have hw := (IsTree.map keyed distinct values).get? hk
            simp [ih hu hw]

/-- Where there are maps in both trees there is the one over the other. -/
theorem at?_mergeValue_maps {below layer : Value} (hbelow : below.IsTree) (hlayer : layer.IsTree)
    {path : List Value} {es fs : Entries} (hes : below.at? path = some (.map es))
    (hfs : layer.at? path = some (.map fs)) :
    (mergeValue (some below) layer).at? path = some (.map (mergeEntries es fs)) ∧
      (Value.map es).IsTree ∧ (Value.map fs).IsTree := by
  induction path generalizing below layer with
  | nil =>
    obtain rfl := Option.some.inj hes
    obtain rfl := Option.some.inj hfs
    exact ⟨congrArg some (mergeValue_maps es fs), hbelow, hlayer⟩
  | cons k path ih =>
    cases hbelow with
    | leaf hleaf =>
      rw [below.at?_cons_of_leaf hleaf] at hes
      cases hes
    | @map es' keyed' distinct' values' =>
      cases hlayer with
      | leaf hleaf =>
        rw [layer.at?_cons_of_leaf hleaf] at hfs
        cases hfs
      | @map fs' keyed distinct values =>
        obtain ⟨u, hu, hes⟩ := Option.bind_eq_some_iff.mp hes
        obtain ⟨w, hw, hfs⟩ := Option.bind_eq_some_iff.mp hfs
        rw [mergeValue_maps, Value.at?_map, get?_mergeEntries keyed distinct keyed', hu, hw]
        exact ih ((IsTree.map keyed' distinct' values').get? hu)
          ((IsTree.map keyed distinct values).get? hw) hes hfs

/-- A tree laid over what it was laid over already changes nothing. -/
theorem mergeValue_mergeValue {layer : Value} (h : layer.IsTree) (hfind : layer.Findable)
    {below : Option Value} (hbelow : ∀ v, below = some v → v.IsTree) :
    mergeValue (some (mergeValue below layer)) layer = mergeValue below layer := by
  induction h generalizing below with
  | leaf hleaf => rw [mergeValue_of_none (Or.inr hleaf), mergeValue_of_none (Or.inr hleaf)]
  | @map fs keyed distinct values ih =>
    obtain ⟨es, hes, hmerge⟩ := mergeValue_map hbelow distinct
    rw [hmerge, mergeValue_maps, mergeEntries_eq_self]
    intro e he
    have hself := Entries.get?_of_mem distinct he (hfind [] fs rfl e he)
    refine ⟨mergeValue (es.get? e.1) e.2, ?_, ?_⟩
    · rw [get?_mergeEntries keyed distinct hes.keyed, hself]
      rfl
    · exact ih e he (hfind.get? hself) fun v hv => hes.get? hv

/-- **One tree over another.** A value that is no map is at a path exactly when the layer has it
there, or when it was there and the layer has neither an entry there nor a value that is no map
above. Where both have a map, the keys that were there come first, in their order, and then the new
ones of the layer in theirs. Laying the layer over the result again changes nothing, unless a key of
it cannot be found because it is not the same as itself. -/
theorem merge_trees {base layer : Settings} (hbase : (Value.map base).IsTree)
    (hlayer : (Value.map layer).IsTree) :
    (∀ path v, v.entries? = none → ((Value.map (base.merge layer)).at? path = some v ↔
      (Value.map layer).at? path = some v ∨
        ((Value.map base).at? path = some v ∧ ¬(Value.map layer).Covers path))) ∧
    (∀ path es fs, (Value.map base).at? path = some (.map es) →
      (Value.map layer).at? path = some (.map fs) →
      ∃ merged, (Value.map (base.merge layer)).at? path = some (.map merged) ∧
        merged.map (·.1) = es.map (·.1) ++
          (fs.map (·.1)).filter fun k => (Entries.get? es k).isNone) ∧
    ((Value.map layer).Findable → (base.merge layer).merge layer = base.merge layer) := by
  have hmaps : Value.map (base.merge layer) = mergeValue (some (.map base)) (.map layer) :=
    (mergeValue_maps base layer).symm
  refine ⟨fun path v hv => ?_, fun path es fs hes hfs => ?_, fun hfind => ?_⟩
  · rw [hmaps]
    exact at?_mergeValue hbase hlayer path hv
  · obtain ⟨hat, htree, htree'⟩ := at?_mergeValue_maps hbase hlayer hes hfs
    rw [hmaps]
    exact ⟨_, hat, keys_mergeEntries htree'.keyed htree'.distinct htree.keyed⟩
  · have hbelow : ∀ v, some (Value.map base) = some v → v.IsTree := fun v hv =>
      Option.some.inj hv ▸ hbase
    have hagain := mergeValue_mergeValue hlayer hfind hbelow
    rw [← hmaps, mergeValue_maps] at hagain
    exact Value.map.inj hagain

/-- Options of which the layer replaces one, beside keys that only one of the two has. -/
theorem merge_trees_options :
    let base : Settings := [(.str "a", .int 1),
      (.str "opts", .record [("x", .int 1), ("y", .int 2)])]
    let layer : Settings := [(.str "opts", .record [("y", .int 3)]), (.str "b", .int 2)]
    let merged := base.merge layer
    (Value.map merged).at? [.str "opts", .str "x"] = some (.int 1) ∧
      (Value.map merged).at? [.str "opts", .str "y"] = some (.int 3) ∧
      merged.map (·.1) = [.str "a", .str "opts", .str "b"] ∧ merged.merge layer = merged := by
  intro base layer merged
  have hint : ∀ i, (Value.int i).IsTree := fun i => .leaf rfl
  have hleaf : ∀ i, (Value.int i).Findable := fun i => Value.findable_of_leaf rfl
  have hbase : (Value.map base).IsTree := by
    show (Value.record [("a", .int 1), ("opts", .record [("x", .int 1), ("y", .int 2)])]).IsTree
    exact Value.isTree_record (by simp) (by simp [hint, Value.isTree_record])
  obtain ⟨hlayer, hfind⟩ : (Value.map layer).IsTree ∧ (Value.map layer).Findable := by
    show (Value.record [("opts", .record [("y", .int 3)]), ("b", .int 2)]).IsTree ∧
      (Value.record [("opts", .record [("y", .int 3)]), ("b", .int 2)]).Findable
    exact ⟨Value.isTree_record (by simp) (by simp [hint, Value.isTree_record]),
      Value.findable_record (by simp [hleaf, Value.findable_record])⟩
  obtain ⟨hat, hkeys, hagain⟩ := merge_trees hbase hlayer
  refine ⟨(hat _ _ rfl).mpr (Or.inr ⟨?_, ?_⟩), (hat _ _ rfl).mpr (Or.inl ?_), ?_, hagain hfind⟩
  · simp [base, Value.record, Value.at?_map, Entries.get?_cons]
  · simp [layer, Value.record, Value.covers_map, Entries.get?]
  · simp [layer, Value.record, Value.at?_map, Entries.get?_cons]
  · obtain ⟨es, hes, hkeys⟩ := hkeys [] base layer rfl rfl
    obtain rfl := Value.map.inj (Option.some.inj hes)
    simp [merged, hkeys, base, layer, Entries.get?]

end Settings

end SecurityScan
