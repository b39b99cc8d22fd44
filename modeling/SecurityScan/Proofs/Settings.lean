import Mathlib.Data.List.Basic
import Mathlib.Data.List.Pairwise
import SecurityScan.Config.Build
import SecurityScan.Proofs.Attempt
import SecurityScan.Proofs.Yaml

/-!
# Layers of settings

Which layer a setting comes from is told key by key: an argument stands over a variable, a variable
over the configuration file, and the file over what is usual.
-/

namespace SecurityScan

namespace Settings

/-! ## One layer over another -/

/-- What is no map replaces what is below it, and so does a map over what is none. -/
theorem mergeValue_of_none {below : Option Value} {v : Value}
    (h : below.bind Value.entries? = none ∨ v.entries? = none) : mergeValue below v = v := by
  cases v with
  | map es =>
    have hbelow := h.resolve_right (by simp [Value.entries?, Value.opened])
    rw [mergeValue, hbelow]
  | marked m v =>
    rw [mergeValue]
    obtain h | h := h
    · rw [h]
    · rw [h]
      cases below.bind Value.entries? <;> rfl
  | _ => rw [mergeValue] <;> simp

theorem mergeEntries_append {es layer : Entries} (h : Entries.Distinct (es ++ layer)) :
    mergeEntries es layer = es ++ layer := by
  induction layer generalizing es with
  | nil => rw [mergeEntries, List.append_nil]
  | cons e layer ih =>
    obtain ⟨k, v⟩ := e
    have hnone : es.get? k = none := Entries.get?_eq_none_of_distinct h
    have hcons : es ++ (k, v) :: layer = (es ++ [(k, v)]) ++ layer := by simp
    rw [mergeEntries, hnone, mergeValue_of_none (Or.inl rfl), Entries.insert_of_none hnone, hcons]
    rw [hcons] at h
    exact ih h

/-- A map over the empty one has its own entries in their own order. -/
theorem mergeValue_empty {v : Value} (h : v.DistinctKeys) {es : Entries}
    (hes : v.entries? = some es) : mergeValue (some (.map [])) v = .map es := by
  have hdistinct : Entries.Distinct ([] ++ es) := (Value.distinctKeys_map.mp (h.entries hes)).1
  cases v with
  | map fs =>
    obtain rfl : fs = es := Option.some.inj hes
    exact congrArg Value.map (mergeEntries_append hdistinct)
  | marked m v =>
    rw [mergeValue, hes]
    exact congrArg Value.map (Entries.insertAll_append hdistinct)
  | _ => cases hes

/-- Under a key there is what the layer has for it, put over what was there, and what was there when
the layer has nothing for it. -/
theorem field?_merge {layer : Settings} (h : Entries.Distinct layer) (s : Settings) (key : String) :
    (s.merge layer).field? key = match Entries.field? layer key with
      | some v => some (mergeValue (Entries.field? s key) v)
      | none => Entries.field? s key := by
  rw [merge]
  induction layer generalizing s with
  | nil => rfl
  | cons e layer ih =>
    obtain ⟨k, v⟩ := e
    obtain ⟨hk, hlayer⟩ := Entries.distinct_cons.mp h
    rw [mergeEntries, ih hlayer, Entries.field?_cons, Entries.field?_insert]
    by_cases hkey : k.same (.str key) = true
    · obtain rfl := Value.same_str_iff.mp hkey
      have hnone : Entries.field? layer key = none :=
        Entries.field?_eq_none_iff.mpr fun f hf hfkey => by
          have := hk f hf
          simp [hfkey] at this
      rw [hnone, if_pos hkey, if_pos hkey]
      rfl
    · rw [if_neg hkey, if_neg hkey]

/-- Settings with one more value laid over them, which is no map. -/
theorem value_merge_single (s : Settings) (key : String) {v : Value} (h : v.entries? = none)
    (name : String) :
    (s.merge [(.str key, v)]).value name = if key = name then v else s.value name := by
  have hdistinct : Entries.Distinct [(.str key, v)] := by simp [Entries.Distinct]
  rw [value, field?_merge hdistinct, Entries.field?_cons_str, Entries.field?_nil]
  by_cases hname : key = name
  · rw [if_pos hname, if_pos hname]
    exact mergeValue_of_none (Or.inr h)
  · rw [if_neg hname, if_neg hname]
    rfl

theorem field?_merge_of_none {s layer : Settings} {key : String}
    (h : Entries.field? layer key = none) : (s.merge layer).field? key = Entries.field? s key := by
  rw [merge]
  induction layer generalizing s with
  | nil => rfl
  | cons e layer ih =>
    obtain ⟨k, v⟩ := e
    rw [Entries.field?_cons] at h
    split at h
    · cases h
    · rename_i hk
      rw [mergeEntries, ih h, Entries.field?_insert, if_neg hk]

/-- A layer takes no key away and adds its own behind those that are there. -/
theorem keys_merge (s layer : Settings) : s.map (·.1) <+: (s.merge layer).map (·.1) := by
  rw [merge]
  induction layer generalizing s with
  | nil => exact List.prefix_rfl
  | cons e layer ih =>
    obtain ⟨k, v⟩ := e
    rw [mergeEntries]
    refine List.IsPrefix.trans ?_ (ih _)
    rw [Entries.keys_insert]
    exact List.prefix_append ..

/-- An entry whose key the layer does not have stays as it is. -/
theorem mem_merge {s layer : Settings} {e : Value × Value} (h : e ∈ s)
    (hne : ∀ f ∈ layer, e.1.same f.1 = false) : e ∈ s.merge layer := by
  rw [merge]
  induction layer generalizing s with
  | nil => exact h
  | cons f layer ih =>
    obtain ⟨k, v⟩ := f
    obtain ⟨hf, hlayer⟩ := List.forall_mem_cons.mp hne
    rw [mergeEntries]
    exact ih (Entries.mem_insert_of_mem h hf _) hlayer

/-! ## Values that may be missing -/

/-- A value put under a key if there is one. -/
def putSome (s : Settings) (key : String) (v? : Option Value) : Settings :=
  match v? with
  | some v => s.setField key v
  | none => s

theorem distinct_putSome {s : Settings} (h : Entries.Distinct s) (key : String)
    (v? : Option Value) : Entries.Distinct (s.putSome key v?) := by
  cases v? with
  | none => exact h
  | some v => exact h.insert _ _

theorem field?_putSome (s : Settings) (name : String) (v? : Option Value) (key : String) :
    Entries.field? (s.putSome name v?) key =
      (if name = key then v? else none).or (Entries.field? s key) := by
  cases v? with
  | none => simp [putSome]
  | some v =>
    rw [putSome, Entries.field?_setField]
    split
    · rfl
    · rfl

section
variable {α : Type} (keyOf : α → String) (valueOf : α → Option Value)

/-- The values that come with `xs`, each put under the key that comes with it. -/
def putAll (s : Settings) (xs : List α) : Settings :=
  xs.foldl (fun (s : Settings) x => s.putSome (keyOf x) (valueOf x)) s

theorem distinct_putAll {s : Settings} (h : Entries.Distinct s) (xs : List α) :
    Entries.Distinct (putAll keyOf valueOf s xs) := by
  induction xs generalizing s with
  | nil => exact h
  | cons x xs ih => exact ih (distinct_putSome h _ _)

/-- Where every key comes once, there is the value that comes with it, if there is one. -/
theorem field?_putAll {xs : List α} (h : (xs.map keyOf).Nodup) (s : Settings) (key : String) :
    Entries.field? (putAll keyOf valueOf s xs) key =
      ((xs.find? (keyOf · == key)).bind valueOf).or (Entries.field? s key) := by
  induction xs generalizing s with
  | nil => rfl
  | cons x xs ih =>
    obtain ⟨hx, hxs⟩ := List.nodup_cons.mp h
    rw [putAll, List.foldl_cons, ← putAll, ih hxs, field?_putSome]
    by_cases hkey : keyOf x = key
    · have hnone : xs.find? (keyOf · == key) = none := by
        rw [List.find?_eq_none]
        intro y hy hykey
        rw [hkey, ← beq_iff_eq.mp hykey] at hx
        exact hx (List.mem_map_of_mem hy)
      simp [hnone, hkey]
    · simp [hkey]

end

/-! ## The environment -/

/-- The value of the first variable that is set, if it can be read. -/
def variableValue? (env : Environment) (v : Variable) : Option Value :=
  (firstSet env v.names).bind fun p => (v.form.read p.2).toOption

/-- The value that a variable gives a key. -/
def environmentValue? (env : Environment) (key : String) : Option Value :=
  (readable.find? (·.key == key)).bind (variableValue? env)

theorem value_putVariable (env : Environment) (s : Settings) (v : Variable) :
    (putVariable env s v).value = s.putSome v.key (variableValue? env v) := by
  rw [putVariable, variableValue?]
  cases firstSet env v.names with
  | none => rfl
  | some p =>
    obtain ⟨name, raw⟩ := p
    simp only [Option.bind_some]
    cases v.form.read raw <;> rfl

theorem value_ofEnvironment (env : Environment) : (ofEnvironment env).value =
    putAll Variable.key (variableValue? env) [] readable := by
  rw [ofEnvironment, Noted.value_foldlM, putAll]
  simp only [value_putVariable]

theorem distinct_ofEnvironment (env : Environment) :
    Entries.Distinct (ofEnvironment env).value := by
  rw [value_ofEnvironment]
  exact distinct_putAll _ _ Entries.distinct_nil _

theorem field?_ofEnvironment (env : Environment) (key : String) :
    Entries.field? (ofEnvironment env).value key = environmentValue? env key := by
  have hkeys : (readable.map (·.key)).Nodup := by decide
  rw [value_ofEnvironment, field?_putAll _ _ hkeys, Entries.field?_nil, Option.or_none, environmentValue?]

/-- No variable gives a map. -/
theorem entries?_of_environmentValue? {env : Environment} {key : String} {v : Value}
    (h : environmentValue? env key = some v) : v.entries? = none := by
  obtain ⟨x, -, hx⟩ := Option.bind_eq_some_iff.mp h
  obtain ⟨p, -, hp⟩ := Option.bind_eq_some_iff.mp hx
  have hread : x.form.read p.2 = .ok v := by
    cases hr : x.form.read p.2 with
    | error e => rw [hr] at hp; cases hp
    | ok w => rw [hr] at hp; exact congrArg _ (Option.some.inj hp)
  cases hf : x.form with
  | text | list =>
    rw [hf] at hread
    obtain rfl := Except.ok.inj hread
    rfl
  | whole =>
    rw [hf, Form.read] at hread
    cases hw : Fault.wholeOf p.2 with
    | error e => rw [hw] at hread; cases hread
    | ok i =>
      rw [hw] at hread
      obtain rfl := Except.ok.inj hread
      rfl
  | number =>
    rw [hf, Form.read] at hread
    cases hd : Fault.doubleOf p.2 with
    | error e => rw [hd] at hread; cases hread
    | ok d =>
      rw [hd] at hread
      obtain rfl := Except.ok.inj hread
      rfl

/-! ## A variable that cannot be read -/

/-- The environment without a variable. -/
def unset (name : String) (env : Environment) : Environment := env.filter (·.1 != name)

theorem lookup_unset (name : String) (env : Environment) (n : String) :
    (unset name env).lookup n = if n = name then none else env.lookup n := by
  rw [unset]
  induction env with
  | nil => simp
  | cons e env ih =>
    obtain ⟨m, raw⟩ := e
    rw [List.filter_cons]
    by_cases hm : m = name
    · subst hm
      rw [if_neg (by simp), ih, List.lookup_cons]
      split
      · rfl
      · rename_i hn
        rw [beq_false_of_ne hn]
    · rw [if_pos (by simpa using hm), List.lookup_cons, List.lookup_cons, ih]
      by_cases hn : n = m
      · subst hn
        simp [hm]
      · simp [beq_false_of_ne hn]

theorem firstSet_unset {name : String} {names : List String} (h : name ∉ names)
    (env : Environment) : firstSet (unset name env) names = firstSet env names := by
  induction names with
  | nil => rfl
  | cons n names ih =>
    obtain ⟨hn, hnames⟩ := List.ne_and_not_mem_of_not_mem_cons h
    have ih : names.findSome? _ = names.findSome? _ := ih hnames
    rw [firstSet, firstSet, List.findSome?_cons, List.findSome?_cons, lookup_unset,
      if_neg (Ne.symm hn), ih]

/-- A name belongs to one variable. -/
theorem eq_of_mem_names {v w : Variable} (hv : v ∈ readable) (hw : w ∈ readable) {name : String}
    (hvn : name ∈ v.names) (hwn : name ∈ w.names) : v = w := by
  have hdisjoint : readable.Pairwise fun v w => ∀ n ∈ v.names, n ∉ w.names := by decide
  let R (v w : Variable) : Prop := name ∈ v.names → name ∈ w.names → v = w
  have hsymm : Std.Symm R := ⟨fun _ _ h hw hv => (h hv hw).symm⟩
  have hR : readable.Pairwise R := hdisjoint.imp fun h hv hw => absurd hw (h name hv)
  exact hR.forall_of_forall (fun _ _ _ _ => rfl) hv hw hvn hwn

/-- A variable that cannot be read has one name only. -/
theorem names_of_unreadable {v : Variable} (hv : v ∈ readable) {name : String}
    (hname : name ∈ v.names) {raw : String} {f : Fault} (hf : v.form.read raw = .error f) :
    v.names = [name] := by
  have hsingle : ∀ v ∈ readable, v.form = .text ∨ v.names.length = 1 := by decide
  obtain htext | hone := hsingle v hv
  · rw [htext] at hf
    cases hf
  · obtain ⟨n, hn⟩ := List.length_eq_one_iff.mp hone
    rw [hn] at hname ⊢
    rw [List.mem_singleton.mp hname]

/-- A variable that cannot be read counts as one that is not set. -/
theorem ofEnvironment_unset {env : Environment} {v : Variable} (hv : v ∈ readable) {name : String}
    (hname : name ∈ v.names) {raw : String} (hraw : env.lookup name = some raw) {f : Fault}
    (hf : v.form.read raw = .error f) :
    (ofEnvironment (unset name env)).value = (ofEnvironment env).value := by
  have hvalue : ∀ w ∈ readable, variableValue? (unset name env) w = variableValue? env w := by
    intro w hw
    by_cases hwn : name ∈ w.names
    · obtain rfl := eq_of_mem_names hv hw hname hwn
      simp [variableValue?, firstSet, names_of_unreadable hv hname hf, lookup_unset, hraw, hf,
        Except.toOption]
    · rw [variableValue?, variableValue?, firstSet_unset hwn]
  rw [value_ofEnvironment, value_ofEnvironment, putAll, putAll]
  exact List.foldl_ext _ _ _ fun s w hw => by rw [hvalue w hw]

/-! ## The arguments -/

/-- The argument that gives a key its value; null gives none. -/
def argumentValue? (arguments : Entries) (key : String) : Option Value :=
  (argumentKeys.find? (·.2 == key)).bind fun a => (arguments.field? a.1).filter (!·.isNull)

theorem putValue_eq (s : Settings) (es : Entries) (name key : String) :
    s.putValue key (value es name) = s.putSome key ((es.field? name).filter (!·.isNull)) := by
  rw [putValue, value]
  cases es.field? name with
  | none => rfl
  | some v =>
    rw [Option.getD_some]
    cases hv : v.isNull <;> simp [putSome, Option.filter, hv]

theorem ofArguments_eq (arguments : Entries) : ofArguments arguments =
    putAll (·.2) (fun a => (arguments.field? a.1).filter (!·.isNull)) [] argumentKeys := by
  rw [ofArguments, putFrom, putAll]
  simp only [putValue_eq]

theorem distinct_ofArguments (arguments : Entries) : Entries.Distinct (ofArguments arguments) := by
  rw [ofArguments_eq]
  exact distinct_putAll _ _ Entries.distinct_nil _

theorem field?_ofArguments (arguments : Entries) (key : String) :
    Entries.field? (ofArguments arguments) key = argumentValue? arguments key := by
  have hkeys : (argumentKeys.map (·.2)).Nodup := by decide
  rw [ofArguments_eq, field?_putAll _ _ hkeys, Entries.field?_nil, Option.or_none, argumentValue?]

/-! ## The configuration file -/

section
variable {s : Settings} (h : (Value.map s).DistinctKeys)
include h

theorem distinctKeys_putValue (key : String) {v : Value} (hv : v.DistinctKeys) :
    (Value.map (s.putValue key v)).DistinctKeys := by
  rw [putValue]
  split
  · exact h
  · exact Value.distinctKeys_insert h _ hv

theorem distinctKeys_value (key : String) : (s.value key).DistinctKeys := by
  rw [value]
  cases hv : Entries.field? s key with
  | none => trivial
  | some v => exact (Value.distinctKeys_map.mp h).2 _ (Entries.mem_of_field? hv)

theorem distinctKeys_section? {name : String} {es : Entries} (hes : section? s name = some es) :
    (Value.map es).DistinctKeys := by
  obtain ⟨v, hv, hes⟩ := Option.bind_eq_some_iff.mp hes
  exact ((Value.distinctKeys_map.mp h).2 _ (Entries.mem_of_field? hv)).entries hes

theorem distinctKeys_putFrom {fields : Option Entries}
    (hfields : ∀ es, fields = some es → (Value.map es).DistinctKeys)
    (keys : List (String × String)) : (Value.map (s.putFrom fields keys)).DistinctKeys := by
  cases fields with
  | none => exact h
  | some es =>
    rw [putFrom]
    induction keys generalizing s with
    | nil => exact h
    | cons k keys ih =>
      exact ih (distinctKeys_putValue h k.2 (distinctKeys_value (hfields es rfl) k.1))

theorem distinctKeys_putBackend {fields : Entries} (hfields : (Value.map fields).DistinctKeys) :
    (Value.map (s.putBackend fields)).DistinctKeys := by
  have hvalues := (Value.distinctKeys_map.mp hfields).2
  rw [putBackend]
  clear hfields
  induction fields generalizing s with
  | nil => exact h
  | cons e fields ih =>
    obtain ⟨he, hrest⟩ := List.forall_mem_cons.mp hvalues
    refine ih ?_ hrest
    dsimp only
    split
    · exact h
    · exact Value.distinctKeys_insert h _ he

end

/-- The settings of a file whose maps have no key twice have none twice either. -/
theorem distinctKeys_ofSections {nested : Entries} (h : (Value.map nested).DistinctKeys) :
    (Value.map (ofSections nested)).DistinctKeys := by
  have hempty := Value.distinctKeys_empty
  have htool : ∀ name es,
      ((section? nested "static_analysers").bind (section? · name)) = some es →
        (Value.map es).DistinctKeys := by
    intro name es hes
    obtain ⟨fields, hfields, hes⟩ := Option.bind_eq_some_iff.mp hes
    exact distinctKeys_section? (distinctKeys_section? h hfields) hes
  have hsection : ∀ name es, section? nested name = some es → (Value.map es).DistinctKeys :=
    fun name es => distinctKeys_section? h
  have hbackend : (Value.map ((section? nested "ai").getD [])).DistinctKeys := by
    cases hs : section? nested "ai" with
    | none => exact hempty
    | some es => exact hsection _ _ hs
  unfold ofSections
  refine distinctKeys_putFrom ?_ (hsection _) _
  refine distinctKeys_putFrom ?_ (hsection _) _
  refine distinctKeys_putFrom ?_ (hsection _) _
  refine distinctKeys_putFrom ?_ (htool _) _
  refine distinctKeys_putFrom ?_ (htool _) _
  refine distinctKeys_putFrom ?_ (hsection _) _
  refine distinctKeys_putFrom ?_ (fun es hes => Option.some.inj hes ▸ h) _
  exact distinctKeys_putBackend hempty hbackend

/-- The settings of a configuration file: those in its sections, or none. -/
def IsFileLayer (file : Settings) : Prop :=
  file = [] ∨ ∃ text v nested, Yaml.read text = .ok v ∧ v.entries? = some nested ∧
    file = ofSections nested

theorem IsFileLayer.distinctKeys {file : Settings} (h : IsFileLayer file) :
    (Value.map file).DistinctKeys := by
  obtain rfl | ⟨text, v, nested, hread, hnested, rfl⟩ := h
  · exact Value.distinctKeys_empty
  · exact distinctKeys_ofSections ((Yaml.gives_read text v hread).entries hnested)

theorem gives_ofFile (fs : Files.FileSystem) (path : String) :
    Gives IsFileLayer (ofFile fs path).run.value := by
  have hnone : IsFileLayer [] := Or.inl rfl
  unfold ofFile
  refine gives_attempt fun place => ?_
  split
  · split
    · exact gives_ok hnone
    · split
      · exact gives_ok hnone
      · exact gives_error
      · rename_i v hread
        split
        · exact gives_ok hnone
        · split
          · rename_i nested hnested
            exact gives_ok (Or.inr ⟨_, v, nested, hread, hnested, rfl⟩)
          · exact gives_ok hnone
  · exact gives_ok hnone

/-! ## All layers -/

theorem value_build (source : ConfigSource) : (Config.build source).run.value =
    match (ofFile source.files (Config.pathIn source)).run.value with
    | .ok file => (Config.ofChecked (layered file (ofEnvironment source.environment).value
        (ofArguments source.arguments))).run.value
    | .error e => .error e := by
  rw [Config.build, Attempt.value_bind]
  cases (ofFile source.files (Config.pathIn source)).run.value with
  | error e => rfl
  | ok file =>
    dsimp only
    split
    · rfl
    · rfl

/-- `w` is the value `v`, a map as its entries. -/
def Alike (v w : Value) : Prop := w = v ∨ ∃ es, v.entries? = some es ∧ w = .map es

/-- What is usual is no map or an empty one. -/
theorem usual_empty {key : String} {d : Value} (h : Entries.field? usual key = some d) :
    d.entries? = none ∨ d = .map [] := by
  have husual : ∀ e ∈ usual, e.2.entries? = none ∨ e.2 = .map [] := by
    simp [usual, Value.entries?, Value.opened]
  exact husual _ (Entries.mem_of_field? h)

/-- A value of the configuration file comes out as it is. -/
theorem alike_mergeValue {d v : Value} (hd : d.entries? = none ∨ d = .map [])
    (hv : v.DistinctKeys) : Alike v (mergeValue (some d) v) := by
  obtain hd | rfl := hd
  · exact Or.inl (mergeValue_of_none (Or.inl hd))
  · cases hes : v.entries? with
    | none => exact Or.inl (mergeValue_of_none (Or.inr hes))
    | some es => exact Or.inr ⟨es, hes, mergeValue_empty hv hes⟩

/-- The value of a key whose usual value is `d`, as the layers below the arguments give it. -/
def lowerValue (file : Settings) (environment : Environment) (key : String) (d : Value) : Value :=
  ((environmentValue? environment key).or (Entries.field? file key)).getD d

section
variable {file : Settings} (hfile : IsFileLayer file) (environment : Environment) {key : String}
  {d : Value} (hd : Entries.field? usual key = some d)
include hfile hd

/-- A key below the arguments has the value of its variable, else that of the file, else the usual
one. -/
theorem field?_lower : ∃ w, Alike (lowerValue file environment key d) w ∧
    Entries.field? ((usual.merge file).merge (ofEnvironment environment).value) key = some w := by
  obtain ⟨hdistinct, hvalues⟩ := Value.distinctKeys_map.mp hfile.distinctKeys
  rw [field?_merge (distinct_ofEnvironment environment), field?_ofEnvironment, lowerValue]
  cases henv : environmentValue? environment key with
  | some v =>
    refine ⟨v, Or.inl rfl, ?_⟩
    simp only [mergeValue_of_none (Or.inr (entries?_of_environmentValue? henv))]
  | none =>
    rw [field?_merge hdistinct, hd]
    cases hv : Entries.field? file key with
    | none => exact ⟨d, Or.inl rfl, rfl⟩
    | some v =>
      refine ⟨mergeValue (some d) v, ?_, rfl⟩
      exact alike_mergeValue (usual_empty hd) (hvalues _ (Entries.mem_of_field? hv))

theorem field?_layered (arguments : Entries) :
    ∃ w, Alike (lowerValue file environment key d) w ∧
      Entries.field? (layered file (ofEnvironment environment).value (ofArguments arguments)) key =
        match argumentValue? arguments key with
        | some v => some (mergeValue (some w) v)
        | none => some w := by
  obtain ⟨w, halike, hw⟩ := field?_lower hfile environment hd
  refine ⟨w, halike, ?_⟩
  rw [layered, field?_merge (distinct_ofArguments arguments), field?_ofArguments, hw]

end

/-- The keys whose values are maps. -/
def mapKeys : List String := ["prompt_templates", "brakeman_options", "bundler_audit_options"]

/-- Neither a variable nor an argument gives a key whose value is a map. -/
theorem not_given_of_mapKeys {key : String} (h : key ∈ mapKeys) (environment : Environment)
    (arguments : Entries) : environmentValue? environment key = none ∧
      argumentValue? arguments key = none := by
  have hnone : ∀ key ∈ mapKeys, (readable.find? (·.key == key)).isNone = true ∧
      argumentKeys.find? (·.2 == key) = none := by decide
  obtain ⟨henv, harg⟩ := hnone key h
  rw [environmentValue?, argumentValue?, Option.isNone_iff_eq_none.mp henv, harg]
  exact ⟨rfl, rfl⟩

theorem field?_layered_of_mapKeys {file : Settings} (hfile : IsFileLayer file)
    (environment : Environment) (arguments : Entries) {key : String} (hkey : key ∈ mapKeys)
    {v : Value} (hv : Entries.field? file key = some v) {es : Entries} (hes : v.entries? = some es) :
    Entries.field? (layered file (ofEnvironment environment).value (ofArguments arguments)) key =
      some (.map es) := by
  obtain ⟨henv, harg⟩ := not_given_of_mapKeys hkey environment arguments
  obtain ⟨hdistinct, hvalues⟩ := Value.distinctKeys_map.mp hfile.distinctKeys
  have husual : Entries.field? usual key = some (.map []) := by
    simp only [mapKeys, List.mem_cons, List.not_mem_nil, or_false] at hkey
    obtain rfl | rfl | rfl := hkey <;> simp [usual, Entries.field?_cons_str]
  rw [layered, field?_merge (distinct_ofArguments arguments), field?_ofArguments, harg,
    field?_merge (distinct_ofEnvironment environment), field?_ofEnvironment, henv,
    field?_merge hdistinct, hv, husual]
  exact congrArg some (mergeValue_empty (hvalues _ (Entries.mem_of_field? hv)) hes)

/-- What the layers give under the keys that have a usual value. -/
structure IsLayered (file : Settings) (environment : Environment) (arguments : Entries)
    (merged : Settings) : Prop where
  /-- An argument replaces what is below it, unless both are maps: then it is put over that. -/
  argument : ∀ key d v, Entries.field? usual key = some d →
    argumentValue? arguments key = some v → ∃ w, Alike (lowerValue file environment key d) w ∧
      Entries.field? merged key = some (mergeValue (some w) v) ∧
      (v.entries? = none ∨ w.entries? = none → Entries.field? merged key = some v)
  /-- Without an argument there is the value of the variable, of the file or the usual one. -/
  lower : ∀ key d, Entries.field? usual key = some d → argumentValue? arguments key = none →
    ∃ w, Alike (lowerValue file environment key d) w ∧ Entries.field? merged key = some w
  /-- A map of the file has its entries in their order. -/
  map : ∀ key ∈ mapKeys, ∀ v es, Entries.field? file key = some v → v.entries? = some es →
    Entries.field? merged key = some (.map es)

theorem isLayered_layered {file : Settings} (hfile : IsFileLayer file) (environment : Environment)
    (arguments : Entries) : IsLayered file environment arguments
      (layered file (ofEnvironment environment).value (ofArguments arguments)) where
  argument := by
    intro key d v hd hv
    obtain ⟨w, halike, hw⟩ := field?_layered hfile environment hd arguments
    rw [hv] at hw
    exact ⟨w, halike, hw, fun h => hw.trans (congrArg some (mergeValue_of_none h.symm))⟩
  lower := by
    intro key d hd hnone
    obtain ⟨w, halike, hw⟩ := field?_layered hfile environment hd arguments
    rw [hnone] at hw
    exact ⟨w, halike, hw⟩
  map := fun _ hkey _ _ hv hes => field?_layered_of_mapKeys hfile environment arguments hkey hv hes

/-- What one layer over another comes to. -/
structure IsOver (s layer merged : Settings) : Prop where
  /-- No key is taken away, and none changes its place. -/
  keys : s.map (·.1) <+: merged.map (·.1)
  /-- What the layer does not have stays. -/
  entry : ∀ e ∈ s, (∀ f ∈ layer, e.1.same f.1 = false) → e ∈ merged
  other : ∀ key, Entries.field? layer key = none → Entries.field? merged key = Entries.field? s key
  /-- What the layer has is put over what is there, a map over a map in the same way. -/
  own : Entries.Distinct layer → ∀ key v, Entries.field? layer key = some v →
    Entries.field? merged key = some (mergeValue (Entries.field? s key) v)
  maps : ∀ es fs, mergeValue (some (.map es)) (.map fs) = .map (merge es fs)

theorem isOver_merge (s layer : Settings) : IsOver s layer (s.merge layer) where
  keys := keys_merge s layer
  entry := fun _ he hne => mem_merge he hne
  other := fun _ h => field?_merge_of_none h
  own := fun h key v hv => by rw [field?_merge h, hv]
  maps := fun _ _ => rfl

/-- **Layers key by key.** The settings of which a configuration is made have, under each key that
has a usual value, the argument for it if there is one, else what its variable is read as, else the
value of the configuration file, else the usual one; but an argument that is a map is put over a map
of the layers below. A variable that cannot be read counts as not set, and a layer changes nothing
under a key that it does not have. -/
theorem layers_by_key (source : ConfigSource) :
    let environment := (ofEnvironment source.environment).value
    let arguments := ofArguments source.arguments
    (∀ file, (ofFile source.files (Config.pathIn source)).run.value = .ok file →
      IsFileLayer file ∧ (Config.build source).run.value =
        (Config.ofChecked (layered file environment arguments)).run.value) ∧
    (∀ file, IsFileLayer file → IsLayered file source.environment source.arguments
      (layered file environment arguments)) ∧
    (∀ v ∈ readable, ∀ name ∈ v.names, ∀ raw f, source.environment.lookup name = some raw →
      v.form.read raw = .error f →
      (ofEnvironment (unset name source.environment)).value = environment ∧
      (Config.build { source with environment := unset name source.environment }).run.value =
        (Config.build source).run.value) ∧
    ∀ s layer : Settings, IsOver s layer (s.merge layer) := by
  intro environment arguments
  refine ⟨?_, ?_, ?_, isOver_merge⟩
  · intro file hfile
    refine ⟨gives_ofFile _ _ file hfile, ?_⟩
    rw [value_build, hfile]
  · intro file hfile
    exact isLayered_layered hfile source.environment source.arguments
  · intro v hv name hname raw f hraw hf
    have hunset := ofEnvironment_unset hv hname hraw hf
    refine ⟨hunset, ?_⟩
    rw [value_build, value_build]
    simp only [hunset]
    rfl

/-! ## An argument that is blended -/

/-- The sections of a file with a map for the path of the report. -/
def reportSections : Entries :=
  [(.str "report", .map [(.str "output_path", .map [(.str "b", .int 2)])])]

def isReportSections : Except Yaml.Stop Value → Bool
  | .ok (.map [(.str k, .map [(.str l, .map [(.str m, .int 2)])])]) =>
    k == "report" && l == "output_path" && m == "b"
  | _ => false

theorem read_reportSections : Yaml.read "report: \x7boutput_path: \x7bb: 2\x7d\x7d" =
    .ok (.map reportSections) := by
  have h : isReportSections (Yaml.read "report: \x7boutput_path: \x7bb: 2\x7d\x7d") = true := by
    decide +kernel
  unfold isReportSections at h
  split at h
  · rename_i k l m hread
    simp only [Bool.and_eq_true, beq_iff_eq] at h
    obtain ⟨⟨rfl, rfl⟩, rfl⟩ := h
    exact hread
  · cases h

theorem ofSections_reportSections : ofSections reportSections =
    [(.str "report_output_path", .map [(.str "b", .int 2)])] := by
  simp [reportSections, ofSections, putBackend, putFrom, putValue, value, section?,
    Entries.field?_cons_str, Entries.setField, Entries.insert, Value.entries?, Value.opened,
    Value.isNull]

theorem lowerValue_reportSections (d : Value) :
    lowerValue (ofSections reportSections) [] "report_output_path" d =
      .map [(.str "b", .int 2)] := by
  have hnone : environmentValue? [] "report_output_path" = none := by
    rw [environmentValue?]
    simp [readable, variableValue?, firstSet]
  rw [lowerValue, hnone, ofSections_reportSections]
  simp [Entries.field?_cons_str]

/-- A map that comes as an argument does not replace a map of the configuration file. -/
theorem map_argument_blended :
    let file := ofSections reportSections
    let arguments : Entries := [(.str "output_path", .map [(.str "a", .int 1)])]
    let merged := layered file (ofEnvironment []).value (ofArguments arguments)
    IsFileLayer file ∧
    argumentValue? arguments "report_output_path" = some (.map [(.str "a", .int 1)]) ∧
    Entries.field? merged "report_output_path" =
      some (.map [(.str "b", .int 2), (.str "a", .int 1)]) ∧
    Entries.field? merged "report_output_path" ≠
      argumentValue? arguments "report_output_path" := by
  intro file arguments merged
  have hfile : IsFileLayer file := Or.inr ⟨_, _, _, read_reportSections, rfl, rfl⟩
  have harg : argumentValue? arguments "report_output_path" =
      some (.map [(.str "a", .int 1)]) := by
    simp [argumentValue?, argumentKeys, arguments, Entries.field?_cons_str, Value.isNull]
  have husual : Entries.field? usual "report_output_path" = some (.str "./codeward_report") := by
    simp [usual, Entries.field?_cons_str]
  obtain ⟨w, halike, hw⟩ := field?_layered hfile [] husual arguments
  obtain rfl : w = .map [(.str "b", .int 2)] := by
    rw [lowerValue_reportSections] at halike
    obtain h | ⟨es, hes, h⟩ := halike
    · exact h
    · rw [h, ← Option.some.inj hes]
  have hblend : Entries.field? merged "report_output_path" =
      some (.map [(.str "b", .int 2), (.str "a", .int 1)]) := by
    rw [hw, harg]
    simp [mergeValue, mergeEntries, Value.entries?, Value.opened, Entries.insert]
  refine ⟨hfile, harg, hblend, ?_⟩
  rw [hblend, harg]
  simp

end Settings

end SecurityScan
