import Mathlib.Data.List.Forall2
import SecurityScan.Proofs.Entries
import SecurityScan.Reply.Reader

/-!
# Replies that fit

A reply that is a JSON object is kept when it has a list of findings that all fit, and is left out
otherwise. A finding that is kept has its texts as they came and its severity by name. What is kept
fits again and is kept as it is. Only a reply with something nested too deep beside the keys that are
known is neither kept nor left out: it stops the reading.
-/

namespace SecurityScan

/-! ## JSON -/

namespace Value

mutual

/-- Values that JSON has: finite numbers, texts of whole characters, and lists and maps of such
values, the maps under such texts. -/
def isJson : Value → Bool
  | .null | .bool _ | .int _ | .float (.finite ..) => true
  | .str s => !Text.hasLoneHalf s
  | .list xs => allJson xs
  | .map es => entriesJson es
  | _ => false

def allJson : List Value → Bool
  | [] => true
  | x :: xs => x.isJson && allJson xs

def entriesJson : List (Value × Value) → Bool
  | [] => true
  | (k, v) :: es => k.str?.any (!Text.hasLoneHalf ·) && v.isJson && entriesJson es

end

theorem allJson_iff {xs : List Value} : allJson xs = true ↔ ∀ x ∈ xs, x.isJson = true := by
  induction xs with
  | nil => simp [allJson]
  | cons x xs ih => simp [allJson, ih]

theorem entriesJson_iff {es : Entries} : entriesJson es = true ↔
    ∀ e ∈ es, (∃ s, e.1 = .str s ∧ Text.hasLoneHalf s = false) ∧ e.2.isJson = true := by
  induction es with
  | nil => simp [entriesJson]
  | cons e es ih =>
    have hk : e.1.str?.any (!Text.hasLoneHalf ·) = true ↔
        ∃ s, e.1 = .str s ∧ Text.hasLoneHalf s = false := by
      cases e.1 <;> simp [str?]
    rw [List.forall_mem_cons, ← ih, ← hk, entriesJson, Bool.and_eq_true, Bool.and_eq_true]

mutual

/-- A JSON value is plain already, and its keys have a form as bytes. -/
theorem plain_of_isJson : ∀ {v : Value}, v.isJson = true → v.plain = v ∧ v.keysEncodable = true
  | .null, _ | .bool _, _ | .int _, _ | .float (.finite ..), _ | .str _, _ => by
    simp [plain, keysEncodable]
  | .list xs, h => by
    obtain ⟨hp, hk⟩ := @plainAll_of_allJson xs (by simpa [isJson] using h)
    simp [plain, keysEncodable, hp, hk]
  | .map es, h => by
    obtain ⟨hp, hk⟩ := @plainEntries_of_entriesJson es (by simpa [isJson] using h)
    simp [plain, keysEncodable, hp, hk]
  | .float .nan, h | .float (.infinite _), h | .tuple _, h | .date _, h | .datetime _, h
  | .bytes _, h | .set _, h | .marked .., h | .again .., h => by simp [isJson] at h

theorem plainAll_of_allJson : ∀ {xs : List Value}, allJson xs = true →
    plainAll xs = xs ∧ allKeysEncodable xs = true
  | [], _ => by simp [plainAll, allKeysEncodable]
  | x :: xs, h => by
    simp only [allJson, Bool.and_eq_true] at h
    obtain ⟨hp, hk⟩ := plain_of_isJson h.1
    obtain ⟨hps, hks⟩ := plainAll_of_allJson h.2
    simp [plainAll, allKeysEncodable, hp, hk, hps, hks]

theorem plainEntries_of_entriesJson : ∀ {es : Entries}, entriesJson es = true →
    plainEntries es = es ∧ entryKeysEncodable es = true
  | [], _ => by simp [plainEntries, entryKeysEncodable]
  | (k, v) :: es, h => by
    simp only [entriesJson, Bool.and_eq_true] at h
    obtain ⟨⟨hkey, hv⟩, hes⟩ := h
    obtain ⟨hp, hk⟩ := plain_of_isJson hv
    obtain ⟨hps, hks⟩ := plainEntries_of_entriesJson hes
    obtain ⟨s, hs, hhalf⟩ : ∃ s, k = .str s ∧ Text.hasLoneHalf s = false := by
      cases k <;> simp_all [str?]
    simp [plainEntries, entryKeysEncodable, plainKey, str?, hs, hhalf, hp, hk, hps, hks]

end

/-- Values of the kinds that JSON has: numbers of any size, any texts, and lists and maps of such
values, the maps under texts. -/
inductive IsJsonTree : Value → Prop
  | null : IsJsonTree .null
  | bool (b : Bool) : IsJsonTree (.bool b)
  | int (i : Int) : IsJsonTree (.int i)
  | float (x : Double) : IsJsonTree (.float x)
  | str (s : String) : IsJsonTree (.str s)
  | list {xs : List Value} : (∀ x ∈ xs, IsJsonTree x) → IsJsonTree (.list xs)
  | map {es : Entries} : (∀ e ∈ es, ∃ s, e.1 = .str s) → (∀ e ∈ es, IsJsonTree e.2) →
    IsJsonTree (.map es)

theorem IsJsonTree.items {xs : List Value} (h : (Value.list xs).IsJsonTree) :
    ∀ x ∈ xs, x.IsJsonTree := by
  cases h with
  | list hxs => exact hxs

theorem IsJsonTree.keys {es : Entries} (h : (Value.map es).IsJsonTree) :
    ∀ e ∈ es, ∃ s, e.1 = .str s := by
  cases h with
  | map hkeys _ => exact hkeys

theorem IsJsonTree.values {es : Entries} (h : (Value.map es).IsJsonTree) :
    ∀ e ∈ es, e.2.IsJsonTree := by
  cases h with
  | map _ hvalues => exact hvalues

theorem IsJsonTree.field {es : Entries} (h : (Value.map es).IsJsonTree) {name : String} {v : Value}
    (hv : es.field? name = some v) : v.IsJsonTree :=
  h.values _ (Entries.mem_of_field? hv)

mutual

theorem isJsonTree_of_isJson : ∀ {v : Value}, v.isJson = true → v.IsJsonTree
  | .null, _ => .null
  | .bool b, _ => .bool b
  | .int i, _ => .int i
  | .float x, _ => .float x
  | .str s, _ => .str s
  | .list xs, h =>
    have hxs : allJson xs = true := by simpa [isJson] using h
    .list (isJsonTree_of_allJson hxs)
  | .map es, h =>
    have hes : entriesJson es = true := by simpa [isJson] using h
    .map (fun e he => (entriesJson_iff.mp hes e he).1.imp fun _ => And.left)
      (isJsonTree_of_entriesJson hes)
  | .tuple _, h | .date _, h | .datetime _, h | .bytes _, h | .set _, h | .marked .., h
  | .again .., h => by simp [isJson] at h

theorem isJsonTree_of_allJson : ∀ {xs : List Value}, allJson xs = true → ∀ x ∈ xs, x.IsJsonTree
  | [], _ => List.forall_mem_nil _
  | _ :: _, h => by
    rw [allJson, Bool.and_eq_true] at h
    exact List.forall_mem_cons.mpr ⟨isJsonTree_of_isJson h.1, isJsonTree_of_allJson h.2⟩

theorem isJsonTree_of_entriesJson : ∀ {es : Entries}, entriesJson es = true →
    ∀ e ∈ es, e.2.IsJsonTree
  | [], _ => List.forall_mem_nil _
  | (_, _) :: _, h => by
    simp only [entriesJson, Bool.and_eq_true] at h
    exact List.forall_mem_cons.mpr ⟨isJsonTree_of_isJson h.1.2, isJsonTree_of_entriesJson h.2⟩

end

end Value

namespace Entries

theorem isJson_of_field? {es : Entries} (h : Value.entriesJson es = true) {name : String} {v : Value}
    (hv : es.field? name = some v) : v.isJson = true :=
  (Value.entriesJson_iff.mp h _ (mem_of_field? hv)).2

end Entries

theorem Severity.ofName?_eq_some {s : String} {severity : Severity} :
    Severity.ofName? s = some severity ↔ s = severity.name := by
  constructor
  · intro h
    have hname := List.find?_some h
    exact (beq_iff_eq.mp hname).symm
  · rintro rfl
    cases severity <;> rfl

namespace Reply

namespace Checked

variable {α β : Type}

theorem ofOption_eq_ok {x : Option α} {a : α} : ofOption x = .ok a ↔ x = some a := by
  cases x <;> simp [ofOption]

theorem both_eq_ok {x : Checked α} {y : Checked β} {a : α} {b : β} :
    both x y = .ok (a, b) ↔ x = .ok a ∧ y = .ok b := by
  cases x <;> cases y <;> simp [both]

theorem map_eq_ok {x : Checked α} {f : α → β} {b : β} :
    x.map f = .ok b ↔ ∃ a, x = .ok a ∧ f a = b := by
  cases x <;> simp [Except.map]

/-- All fit when each does. -/
theorem all_eq_ok {f : α → Checked β} : ∀ {xs : List α} {ys : List β},
    all f xs = .ok ys ↔ List.Forall₂ (fun x y => f x = .ok y) xs ys
  | [], ys => by simp [all, eq_comm]
  | x :: xs, ys => by
    rw [all, map_eq_ok, List.forall₂_cons_left_iff]
    constructor
    · rintro ⟨⟨b, bs⟩, h, rfl⟩
      obtain ⟨hb, hbs⟩ := both_eq_ok.mp h
      exact ⟨b, bs, hb, all_eq_ok.mp hbs, rfl⟩
    · rintro ⟨b, bs, hb, hbs, rfl⟩
      exact ⟨(b, bs), both_eq_ok.mpr ⟨hb, all_eq_ok.mpr hbs⟩, rfl⟩

/-- All fit and stay as they are when each does. -/
theorem all_same_eq_ok {f : α → Checked α} {p : α → Prop} {xs ys : List α}
    (hf : ∀ x ∈ xs, ∀ y, f x = .ok y ↔ y = x ∧ p x) :
    all f xs = .ok ys ↔ ys = xs ∧ ∀ x ∈ xs, p x := by
  rw [all_eq_ok]
  induction xs generalizing ys with
  | nil => simp
  | cons x xs ih =>
    obtain ⟨hx, hxs⟩ := List.forall_mem_cons.mp hf
    rw [List.forall₂_cons_left_iff, List.forall_mem_cons]
    constructor
    · rintro ⟨y, zs, hy, hzs, rfl⟩
      obtain ⟨rfl, hp⟩ := (hx y).mp hy
      obtain ⟨rfl, hps⟩ := (ih hxs).mp hzs
      exact ⟨rfl, hp, hps⟩
    · rintro ⟨rfl, hp, hps⟩
      exact ⟨x, xs, (hx x).mpr ⟨rfl, hp⟩, (ih hxs).mpr ⟨rfl, hps⟩, rfl⟩

end Checked

/-! ## Texts -/

/-- A text that is malformed is only noted. -/
theorem value_decoded (s : String) : (decoded s).run.value =
    match Json.read (withoutFence s) with
    | .ok v => .ok (some v)
    | .error (.malformed ..) => .ok none
    | .error (.tooManyDigits n) => .error (.tooManyDigits n)
    | .error .tooDeep => .error .tooDeep := by
  delta decoded
  rcases Json.read (withoutFence s) with (_ | _ | _) | v <;> rfl

/-! ## Keys of one's own -/

/-- The entries under other keys than the known ones. -/
def beside (known : List String) (es : Entries) : Entries :=
  es.filter fun e => !known.any fun k => e.1.same (.str k)

theorem mem_beside {known : List String} {es : Entries} {e : Value × Value} :
    e ∈ beside known es ↔ e ∈ es ∧ ∀ k ∈ known, e.1 ≠ .str k := by
  simp [beside, ← Value.same_str_iff]

theorem beside_append (known : List String) (es fs : Entries) :
    beside known (es ++ fs) = beside known es ++ beside known fs :=
  List.filter_append ..

theorem beside_eq_self {known : List String} {es : Entries}
    (h : ∀ e ∈ es, ∀ k ∈ known, e.1 ≠ .str k) : beside known es = es :=
  List.filter_eq_self.mpr fun e he => by simpa [← Value.same_str_iff] using h e he

theorem beside_eq_nil {known : List String} {es : Entries}
    (h : ∀ e ∈ es, ∃ k ∈ known, e.1 = .str k) : beside known es = [] :=
  List.filter_eq_nil_iff.mpr fun e he => by simpa [← Value.same_str_iff] using h e he

theorem beside_cons_of_mem {known : List String} {k : String} (h : k ∈ known) (v : Value)
    (es : Entries) : beside known ((.str k, v) :: es) = beside known es := by
  rw [beside, List.filter_cons_of_neg (by simp [h]), beside]

/-- The keys are texts that have a form as bytes. -/
def KeysFit (es : Entries) : Prop := ∀ e ∈ es, ∃ s, e.1 = .str s ∧ Text.hasLoneHalf s = false

theorem keysFit_of_entriesJson {es : Entries} (h : Value.entriesJson es = true) : KeysFit es :=
  fun e he => (Value.entriesJson_iff.mp h e he).1

/-- Entries under texts stay as they are when their keys fit. -/
theorem extras_eq_ok {known : List String} {es more : Entries}
    (hkeys : ∀ e ∈ es, ∃ s, e.1 = .str s) :
    extras known es = .ok more ↔ more = beside known es ∧ KeysFit (beside known es) := by
  refine Checked.all_same_eq_ok fun e he f => ?_
  obtain ⟨s, hs⟩ := hkeys e (List.mem_filter.mp he).1
  obtain ⟨k, v⟩ := e
  obtain rfl : k = .str s := hs
  have hkey : ∀ t, keyOf? (.str s) = some t ↔ s = t ∧ Text.hasLoneHalf s = false := by
    intro t
    simp only [keyOf?, textOf?, Option.filter_eq_some_iff, Option.some.injEq, Bool.not_eq_true']
    exact and_congr_right fun h => by rw [h]
  simp only [Checked.map_eq_ok, Checked.ofOption_eq_ok, hkey, Value.str.injEq]
  constructor
  · rintro ⟨t, ⟨rfl, hhalf⟩, rfl⟩
    exact ⟨rfl, s, rfl, hhalf⟩
  · rintro ⟨rfl, t, rfl, hhalf⟩
    exact ⟨s, ⟨rfl, hhalf⟩, rfl⟩

/-- Other entries that are JSON are kept, but for those that are null. -/
theorem keptExtras_eq {es : Entries} (h : Value.entriesJson es = true) :
    keptExtras es = es.filter fun e => !e.2.isNull := by
  have hplain : ∀ e ∈ es.filter (fun e => !e.2.isNull), (e.1, e.2.plain) = e := by
    intro e he
    rw [(Value.plain_of_isJson (Value.entriesJson_iff.mp h e (List.mem_filter.mp he).1).2).1]
  rw [keptExtras, List.map_congr_left hplain, List.map_id']

/-! ## Findings in parts -/

/-- What a finding is made of. -/
structure Finding where
  type : String
  location : String
  details : String
  severity : Severity
  snippet : Option String
  more : Entries

namespace Finding

/-- The entries under the known keys. -/
def known (f : Finding) : Entries :=
  [(.str "type", .str f.type), (.str "location", .str f.location), (.str "details", .str f.details),
    (.str "severity", .str f.severity.name)] ++
    match f.snippet with
    | some s => [(.str "code_snippet", .str s)]
    | none => []

/-- The checked form of a finding. -/
def toEntries (f : Finding) : Entries := f.known ++ f.more

/-- The entries of a map hold a finding of these parts. -/
structure In (f : Finding) (es : Entries) : Prop where
  type : es.field? "type" = some (.str f.type)
  location : es.field? "location" = some (.str f.location)
  details : es.field? "details" = some (.str f.details)
  severity : ∃ s, es.field? "severity" = some (.str s) ∧
    Text.capitalize (Text.strip s) = f.severity.name
  snippet : (es.field? "code_snippet").filter (!·.isNull) = f.snippet.map .str
  more : f.more = beside findingKeys es

end Finding

theorem severityOf?_field {es : Entries} {severity : Severity} :
    Checked.ofOption (severityOf? ((es.field? "severity").getD .null)) = .ok severity ↔
      ∃ s, es.field? "severity" = some (.str s) ∧
        Text.capitalize (Text.strip s) = severity.name := by
  rw [Checked.ofOption_eq_ok]
  cases hv : es.field? "severity" with
  | none => simp [severityOf?]
  | some v => cases v <;> simp [severityOf?, Severity.ofText?, Severity.ofName?_eq_some]

section
variable {es : Entries} (h : (Value.map es).IsJsonTree)
include h

theorem textOf?_field {name s : String} :
    Checked.ofOption (textOf? ((es.field? name).getD .null)) = .ok s ↔
      es.field? name = some (.str s) := by
  rw [Checked.ofOption_eq_ok]
  cases hv : es.field? name with
  | none => simp [textOf?]
  | some v => cases h.field hv <;> simp [textOf?]

theorem snippetOf?_field {snippet : Option String} :
    Checked.ofOption (snippetOf? (es.field? "code_snippet")) = .ok snippet ↔
      (es.field? "code_snippet").filter (!·.isNull) = snippet.map .str := by
  rw [Checked.ofOption_eq_ok]
  cases hv : es.field? "code_snippet" with
  | none => cases snippet <;> simp [snippetOf?]
  | some v =>
    cases h.field hv <;> cases snippet <;> simp [snippetOf?, textOf?, Option.filter, Value.isNull]

/-- The entries that fit are those of a finding whose other keys fit. -/
theorem findingOf_eq_ok {out : Entries} : findingOf (.map es) = .ok out ↔
    ∃ f : Finding, f.In es ∧ KeysFit f.more ∧ out = f.toEntries := by
  rw [findingOf, Checked.map_eq_ok]
  constructor
  · rintro ⟨⟨⟨⟨type, location⟩, ⟨details, severity⟩⟩, ⟨snippet, more⟩⟩, hall, rfl⟩
    obtain ⟨hfixed, hfree⟩ := Checked.both_eq_ok.mp hall
    obtain ⟨hplace, hcontent⟩ := Checked.both_eq_ok.mp hfixed
    obtain ⟨htype, hlocation⟩ := Checked.both_eq_ok.mp hplace
    obtain ⟨hdetails, hseverity⟩ := Checked.both_eq_ok.mp hcontent
    obtain ⟨hsnippet, hmore⟩ := Checked.both_eq_ok.mp hfree
    obtain ⟨rfl, hkeys⟩ := (extras_eq_ok h.keys).mp hmore
    refine ⟨⟨type, location, details, severity, snippet, _⟩, ?_, hkeys, rfl⟩
    exact {
      type := (textOf?_field h).mp htype
      location := (textOf?_field h).mp hlocation
      details := (textOf?_field h).mp hdetails
      severity := severityOf?_field.mp hseverity
      snippet := (snippetOf?_field h).mp hsnippet
      more := rfl }
  · rintro ⟨f, hf, hkeys, rfl⟩
    refine ⟨(((f.type, f.location), (f.details, f.severity)), (f.snippet, f.more)), ?_, rfl⟩
    have hplace := Checked.both_eq_ok.mpr
      ⟨(textOf?_field h).mpr hf.type, (textOf?_field h).mpr hf.location⟩
    have hcontent := Checked.both_eq_ok.mpr
      ⟨(textOf?_field h).mpr hf.details, severityOf?_field.mpr hf.severity⟩
    have hmore : extras findingKeys es = .ok f.more :=
      (extras_eq_ok h.keys).mpr ⟨hf.more, hf.more ▸ hkeys⟩
    have hfree := Checked.both_eq_ok.mpr ⟨(snippetOf?_field h).mpr hf.snippet, hmore⟩
    exact Checked.both_eq_ok.mpr ⟨Checked.both_eq_ok.mpr ⟨hplace, hcontent⟩, hfree⟩

end

/-! ## What is kept of a finding -/

namespace Finding

/-- No other entry has a known key. -/
def IsApart (f : Finding) : Prop := ∀ e ∈ f.more, ∀ k ∈ findingKeys, e.1 ≠ .str k

theorem In.isApart {f : Finding} {es : Entries} (h : f.In es) : f.IsApart := by
  intro e he
  rw [h.more] at he
  exact (mem_beside.mp he).2

theorem key_of_mem_known {f : Finding} {e : Value × Value} (h : e ∈ f.known) :
    ∃ k ∈ findingKeys, e.1 = .str k := by
  have hkeys : ∀ e ∈ f.known, e.1 ∈ findingKeys.map Value.str := by
    rw [known]
    cases f.snippet <;> simp [findingKeys]
  obtain ⟨k, hk, he⟩ := List.mem_map.mp (hkeys e h)
  exact ⟨k, hk, he.symm⟩

section
variable {f : Finding} (h : f.IsApart)
include h

theorem filter_toEntries :
    f.toEntries.filter (fun e => findingKeys.any fun k => e.1.same (.str k)) = f.known := by
  have hknown : f.known.filter (fun e => findingKeys.any fun k => e.1.same (.str k)) = f.known := by
    refine List.filter_eq_self.mpr fun e he => ?_
    obtain ⟨k, hk, hek⟩ := key_of_mem_known he
    exact List.any_eq_true.mpr ⟨k, hk, Value.same_str_iff.mpr hek⟩
  have hmore : f.more.filter (fun e => findingKeys.any fun k => e.1.same (.str k)) = [] := by
    refine List.filter_eq_nil_iff.mpr fun e he hany => ?_
    obtain ⟨k, hk, hek⟩ := List.any_eq_true.mp hany
    exact h e he k hk (Value.same_str_iff.mp hek)
  rw [toEntries, List.filter_append, hknown, hmore, List.append_nil]

theorem beside_toEntries : beside findingKeys f.toEntries = f.more := by
  rw [toEntries, beside_append, beside_eq_nil fun _ => key_of_mem_known, beside_eq_self h,
    List.nil_append]

theorem snippet_toEntries :
    Entries.field? f.toEntries "code_snippet" = f.snippet.map Value.str := by
  have hnone : Entries.field? f.more "code_snippet" = none :=
    Entries.field?_eq_none_iff.mpr fun e he => h e he _ (by decide)
  rw [toEntries, known]
  cases f.snippet <;> simp [Entries.field?_cons_str, hnone]

/-- The checked form of a finding holds its parts. -/
theorem in_toEntries : f.In f.toEntries where
  type := by simp [toEntries, known, Entries.field?_cons_str]
  location := by simp [toEntries, known, Entries.field?_cons_str]
  details := by simp [toEntries, known, Entries.field?_cons_str]
  severity := by
    refine ⟨f.severity.name, by simp [toEntries, known, Entries.field?_cons_str], ?_⟩
    cases f.severity <;> decide
  snippet := by
    rw [snippet_toEntries h]
    cases f.snippet <;> rfl
  more := (beside_toEntries h).symm

end

/-- A finding without its other entries that are null. -/
def kept (f : Finding) : Finding := { f with more := f.more.filter fun e => !e.2.isNull }

theorem IsApart.kept {f : Finding} (h : f.IsApart) : f.kept.IsApart :=
  fun e he => h e (List.mem_filter.mp he).1

theorem kept_kept (f : Finding) : f.kept.kept = f.kept := by
  simp [kept]

theorem keptFinding_eq {f : Finding} (h : f.IsApart) :
    keptFinding f.toEntries = .map (f.known ++ keptExtras f.more) := by
  have hkept : keptFinding f.toEntries =
      .map (f.toEntries.filter (fun e => findingKeys.any fun k => e.1.same (.str k)) ++
        keptExtras (beside findingKeys f.toEntries)) := rfl
  rw [hkept, filter_toEntries h, beside_toEntries h]

theorem keptFinding_toEntries {f : Finding} (h : f.IsApart)
    (hj : Value.entriesJson f.more = true) : keptFinding f.toEntries = .map f.kept.toEntries := by
  rw [keptFinding_eq h, keptExtras_eq hj]
  rfl

/-- The parts of a JSON finding are JSON. -/
theorem In.entriesJson {f : Finding} {es : Entries} (h : f.In es)
    (hj : Value.entriesJson es = true) : Value.entriesJson f.toEntries = true := by
  have hkey : ∀ k ∈ findingKeys, Text.hasLoneHalf k = false := by decide
  have hname : Text.hasLoneHalf f.severity.name = false := by cases f.severity <;> decide
  have hsnippet : ∀ s, f.snippet = some s → (Value.str s).isJson = true := by
    intro s hs
    have hfield := h.snippet
    rw [hs, Option.map_some, Option.filter_eq_some_iff] at hfield
    exact Entries.isJson_of_field? hj hfield.1
  rw [Value.entriesJson_iff] at hj ⊢
  intro e he
  obtain he | he := List.mem_append.mp he
  · obtain ⟨k, hk, hek⟩ := key_of_mem_known he
    refine ⟨⟨k, hek, hkey k hk⟩, ?_⟩
    have htype := Entries.isJson_of_field? (Value.entriesJson_iff.mpr hj) h.type
    have hlocation := Entries.isJson_of_field? (Value.entriesJson_iff.mpr hj) h.location
    have hdetails := Entries.isJson_of_field? (Value.entriesJson_iff.mpr hj) h.details
    have hseverity : (Value.str f.severity.name).isJson = true := by simp [Value.isJson, hname]
    rw [known] at he
    cases hs : f.snippet with
    | none =>
      simp only [hs, List.append_nil, List.mem_cons, List.not_mem_nil, or_false] at he
      obtain rfl | rfl | rfl | rfl := he <;> assumption
    | some s =>
      simp only [hs, List.cons_append, List.nil_append, List.mem_cons, List.not_mem_nil,
        or_false] at he
      obtain rfl | rfl | rfl | rfl | rfl := he
      all_goals first | assumption | exact hsnippet s hs
  · rw [h.more] at he
    exact hj e (mem_beside.mp he).1

end Finding

/-! ## Envelopes in parts -/

/-- The findings of a reply and its other entries. -/
structure Envelope where
  findings : List Finding
  more : Entries

namespace Envelope

/-- The entries of a map hold these parts. -/
structure In (r : Envelope) (es : Entries) : Prop where
  findings : ∃ xs, es.field? envelopeKey = some (.list xs) ∧
    List.Forall₂ (fun x f => ∃ fs, x = .map fs ∧ Finding.In f fs) xs r.findings
  more : r.more = beside [envelopeKey] es

def toEntries (r : Envelope) : Entries :=
  (.str envelopeKey, .list (r.findings.map fun f => .map f.toEntries)) :: r.more

/-- An envelope without the other entries that are null. -/
def kept (r : Envelope) : Envelope :=
  ⟨r.findings.map Finding.kept, r.more.filter fun e => !e.2.isNull⟩

/-- All entries under keys that are not known. -/
def others (r : Envelope) : Entries := r.more ++ r.findings.flatMap Finding.more

/-- Something beside the known keys is nested too deep. -/
def TooDeep (r : Envelope) : Prop := ∃ e ∈ r.others, maxDepth < e.2.depth

theorem keysFit_others {r : Envelope} :
    KeysFit r.others ↔ KeysFit r.more ∧ ∀ f ∈ r.findings, KeysFit f.more := by
  simp only [KeysFit, others, List.forall_mem_append, List.mem_flatMap]
  exact and_congr_right fun _ => ⟨fun h f hf e he => h e ⟨f, hf, he⟩,
    fun h e ⟨f, hf, he⟩ => h f hf e he⟩

theorem kept_kept (r : Envelope) : r.kept.kept = r.kept := by
  simp [kept, Finding.kept_kept]

theorem others_kept (r : Envelope) : r.kept.others = r.others.filter fun e => !e.2.isNull := by
  simp [others, kept, List.filter_flatMap, List.flatMap_map, Finding.kept]

end Envelope

theorem exists_of_mem_forall₂ {α β : Type} {R : α → β → Prop} {xs : List α} {ys : List β}
    (h : List.Forall₂ R xs ys) {y : β} (hy : y ∈ ys) : ∃ x ∈ xs, R x y := by
  induction h with
  | nil => cases hy
  | @cons x z xs zs hx _ ih =>
    obtain rfl | hy := List.mem_cons.mp hy
    · exact ⟨x, List.mem_cons_self .., hx⟩
    · obtain ⟨w, hw, hr⟩ := ih hy
      exact ⟨w, List.mem_cons_of_mem _ hw, hr⟩

theorem findingsOf_eq_ok {xs : List Value} (h : ∀ x ∈ xs, x.IsJsonTree) {out : List Entries} :
    findingsOf (.list xs) = .ok out ↔ ∃ fs : List Finding,
      List.Forall₂ (fun x f => ∃ es, x = .map es ∧ Finding.In f es) xs fs ∧
        (∀ f ∈ fs, KeysFit f.more) ∧ out = fs.map Finding.toEntries := by
  rw [findingsOf, Checked.all_eq_ok]
  induction xs generalizing out with
  | nil => simp
  | cons x xs ih =>
    obtain ⟨hx, hxs⟩ := List.forall_mem_cons.mp h
    rw [List.forall₂_cons_left_iff]
    constructor
    · rintro ⟨y, ys, hy, hys, rfl⟩
      obtain ⟨fs, hfs, hkeys, rfl⟩ := (ih hxs).mp hys
      cases x with
      | map es =>
        obtain ⟨f, hf, hfit, rfl⟩ := (findingOf_eq_ok hx).mp hy
        exact ⟨f :: fs, List.forall₂_cons.mpr ⟨⟨es, rfl, hf⟩, hfs⟩,
          List.forall_mem_cons.mpr ⟨hfit, hkeys⟩, rfl⟩
      | _ => cases hy
    · rintro ⟨fs, hfs, hkeys, rfl⟩
      obtain ⟨f, gs, ⟨es, rfl, hf⟩, hgs, rfl⟩ := List.forall₂_cons_left_iff.mp hfs
      obtain ⟨hfit, hfits⟩ := List.forall_mem_cons.mp hkeys
      exact ⟨f.toEntries, gs.map Finding.toEntries, (findingOf_eq_ok hx).mpr ⟨f, hf, hfit, rfl⟩,
        (ih hxs).mpr ⟨gs, hgs, hfits, rfl⟩, rfl⟩

/-- The maps that fit are those with the parts of an envelope whose other keys fit. -/
theorem envelopeOf_eq_ok {es : Entries} (h : (Value.map es).IsJsonTree) {out : List Entries}
    {more : Entries} : envelopeOf es = .ok (out, more) ↔ ∃ r : Envelope, r.In es ∧
      KeysFit r.others ∧ out = r.findings.map Finding.toEntries ∧ more = r.more := by
  rw [envelopeOf, Checked.both_eq_ok, extras_eq_ok h.keys]
  constructor
  · rintro ⟨hout, rfl, hkeys⟩
    cases hv : es.field? envelopeKey with
    | none => rw [hv] at hout; cases hout
    | some v =>
      rw [hv, Option.getD_some] at hout
      have hv' := h.field hv
      cases v with
      | list xs =>
        obtain ⟨fs, hfs, hfit, rfl⟩ := (findingsOf_eq_ok hv'.items).mp hout
        exact ⟨⟨fs, _⟩, ⟨⟨xs, hv, hfs⟩, rfl⟩, Envelope.keysFit_others.mpr ⟨hkeys, hfit⟩, rfl, rfl⟩
      | tuple | set => cases hv'
      | _ => cases hout
  · rintro ⟨r, ⟨⟨xs, hv, hfs⟩, hmore⟩, hkeys, rfl, rfl⟩
    obtain ⟨hkeys, hfit⟩ := Envelope.keysFit_others.mp hkeys
    rw [hv, Option.getD_some, ← hmore]
    exact ⟨(findingsOf_eq_ok (h.field hv).items).mpr ⟨_, hfs, hfit, rfl⟩, rfl, hkeys⟩

namespace Envelope

section
variable {r : Envelope} {es : Entries} (hr : r.In es)
include hr

theorem In.finding {f : Finding} (hf : f ∈ r.findings) :
    ∃ xs fs, es.field? envelopeKey = some (.list xs) ∧ .map fs ∈ xs ∧ f.In fs := by
  obtain ⟨xs, hv, hfs⟩ := hr.findings
  obtain ⟨x, hx, fs, rfl, hin⟩ := exists_of_mem_forall₂ hfs hf
  exact ⟨xs, fs, hv, hx, hin⟩

/-- The parts of a kept envelope are the parts of its entries. -/
theorem In.kept : r.kept.In r.kept.toEntries where
  findings := by
    refine ⟨_, by rw [toEntries, Entries.field?_cons_str, if_pos rfl], ?_⟩
    rw [List.forall₂_map_left_iff]
    refine List.forall₂_same.mpr fun f hf => ⟨_, rfl, ?_⟩
    obtain ⟨g, hg, rfl⟩ := List.mem_map.mp hf
    obtain ⟨xs, fs, -, -, hin⟩ := hr.finding hg
    exact Finding.in_toEntries hin.isApart.kept
  more := by
    have hmore : ∀ e ∈ r.kept.more, e.1 ≠ .str envelopeKey := by
      intro e he
      have he : e ∈ r.more := (List.mem_filter.mp he).1
      rw [hr.more] at he
      exact (mem_beside.mp he).2 _ (by simp)
    rw [toEntries, beside_cons_of_mem (by simp)]
    exact (beside_eq_self fun e he k hk => by
      rw [List.mem_singleton.mp hk]
      exact hmore e he).symm

section
variable (hj : Value.entriesJson es = true)
include hj

theorem In.finding_entriesJson {f : Finding} (hf : f ∈ r.findings) :
    Value.entriesJson f.toEntries = true := by
  obtain ⟨xs, fs, hv, hx, hin⟩ := hr.finding hf
  have hxs : Value.allJson xs = true := by
    simpa [Value.isJson] using Entries.isJson_of_field? hj hv
  have hfs : Value.entriesJson fs = true := by
    simpa [Value.isJson] using Value.allJson_iff.mp hxs _ hx
  exact hin.entriesJson hfs

theorem In.others_entriesJson : Value.entriesJson r.others = true := by
  rw [Value.entriesJson_iff]
  intro e he
  obtain he | he := List.mem_append.mp he
  · rw [hr.more] at he
    exact Value.entriesJson_iff.mp hj e (mem_beside.mp he).1
  · obtain ⟨f, hf, he⟩ := List.mem_flatMap.mp he
    exact Value.entriesJson_iff.mp (hr.finding_entriesJson hj hf) e (List.mem_append_right _ he)

theorem In.kept_entriesJson : Value.entriesJson r.kept.toEntries = true := by
  have hothers := Value.entriesJson_iff.mp (hr.others_entriesJson hj)
  have hmore : Value.entriesJson r.kept.more = true := Value.entriesJson_iff.mpr fun e he =>
    hothers e (List.mem_append_left _ (List.mem_filter.mp he).1)
  have hfindings : Value.allJson (r.kept.findings.map fun f => .map f.toEntries) = true := by
    rw [Value.allJson_iff]
    intro x hx
    obtain ⟨f, hf, rfl⟩ := List.mem_map.mp hx
    obtain ⟨g, hg, rfl⟩ := List.mem_map.mp hf
    have hgj := Value.entriesJson_iff.mp (hr.finding_entriesJson hj hg)
    rw [Value.isJson, Value.entriesJson_iff]
    intro e he
    refine hgj e ?_
    obtain he | he := List.mem_append.mp he
    · exact List.mem_append_left _ he
    · exact List.mem_append_right _ (List.mem_filter.mp he).1
  have hkey : Text.hasLoneHalf envelopeKey = false := by decide
  simp [toEntries, Value.entriesJson, Value.isJson, Value.str?, hkey, hmore, hfindings]

end

end

end Envelope

/-! ## Reading -/

theorem value_read_map (es : Entries) : (read (.map es)).run.value =
    match envelopeOf es with
    | .ok (findings, more) => (checkedValue findings more).map some
    | .error _ => .ok none := by
  show (checked (.map es)).run.value = _
  rw [checked]
  cases envelopeOf es with
  | error n => rfl
  | ok p =>
    obtain ⟨findings, more⟩ := p
    show (Attempt.ofExcept (checkedValue findings more) >>= fun v => pure (some v)).run.value =
      (checkedValue findings more).map some
    cases checkedValue findings more <;> rfl

/-- What stops the reading of a reply in which something is nested too deep. -/
def depthExceeded : Fault := .badValue "Circular reference detected (depth exceeded)"

theorem otherEntries_eq {r : Envelope} {es : Entries} (hr : r.In es) :
    otherEntries (r.findings.map Finding.toEntries) r.more = r.others := by
  have hmore : ∀ f ∈ r.findings, beside findingKeys f.toEntries = f.more := by
    intro f hf
    obtain ⟨xs, fs, -, -, hin⟩ := hr.finding hf
    exact Finding.beside_toEntries hin.isApart
  show r.more ++ (r.findings.map Finding.toEntries).flatMap (beside findingKeys) = _
  rw [List.flatMap_map, List.flatMap_congr hmore]
  rfl

theorem any_tooDeep (r : Envelope) :
    (r.others.any fun e => !e.2.isNull && decide (maxDepth < e.2.depth)) = true ↔ r.TooDeep := by
  have hnull : ∀ v : Value, maxDepth < v.depth → v.isNull = false := by
    rintro v hv
    cases v <;> first | rfl | (simp [Value.depth, maxDepth] at hv)
  rw [List.any_eq_true]
  refine exists_congr fun e => and_congr_right fun _ => ?_
  constructor
  · intro h
    exact of_decide_eq_true (Bool.and_eq_true_iff.mp h).2
  · intro h
    simp [hnull _ h, h]

section
variable {es : Entries} (hj : Value.entriesJson es = true)
include hj

/-- A reply without the parts of an envelope is left out. -/
theorem read_of_not_in (h : ¬∃ r : Envelope, r.In es) : (read (.map es)).run.value = .ok none := by
  rw [value_read_map]
  cases he : envelopeOf es with
  | error n => rfl
  | ok p =>
    obtain ⟨r, hr, -⟩ := (envelopeOf_eq_ok (Value.isJsonTree_of_isJson hj)).mp he
    exact absurd ⟨r, hr⟩ h

section
variable {r : Envelope} (hr : r.In es)
include hr

/-- A reply with the parts of an envelope is kept, unless something in it is nested too deep. -/
theorem read_of_in : (r.TooDeep → (read (.map es)).run.value = .error depthExceeded) ∧
    (¬r.TooDeep → (read (.map es)).run.value = .ok (some (.map r.kept.toEntries))) := by
  have hfit := keysFit_of_entriesJson (hr.others_entriesJson hj)
  have henvelope : envelopeOf es = .ok (r.findings.map Finding.toEntries, r.more) :=
    (envelopeOf_eq_ok (Value.isJsonTree_of_isJson hj)).mpr ⟨r, hr, hfit, rfl, rfl⟩
  have hothers := Value.entriesJson_iff.mp (hr.others_entriesJson hj)
  have hkeys : (r.others.any fun e => !e.2.keysEncodable) = false := by
    rw [List.any_eq_false]
    intro e he
    simp [(Value.plain_of_isJson (hothers e he).2).2]
  rw [value_read_map, henvelope]
  simp only [checkedValue, otherEntries_eq hr, hkeys]
  constructor
  · intro hdeep
    rw [if_pos ((any_tooDeep r).mpr hdeep)]
    rfl
  · intro hdeep
    have hfindings : (r.findings.map Finding.toEntries).map keptFinding =
        r.kept.findings.map fun f => .map f.toEntries := by
      rw [List.map_map, Envelope.kept, List.map_map]
      refine List.map_congr_left fun f hf => ?_
      obtain ⟨xs, fs, -, -, hin⟩ := hr.finding hf
      refine Finding.keptFinding_toEntries hin.isApart (Value.entriesJson_iff.mpr fun e he => ?_)
      exact Value.entriesJson_iff.mp (hr.finding_entriesJson hj hf) e (List.mem_append_right _ he)
    have hmore : keptExtras r.more = r.kept.more :=
      keptExtras_eq (Value.entriesJson_iff.mpr fun e he => hothers e (List.mem_append_left _ he))
    rw [if_neg fun h => hdeep ((any_tooDeep r).mp h), if_neg Bool.false_ne_true, hfindings, hmore]
    rfl

/-- What is kept is kept as it is when it comes again. -/
theorem read_kept (hdeep : ¬r.TooDeep) :
    (read (.map r.kept.toEntries)).run.value = .ok (some (.map r.kept.toEntries)) := by
  have hkept : ¬r.kept.TooDeep := by
    rintro ⟨e, he, h⟩
    rw [Envelope.others_kept] at he
    exact hdeep ⟨e, (List.mem_filter.mp he).1, h⟩
  rw [(read_of_in (hr.kept_entriesJson hj) hr.kept).2 hkept, Envelope.kept_kept]

end

end

/-! ## Which replies fit -/

/-- A map with a type, a location and details, all of them texts, the name of a severity in any case
and with space around it, and a snippet that is missing, null or a text. -/
def IsFinding (v : Value) : Prop :=
  ∃ es : Entries, v = .map es ∧
    (∀ k ∈ ["type", "location", "details"], ∃ s, es.field? k = some (.str s)) ∧
    (∃ s, es.field? "severity" = some (.str s) ∧
      Text.capitalize (Text.strip s) ∈ ["Critical", "High", "Medium", "Low", "Info"]) ∧
    (es.field? "code_snippet" = none ∨ es.field? "code_snippet" = some .null ∨
      ∃ s, es.field? "code_snippet" = some (.str s))

/-- The entries of a reply with a list of nothing but findings. -/
def Fits (es : Entries) : Prop :=
  ∃ xs, es.field? "security_risks" = some (.list xs) ∧ ∀ x ∈ xs, IsFinding x

/-- An entry beside the known keys of a reply or of one of its findings. -/
def IsAdditional (es : Entries) (e : Value × Value) : Prop :=
  (e ∈ es ∧ e.1 ≠ .str "security_risks") ∨
    ∃ xs fs, es.field? "security_risks" = some (.list xs) ∧ .map fs ∈ xs ∧
      e ∈ fs ∧ ∀ k ∈ findingKeys, e.1 ≠ .str k

/-- Beside the known keys of a reply or of one of its findings something is nested too deep. -/
def IsTooDeep (es : Entries) : Prop :=
  (∃ e ∈ es, e.1 ≠ .str "security_risks" ∧ maxDepth < e.2.depth) ∨
    ∃ xs fs, es.field? "security_risks" = some (.list xs) ∧ .map fs ∈ xs ∧
      ∃ e ∈ fs, (∀ k ∈ findingKeys, e.1 ≠ .str k) ∧ maxDepth < e.2.depth

/-- `y` has the texts of the finding `x`, its severity by name and its snippet unless it is null. -/
def Keeps (x y : Value) : Prop :=
  ∃ es fs : Entries, x = .map es ∧ y = .map fs ∧
    (∀ k ∈ ["type", "location", "details"], fs.field? k = es.field? k) ∧
    (∃ s, es.field? "severity" = some (.str s) ∧
      fs.field? "severity" = some (.str (Text.capitalize (Text.strip s)))) ∧
    fs.field? "code_snippet" = (es.field? "code_snippet").filter (!·.isNull)

theorem mem_names_iff {s : String} :
    s ∈ ["Critical", "High", "Medium", "Low", "Info"] ↔ ∃ severity : Severity, s = severity.name := by
  constructor
  · intro h
    simp only [List.mem_cons, List.not_mem_nil, or_false] at h
    obtain rfl | rfl | rfl | rfl | rfl := h
    exacts [⟨.critical, rfl⟩, ⟨.high, rfl⟩, ⟨.medium, rfl⟩, ⟨.low, rfl⟩, ⟨.info, rfl⟩]
  · rintro ⟨severity, rfl⟩
    cases severity <;> decide

theorem isFinding_iff {v : Value} : IsFinding v ↔ ∃ f : Finding, ∃ es, v = .map es ∧ f.In es := by
  constructor
  · rintro ⟨es, rfl, htexts, ⟨s, hs, hname⟩, hsnippet⟩
    obtain ⟨type, htype⟩ := htexts "type" (by simp)
    obtain ⟨location, hlocation⟩ := htexts "location" (by simp)
    obtain ⟨details, hdetails⟩ := htexts "details" (by simp)
    obtain ⟨severity, hseverity⟩ := mem_names_iff.mp hname
    obtain ⟨snippet, hsnippet⟩ : ∃ snippet : Option String,
        (es.field? "code_snippet").filter (!·.isNull) = snippet.map .str := by
      obtain h | h | ⟨s, h⟩ := hsnippet
      · exact ⟨none, by rw [h]; rfl⟩
      · exact ⟨none, by rw [h]; rfl⟩
      · exact ⟨some s, by rw [h]; rfl⟩
    exact ⟨⟨type, location, details, severity, snippet, beside findingKeys es⟩, es, rfl,
      ⟨htype, hlocation, hdetails, ⟨s, hs, hseverity⟩, hsnippet, rfl⟩⟩
  · rintro ⟨f, es, rfl, hf⟩
    obtain ⟨s, hs, hname⟩ := hf.severity
    refine ⟨es, rfl, ?_, ⟨s, hs, mem_names_iff.mpr ⟨f.severity, hname⟩⟩, ?_⟩
    · intro k hk
      simp only [List.mem_cons, List.not_mem_nil, or_false] at hk
      obtain rfl | rfl | rfl := hk
      exacts [⟨_, hf.type⟩, ⟨_, hf.location⟩, ⟨_, hf.details⟩]
    · have hsnippet := hf.snippet
      cases hv : Entries.field? es "code_snippet" with
      | none => exact Or.inl rfl
      | some v =>
        rw [hv] at hsnippet
        cases v <;> cases h : f.snippet <;> simp_all [Option.filter, Value.isNull]

theorem fits_iff {es : Entries} : Fits es ↔ ∃ r : Envelope, r.In es := by
  constructor
  · rintro ⟨xs, hxs, hfits⟩
    obtain ⟨fs, hfs⟩ : ∃ fs : List Finding,
        List.Forall₂ (fun x f => ∃ es, x = .map es ∧ Finding.In f es) xs fs := by
      clear hxs
      induction xs with
      | nil => exact ⟨[], .nil⟩
      | cons x xs ih =>
        obtain ⟨hx, hrest⟩ := List.forall_mem_cons.mp hfits
        obtain ⟨f, hf⟩ := isFinding_iff.mp hx
        obtain ⟨fs, hfs⟩ := ih hrest
        exact ⟨f :: fs, .cons hf hfs⟩
    exact ⟨⟨fs, beside [envelopeKey] es⟩, ⟨xs, hxs, hfs⟩, rfl⟩
  · rintro ⟨r, ⟨xs, hxs, hfs⟩, -⟩
    refine ⟨xs, hxs, fun x hx => ?_⟩
    obtain ⟨f, -, hf⟩ := exists_of_mem_forall₂ hfs.flip hx
    exact isFinding_iff.mpr ⟨f, hf⟩

/-- The additional entries are told by the parts. -/
theorem Envelope.In.mem_others_iff {r : Envelope} {es : Entries} (hr : r.In es) {e : Value × Value} :
    e ∈ r.others ↔ IsAdditional es e := by
  constructor
  · intro he
    obtain he | he := List.mem_append.mp he
    · rw [hr.more] at he
      obtain ⟨hmem, hne⟩ := mem_beside.mp he
      exact Or.inl ⟨hmem, hne _ (by simp [envelopeKey])⟩
    · obtain ⟨f, hf, he⟩ := List.mem_flatMap.mp he
      obtain ⟨xs, fs, hxs, hfs, hin⟩ := hr.finding hf
      rw [hin.more] at he
      obtain ⟨hmem, hne⟩ := mem_beside.mp he
      exact Or.inr ⟨xs, fs, hxs, hfs, hmem, hne⟩
  · rintro (⟨he, hne⟩ | ⟨xs, fs, hxs, hfs, he, hne⟩)
    · refine List.mem_append_left _ ?_
      rw [hr.more]
      exact mem_beside.mpr ⟨he, by simpa [envelopeKey] using hne⟩
    · obtain ⟨ys, hys, hall⟩ := hr.findings
      obtain rfl : ys = xs := by
        rw [show envelopeKey = "security_risks" from rfl, hxs] at hys
        exact (Value.list.inj (Option.some.inj hys)).symm
      obtain ⟨f, hf, gs, hgs, hin⟩ := exists_of_mem_forall₂ hall.flip hfs
      obtain rfl := Value.map.inj hgs
      refine List.mem_append_right _ (List.mem_flatMap.mpr ⟨f, hf, ?_⟩)
      rw [hin.more]
      exact mem_beside.mpr ⟨he, hne⟩

theorem isTooDeep_iff {es : Entries} :
    IsTooDeep es ↔ ∃ e, IsAdditional es e ∧ maxDepth < e.2.depth := by
  constructor
  · rintro (⟨e, he, hne, hdeep⟩ | ⟨xs, fs, hxs, hfs, e, he, hne, hdeep⟩)
    exacts [⟨e, .inl ⟨he, hne⟩, hdeep⟩, ⟨e, .inr ⟨xs, fs, hxs, hfs, he, hne⟩, hdeep⟩]
  · rintro ⟨e, ⟨he, hne⟩ | ⟨xs, fs, hxs, hfs, he, hne⟩, hdeep⟩
    exacts [.inl ⟨e, he, hne, hdeep⟩, .inr ⟨xs, fs, hxs, hfs, e, he, hne, hdeep⟩]

/-- Whether something is nested too deep is told by the parts. -/
theorem Envelope.In.tooDeep_iff {r : Envelope} {es : Entries} (hr : r.In es) :
    r.TooDeep ↔ IsTooDeep es := by
  rw [isTooDeep_iff]
  exact exists_congr fun e => and_congr_left' hr.mem_others_iff

theorem Finding.In.keeps {f : Finding} {es : Entries} (h : f.In es) :
    Keeps (.map es) (.map f.kept.toEntries) := by
  have hkept := Finding.in_toEntries h.isApart.kept
  obtain ⟨s, hs, hname⟩ := h.severity
  refine ⟨es, _, rfl, rfl, ?_, ⟨s, hs, ?_⟩, ?_⟩
  · intro k hk
    simp only [List.mem_cons, List.not_mem_nil, or_false] at hk
    obtain rfl | rfl | rfl := hk
    · rw [hkept.type, h.type]; rfl
    · rw [hkept.location, h.location]; rfl
    · rw [hkept.details, h.details]; rfl
  · rw [hname]
    simp [Finding.toEntries, Finding.known, Finding.kept, Entries.field?_cons_str]
  · rw [h.snippet, Finding.snippet_toEntries h.isApart.kept]
    rfl

theorem Envelope.In.keeps {r : Envelope} {es : Entries} (hr : r.In es) :
    ∃ xs ys, es.field? "security_risks" = some (.list xs) ∧
      r.kept.toEntries.field? "security_risks" = some (.list ys) ∧ List.Forall₂ Keeps xs ys := by
  obtain ⟨xs, hxs, hfs⟩ := hr.findings
  refine ⟨xs, r.kept.findings.map fun f => .map f.toEntries, hxs, ?_, ?_⟩
  · rw [Envelope.toEntries, envelopeKey, Entries.field?_cons_str, if_pos rfl]
  · rw [Envelope.kept, List.map_map, List.forall₂_map_right_iff]
    refine hfs.imp ?_
    rintro x f ⟨fs, rfl, hin⟩
    exact hin.keeps

/-- Lists in one another. -/
def nestedLists : Nat → Value
  | 0 => .list []
  | n + 1 => .list [nestedLists n]

theorem isJson_nestedLists (n : Nat) : (nestedLists n).isJson = true := by
  induction n with
  | zero => rfl
  | succ n ih => simp [nestedLists, Value.isJson, Value.allJson, ih]

end Reply

end SecurityScan
