import SecurityScan.Proofs.Placeholder

/-!
# Parts of a braced name

What the steps of a field come to when they start from a name in braces: that text again, one
character of it at most, or something in which no brace is shown. In quotes a brace can only be the
second character.
-/

namespace SecurityScan

namespace Prompt

@[simp] theorem braceless_nil : Braceless [] := by simp [Braceless]

@[simp] theorem braceless_cons {c : Char} {cs : List Char} :
    Braceless (c :: cs) ↔ isBrace c = false ∧ Braceless cs :=
  List.forall_mem_cons

@[simp] theorem braceless_append {cs ds : List Char} :
    Braceless (cs ++ ds) ↔ Braceless cs ∧ Braceless ds :=
  List.forall_mem_append

theorem braceless_intercalate {ss : List String} (h : ∀ s ∈ ss, Braceless s.toList) :
    Braceless (", ".intercalate ss).toList := by
  induction ss with
  | nil => exact braceless_nil
  | cons s ss ih =>
    obtain ⟨hs, hss⟩ := List.forall_mem_cons.mp h
    cases ss with
    | nil => simpa using hs
    | cons t ss =>
      rw [String.intercalate_cons_cons, String.toList_append, String.toList_append]
      exact braceless_append.mpr ⟨braceless_append.mpr ⟨hs, by decide⟩, ih hss⟩

/-! ## Kinds -/

/-- The kinds that are met on the way from a text. -/
def reachable : List String :=
  ["str", "type", "tuple", "NoneType", "object", "builtin_function_or_method", "method-wrapper",
   "method_descriptor", "wrapper_descriptor", "getset_descriptor", "member_descriptor"]

theorem braceless_reachable : ∀ k ∈ reachable, Braceless k.toList := by decide +kernel

theorem line_reachable : ∀ k ∈ reachable, ∀ l ∈ Kind.line k, l ∈ reachable := by decide +kernel

theorem braceless_names : ∀ k ∈ reachable, ∀ o ∈ Kind.common ++ Kind.own k, Braceless o.toList := by
  decide +kernel

theorem braceless_of_has {k o : String} (hk : k ∈ reachable) (h : Kind.has k o = true) :
    Braceless o.toList := by
  apply braceless_names k hk
  simpa [Kind.has] using h

theorem braceless_path {k o : String} (hk : k ∈ reachable) (ho : Braceless o.toList) :
    Braceless (k ++ "." ++ o).toList := by
  simp [braceless_reachable k hk, ho, isBrace]

theorem home_reachable {k : String} (hk : k ∈ reachable) (o : String) : Kind.home k o ∈ reachable := by
  rw [Kind.home]
  cases hfind : (Kind.line k).find? _ with
  | none => exact hk
  | some l => exact line_reachable k hk l (List.mem_of_find?_eq_some hfind)

theorem form_kind_reachable (f : Kind.Form) : f.kind ∈ reachable := by
  cases f <;> decide

theorem boundKind_reachable (k o : String) : Kind.boundKind k o ∈ reachable := by
  rw [Kind.boundKind]
  split <;> decide

theorem braceless_description {k s : String} (hk : k ∈ reachable)
    (h : Kind.description? k = some s) : Braceless s.toList := by
  unfold Kind.description? at h
  split at h
  -- most kinds that say something of themselves are not met
  all_goals first | exact absurd hk (by decide) | cases h
  all_goals
    simp only [String.toList_append, braceless_append]
    and_intros
    all_goals decide +kernel

/-! ## Parts of a text -/

/-- The text that a name without a value stands for. -/
def braced (name : List Char) : List Char := '\x7b' :: (name ++ ['\x7d'])

/-- The whole text of a name, one character at most, or a text without braces. -/
def TameText (name cs : List Char) : Prop := cs = braced name ∨ cs.length ≤ 1 ∨ Braceless cs

namespace Found

/-- What the steps from a braced name lead to. -/
def Tame (name : List Char) : Found → Prop
  | .text cs => TameText name cs
  | .kind k => k ∈ reachable
  | .kinds ks => ∀ k ∈ ks, k ∈ reachable
  | .operation on o => TameText name on ∧ Braceless o.toList
  | .operationOf k o => k ∈ reachable ∧ Braceless o.toList
  | .operationOn k o => k ∈ reachable ∧ Braceless o.toList
  | .nothing => True

variable {name : List Char}

theorem tame_text {s : String} (h : Braceless s.toList) : Tame name (.text s.toList) := Or.inr (Or.inr h)

theorem tame_ofDescription {k : String} (h : k ∈ reachable) : Tame name (ofDescription k) := by
  rw [ofDescription]
  split
  · rename_i s hs
    exact tame_text (braceless_description h hs)
  · exact trivial

theorem Tame.kindName_reachable {f : Found} (h : f.Tame name) : f.kindName ∈ reachable := by
  cases f with
  | text => exact (by decide : "str" ∈ reachable)
  | kind => exact (by decide : "type" ∈ reachable)
  | kinds => exact (by decide : "tuple" ∈ reachable)
  | operation => exact boundKind_reachable _ _
  | operationOf => exact form_kind_reachable _
  | operationOn => exact boundKind_reachable _ _
  | nothing => exact (by decide : "NoneType" ∈ reachable)

theorem tame_kindAttribute {k o : String} {f : Found} (hk : k ∈ reachable)
    (h : kindAttribute? k o = some f) : f.Tame name := by
  unfold kindAttribute? at h
  split at h
  · cases h; exact tame_text (braceless_reachable k hk)
  · cases h; exact tame_text (braceless_reachable k hk)
  · cases h; exact tame_text (by decide)
  · cases h; exact tame_ofDescription hk
  · cases h; exact line_reachable k hk
  · cases h
    intro l hl
    exact line_reachable k hk l (List.mem_of_mem_tail (List.mem_of_mem_take hl))
  · split at h
    · rename_i l ls heq
      cases h
      exact line_reachable k hk l (List.mem_of_mem_tail (heq ▸ List.mem_cons_self))
    · cases h; exact trivial
  · split at h
    · rename_i hhas
      split at h <;> cases h <;> exact ⟨hk, braceless_of_has hk hhas⟩
    · split at h
      · rename_i hhas
        cases h
        exact ⟨hk, braceless_of_has (by decide) hhas⟩
      · cases h

theorem tame_operationAttribute {on : List Char} {o asked : String} {f : Found}
    (hon : TameText name on) (ho : Braceless o.toList)
    (h : operationAttribute? on o asked = some f) : f.Tame name := by
  unfold operationAttribute? at h
  split at h
  · cases h; exact tame_text ho
  · cases h
    have howner : (if Kind.form (Kind.home "str" o) o == .slot then Kind.home "str" o else "str") ∈
        reachable := by
      split
      · exact home_reachable (by decide) o
      · decide
    exact tame_text (braceless_path howner ho)
  · cases h; exact hon
  · split at h <;> cases h
    exact trivial
  · cases h

theorem tame_operationOfAttribute {k o asked : String} {f : Found} (hk : k ∈ reachable)
    (ho : Braceless o.toList) (h : operationOfAttribute? k o asked = some f) : f.Tame name := by
  unfold operationOfAttribute? at h
  split at h
  · cases h; exact tame_text ho
  · cases h
    exact tame_text (braceless_path (home_reachable hk o) ho)
  · cases h; exact home_reachable hk o
  · cases h

theorem tame_operationOnAttribute {k o asked : String} {f : Found} (hk : k ∈ reachable)
    (ho : Braceless o.toList) (h : operationOnAttribute? k o asked = some f) : f.Tame name := by
  unfold operationOnAttribute? at h
  split at h
  · cases h; exact tame_text ho
  · cases h
    have howner : (if Kind.boundKind "type" o == "method-wrapper" then "type" else k) ∈ reachable := by
      split
      · decide
      · exact hk
    exact tame_text (braceless_path howner ho)
  · cases h; exact hk
  · split at h <;> cases h
    exact trivial
  · cases h

theorem Tame.of_attribute {f g : Found} (hf : f.Tame name) {asked : List Char}
    (h : f.attribute? asked = some g) : g.Tame name := by
  unfold attribute? at h
  dsimp only at h
  split at h
  · cases h; exact hf.kindName_reachable
  · split at h
    · exact tame_kindAttribute hf h
    · exact tame_operationAttribute hf.1 hf.2 h
    · exact tame_operationOfAttribute hf.1 hf.2 h
    · exact tame_operationOnAttribute hf.1 hf.2 h
    · split at h
      · cases h; exact tame_ofDescription (by decide)
      · split at h
        · rename_i hhas
          cases h
          exact ⟨hf, braceless_of_has (by decide) hhas⟩
        · cases h
    · split at h
      · cases h; exact tame_ofDescription hf.kindName_reachable
      · cases h

theorem Tame.of_item {f g : Found} (hf : f.Tame name) {key : List Char} (h : f.item? key = some g) :
    g.Tame name := by
  unfold item? at h
  split at h
  · obtain ⟨n, -, h⟩ := Option.bind_eq_some_iff.mp h
    obtain ⟨c, -, h⟩ := Option.bind_eq_some_iff.mp h
    cases h
    exact Or.inr (Or.inl (Nat.le_refl 1))
  · obtain ⟨n, -, h⟩ := Option.bind_eq_some_iff.mp h
    obtain ⟨k, hk, h⟩ := Option.bind_eq_some_iff.mp h
    cases h
    exact hf k (List.mem_of_getElem? hk)
  · cases h

theorem Tame.of_step {f g : Found} (hf : f.Tame name) {s : Step} (h : f.step? s = some g) :
    g.Tame name := by
  unfold step? at h
  split at h
  · exact hf.of_attribute h
  · exact hf.of_item h

theorem Tame.of_steps {f g : Found} (hf : f.Tame name) {ss : List Step}
    (h : ss.foldlM step? f = some g) : g.Tame name := by
  induction ss generalizing f with
  | nil =>
    cases h
    exact hf
  | cons s ss ih =>
    obtain ⟨f', hs, h⟩ := Option.bind_eq_some_iff.mp h
    exact ih (hf.of_step hs) h

/-! ## Texts shown -/

theorem Tame.displayed {f : Found} (hf : f.Tame name) : TameText name f.display := by
  have hkind : ∀ k ∈ reachable, Braceless (kindDisplay k).toList := by
    intro k hk
    simp [kindDisplay, braceless_reachable k hk, isBrace]
  cases f with
  | text cs => exact hf
  | kind k => exact Or.inr (Or.inr (hkind k hf))
  | kinds ks =>
    refine Or.inr (Or.inr ?_)
    have hmany : Braceless ("(" ++ ", ".intercalate (ks.map kindDisplay) ++ ")").toList := by
      have hks : ∀ s ∈ ks.map kindDisplay, Braceless s.toList := by
        rintro s hs
        obtain ⟨k, hk, rfl⟩ := List.mem_map.mp hs
        exact hkind k (hf k hk)
      simp only [String.toList_append, braceless_append]
      exact ⟨⟨by decide, braceless_intercalate hks⟩, by decide⟩
    obtain _ | ⟨k, _ | ⟨l, ls⟩⟩ := ks
    · exact hmany
    · simp [display, hkind k (hf k List.mem_cons_self), isBrace]
    · exact hmany
  | operation on o =>
    refine Or.inr (Or.inr ?_)
    simp [display, hf.2, isBrace]
  | operationOf k o =>
    refine Or.inr (Or.inr ?_)
    have hform : ∀ g : Kind.Form, Braceless g.description.toList := by
      intro g
      cases g <;> decide
    simp only [display, Kind.operationText]
    split
    · simp [hf.2, isBrace]
    · simp [hf.2, hform, braceless_reachable _ (home_reachable hf.1 o), isBrace]
  | operationOn k o =>
    refine Or.inr (Or.inr ?_)
    simp [display, hf.2, isBrace]
  | nothing => exact Or.inr (Or.inr (by decide))

end Found

/-! ## Quoted forms -/

theorem braceless_hexDigits (width n : Nat) : Braceless (Text.hexDigits width n) := by
  have hdigit : ∀ d < 16, isBrace (Text.hexDigit d) = false := by decide
  induction width generalizing n with
  | zero => exact braceless_nil
  | succ width ih =>
    rw [Text.hexDigits, braceless_append]
    exact ⟨ih (n / 16), by simpa using hdigit (n % 16) (Nat.mod_lt n (by decide))⟩

theorem braceless_escapeCode (c : Char) : Braceless (Text.Quoted.escapeCode c) := by
  unfold Text.Quoted.escapeCode
  dsimp only
  split
  · simp [braceless_hexDigits, isBrace]
  · split <;> simp [braceless_hexDigits, isBrace]

theorem braceless_escapeChar (quote : Char) {c : Char} (hc : isBrace c = false) :
    Braceless (Text.Quoted.escapeChar quote c) := by
  unfold Text.Quoted.escapeChar
  split
  · simpa [isBrace] using hc
  · repeat' split
    all_goals simp_all [braceless_escapeCode, isBrace]

theorem isBrace_quoteFor (cs : List Char) : isBrace (Text.Quoted.quoteFor cs) = false := by
  unfold Text.Quoted.quoteFor
  split <;> decide

theorem braceless_quoted (ascii : Bool) {cs : List Char} (h : Braceless cs) :
    Braceless (Found.quoted ascii (.text cs)) := by
  have hall : ∀ f : Char → List Char, (∀ c, isBrace c = false → Braceless (f c)) →
      ∀ ds, Braceless ds → Braceless (ds.flatMap f) := by
    intro f hf ds hds c hc
    obtain ⟨d, hd, hcd⟩ := List.mem_flatMap.mp hc
    exact hf d (hds d hd) c hcd
  have hq : Braceless (Text.Quoted.encode cs) := by
    simp [Text.Quoted.encode, isBrace_quoteFor, hall _ (fun _ => braceless_escapeChar _) cs h]
  unfold Found.quoted
  dsimp only
  split
  · refine hall _ (fun c hc => ?_) _ hq
    split
    · simpa using hc
    · exact braceless_escapeCode c
  · exact hq

/-- A brace stays a brace in quotes, so that it is the second character of the quoted form. -/
theorem quoted_brace (ascii : Bool) {b : Char} (hb : isBrace b = true) (cs : List Char) :
    ∃ quote rest, isBrace quote = false ∧ Found.quoted ascii (.text (b :: cs)) = quote :: b :: rest := by
  have hchar : ∀ quote, quote = '"' ∨ quote = '\'' →
      Text.Quoted.escapeChar quote b = [b] ∧ quote.toNat < 128 := by
    obtain rfl | rfl : b = '\x7b' ∨ b = '\x7d' := by simpa [isBrace] using hb
    · rintro _ (rfl | rfl) <;> decide
    · rintro _ (rfl | rfl) <;> decide
  have hquote : ∀ ds, Text.Quoted.quoteFor ds = '"' ∨ Text.Quoted.quoteFor ds = '\'' := by
    intro ds
    unfold Text.Quoted.quoteFor
    split <;> simp
  obtain ⟨hescape, hsmall⟩ := hchar _ (hquote (b :: cs))
  have hbsmall : b.toNat < 128 := by
    obtain rfl | rfl : b = '\x7b' ∨ b = '\x7d' := by simpa [isBrace] using hb
    all_goals decide
  unfold Found.quoted
  cases ascii <;> simp [Text.Quoted.encode, hescape, hsmall, hbsmall, isBrace_quoteFor]

end Prompt

end SecurityScan
