import SecurityScan.Proofs.Attempt
import SecurityScan.Template.Statement

/-!
# What keeps a text from being read as a template

A text that breaks the rules of templates is malformed. There are three more causes for which it
cannot be read, and they are no matter of the rules: a whole number with too many digits, digits of
another script in a number with a fraction, and parts that nest too deep.
-/

namespace SecurityScan.Template

/-! ## Tokens -/

/-- What may stand where no token can be read. -/
inductive TokenDefect : Defect → Prop
  | malformed : TokenDefect .malformed
  | foreignDigits : TokenDefect (.fault (.template .meaningless))
  | tooManyDigits {n : Nat} (h : Number.maxDigits < n) : TokenDefect (.fault (Fault.tooManyDigits n))

/-- What stops the reading of a template. -/
inductive ReadDefect : Defect → Prop
  | token {d : Defect} (h : TokenDefect d) : ReadDefect d
  | tooDeep : ReadDefect (.fault .tooDeep)

/-- Where there is no token there is one of the causes. -/
def Sound (ts : List Token) : Prop := ∀ d, .invalid d ∈ ts → TokenDefect d

theorem sound_nil : Sound [] := by
  rintro d ⟨⟩

theorem sound_cons {t : Token} {ts : List Token} :
    Sound (t :: ts) ↔ (∀ d, t = .invalid d → TokenDefect d) ∧ Sound ts := by
  simp only [Sound, List.mem_cons, or_imp, forall_and, eq_comm]

theorem sound_append {ts us : List Token} : Sound (ts ++ us) ↔ Sound ts ∧ Sound us := by
  simp only [Sound, List.mem_append, or_imp, forall_and]

theorem sound_malformed : Sound [.invalid .malformed] :=
  sound_cons.mpr ⟨fun _ h => Token.invalid.inj h ▸ .malformed, sound_nil⟩

namespace Token

theorem sound_dataBefore (mark : Option Char) (cs : List Char) : Sound (dataBefore mark cs) := by
  rw [dataBefore]
  generalize (if mark == some '-' then Text.trimRightBy Text.isBlank cs else cs) = text
  split
  · exact sound_nil
  · exact sound_cons.mpr ⟨nofun, sound_nil⟩

theorem sound_rawText? {before cs : List Char} {raw : List Token} {rest : List Char}
    (h : rawText? before cs = some (raw, rest)) : Sound raw := by
  induction cs generalizing before with
  | nil => cases h
  | cons c cs ih =>
    rw [rawText?] at h
    split at h
    · obtain ⟨rfl, -⟩ := Prod.mk.inj (Option.some.inj h)
      exact sound_dataBefore _ _
    · exact ih h

theorem defect_of_float? {cs rest : List Char} {d : Defect}
    (h : float? cs = some (.invalid d, rest)) : TokenDefect d := by
  rw [float?] at h
  obtain ⟨⟨whole, r⟩, -, h⟩ := Option.bind_eq_some_iff.mp h
  dsimp only at h
  split at h
  all_goals
    split at h
    · cases h
    · split at h
      · obtain ⟨h, -⟩ := Prod.mk.inj (Option.some.inj h)
        exact Token.invalid.inj h ▸ .foreignDigits
      · cases h

theorem defect_of_plainInt? {cs rest : List Char} {d : Defect}
    (h : plainInt? cs = some (.invalid d, rest)) : TokenDefect d := by
  rw [plainInt?] at h
  obtain ⟨first, -, h⟩ := Option.bind_eq_some_iff.mp h
  split at h
  · cases h
  · generalize digits (if first == '0' then (· == '0') else isDecimal) cs = found at h
    dsimp only at h
    split at h
    · rename_i hlong
      obtain ⟨h, -⟩ := Prod.mk.inj (Option.some.inj h)
      exact Token.invalid.inj h ▸ .tooManyDigits hlong
    · cases h

theorem basedInt?_ne_invalid {base : Nat} {isDigitOf : Char → Bool} {cs rest : List Char}
    {d : Defect} : basedInt? base isDigitOf cs ≠ some (.invalid d, rest) := by
  intro h
  rw [basedInt?] at h
  split at h
  · cases h
  · cases h

theorem defect_of_int? {cs rest : List Char} {d : Defect}
    (h : int? cs = some (.invalid d, rest)) : TokenDefect d := by
  unfold int? at h
  split at h
  · obtain h | ⟨-, h⟩ := Option.or_eq_some_iff.mp h
    · split at h
      · exact absurd h basedInt?_ne_invalid
      · exact absurd h basedInt?_ne_invalid
      · exact absurd h basedInt?_ne_invalid
      · cases h
    · exact defect_of_plainInt? h
  · exact defect_of_plainInt? h

theorem defect_of_name? {cs rest : List Char} {d : Defect}
    (h : name? cs = some (.invalid d, rest)) : TokenDefect d := by
  unfold name? at h
  dsimp only at h
  split at h
  · cases h
  · split at h
    · cases h
    · obtain ⟨h, -⟩ := Prod.mk.inj (Option.some.inj h)
      exact Token.invalid.inj h ▸ .malformed

theorem defect_of_text? {cs rest : List Char} {d : Defect}
    (h : text? cs = some (.invalid d, rest)) : TokenDefect d := by
  unfold text? at h
  split at h
  · split at h
    · cases h
    · obtain ⟨⟨s, r⟩, -, h⟩ := Option.bind_eq_some_iff.mp h
      dsimp only at h
      split at h
      · cases h
      · obtain ⟨h, -⟩ := Prod.mk.inj (Option.some.inj h)
        exact Token.invalid.inj h ▸ .malformed
  · cases h

theorem symbol?_ne_invalid {cs rest : List Char} {d : Defect} :
    symbol? cs ≠ some (.invalid d, rest) := by
  intro h
  obtain ⟨s, -, h⟩ := List.exists_of_findSome?_eq_some h
  obtain ⟨r, -, h⟩ := Option.map_eq_some_iff.mp h
  cases h

theorem defect_of_next? {afterDot : Bool} {cs rest : List Char} {d : Defect}
    (h : next? afterDot cs = some (.invalid d, rest)) : TokenDefect d := by
  unfold next? at h
  obtain h | ⟨-, h⟩ := Option.or_eq_some_iff.mp h
  · obtain h | ⟨-, h⟩ := Option.or_eq_some_iff.mp h
    · split at h
      · cases h
      · exact defect_of_float? h
    · exact defect_of_int? h
  · obtain h | ⟨-, h⟩ := Option.or_eq_some_iff.mp h
    · exact defect_of_name? h
    · obtain h | ⟨-, h⟩ := Option.or_eq_some_iff.mp h
      · exact defect_of_text? h
      · exact absurd h symbol?_ne_invalid

/-- Text and tags end with one of the causes at most. -/
theorem sound_of (fuel : Nat) : (∀ before cs, Sound (ofText fuel before cs)) ∧
    ∀ tag opened afterDot cs, Sound (ofTag fuel tag opened afterDot cs) := by
  induction fuel with
  | zero =>
    refine ⟨fun before cs => ?_, fun tag opened afterDot cs => ?_⟩
    · rw [ofText]
      exact sound_malformed
    · rw [ofTag]
      exact sound_malformed
  | succ fuel ih =>
    obtain ⟨ihText, ihTag⟩ := ih
    have hopening : ∀ tag ts, Sound ts → Sound (.opening tag :: ts) := fun tag ts h =>
      sound_cons.mpr ⟨nofun, h⟩
    refine ⟨fun before cs => ?_, fun tag opened afterDot cs => ?_⟩
    · unfold ofText
      split
      · exact sound_malformed
      · exact sound_dataBefore _ _
      · rename_i hfuel
        obtain rfl := Nat.succ.inj hfuel
        exact sound_append.mpr ⟨sound_dataBefore _ _, hopening _ _ (ihTag _ _ _ _)⟩
      · rename_i r hfuel
        obtain rfl := Nat.succ.inj hfuel
        dsimp only
        split
        · exact sound_dataBefore _ _
        · split
          · rename_i hraw
            exact sound_append.mpr
              ⟨sound_append.mpr ⟨sound_dataBefore _ _, sound_rawText? hraw⟩, ihText _ _⟩
          · exact sound_append.mpr ⟨sound_dataBefore _ _, sound_malformed⟩
        · exact sound_append.mpr ⟨sound_dataBefore _ _, hopening _ _ (ihTag _ _ _ _)⟩
      · rename_i hfuel
        obtain rfl := Nat.succ.inj hfuel
        dsimp only
        split
        · exact sound_dataBefore _ _
        · split
          · exact sound_append.mpr ⟨sound_dataBefore _ _, ihText _ _⟩
          · exact sound_append.mpr ⟨sound_dataBefore _ _, sound_malformed⟩
      · rename_i hfuel
        obtain rfl := Nat.succ.inj hfuel
        exact ihText _ _
    · unfold ofTag
      split
      · exact sound_cons.mpr ⟨nofun, ihText _ _⟩
      · split
        · exact sound_nil
        · split
          · exact ihTag _ _ _ _
          · split
            · exact sound_malformed
            · rename_i hnext
              exact sound_cons.mpr
                ⟨fun _ h => Token.invalid.inj h ▸ defect_of_next? hnext, sound_nil⟩
            · split
              · exact sound_cons.mpr ⟨nofun, ihTag _ _ _ _⟩
              · exact sound_malformed
            · rename_i token rest hinvalid _ hnext
              refine sound_cons.mpr ⟨?_, ihTag _ _ _ _⟩
              rintro d rfl
              exact absurd rfl (hinvalid d)

/-- The tokens of a text end with one of the causes at most. -/
theorem sound_read (s : String) : Sound (read s) := (sound_of _).1 _ _

end Token

/-! ## Reading -/

namespace Reader

/-- A step of reading that stops for one of the causes at most. -/
abbrev Reads {α : Type} (x : Reader α) : Prop := Keeps Sound ReadDefect x

section
variable {α : Type}

theorem reads_malformed : Reads (malformed : Reader α) :=
  keeps_throw (.token .malformed)

theorem reads_tooDeep : Reads (tooDeep : Reader α) := keeps_throw .tooDeep

theorem reads_peek : Reads peek := by
  intro ts h
  refine (ends_get (P := fun a us => a = ts ∧ us = ts) ⟨rfl, rfl⟩).bind ?_
  rintro _ _ ⟨rfl, rfl⟩
  split
  · exact ends_throw (.token (h _ (List.mem_cons_self ..)))
  · exact ends_pure h
  · exact ends_pure h

theorem reads_lookBeyond : Reads lookBeyond := by
  intro ts h
  refine (ends_get (P := fun a us => a = ts ∧ us = ts) ⟨rfl, rfl⟩).bind ?_
  rintro _ _ ⟨rfl, rfl⟩
  split
  · exact ends_throw (.token (h _ (by simp)))
  · exact ends_pure h
  · exact ends_pure h

theorem reads_skip : Reads skip :=
  fun _ h => ends_modify fun d hd => h d (List.mem_of_mem_tail hd)

theorem reads_take (t : Token) : Reads (take t) := by
  refine reads_peek.bind fun found => keeps_ite ?_ (keeps_pure _)
  exact reads_skip.bind fun _ => keeps_pure _

theorem reads_expect (t : Token) : Reads (expect t) :=
  (reads_take t).bind fun _ => keeps_ite (keeps_pure _) reads_malformed

theorem reads_name : Reads name := by
  refine reads_peek.bind fun found => ?_
  split
  · exact reads_skip.bind fun _ => keeps_pure _
  · exact reads_malformed

theorem reads_takeOf (table : List (String × α)) : Reads (takeOf table) := by
  refine reads_peek.bind fun found => ?_
  split
  · split
    · exact reads_skip.bind fun _ => keeps_pure _
    · exact keeps_pure _
  · exact keeps_pure _

theorem reads_goOn {step : α → Reader (Option α)} (h : ∀ a, Reads (step a)) (fuel : Nat) (a : α) :
    Reads (goOn step fuel a) := by
  induction fuel generalizing a with
  | zero => exact keeps_pure a
  | succ fuel ih =>
    refine (h a).bind fun found => ?_
    split
    · exact ih _
    · exact keeps_pure _

theorem reads_repeated {a : α} {step : α → Reader (Option α)} (h : ∀ a, Reads (step a)) :
    Reads (repeated a step) := by
  intro ts hts
  refine (ends_get (P := fun _ us => Sound us) hts).bind fun us vs hvs => ?_
  exact reads_goOn h _ a vs hvs

theorem reads_listed {read : Reader α} (stop : Token) (h : Reads read) : Reads (listed stop read) := by
  refine (reads_repeated fun found => ?_).bind fun found => (reads_expect stop).bind fun _ =>
    keeps_pure _
  refine reads_peek.bind fun _ => keeps_ite (keeps_pure _) ?_
  have hnext : Reads (do
      if (← peek) == some stop then return none
      else return some ((← read) :: found)) :=
    reads_peek.bind fun _ => keeps_ite (keeps_pure _) (h.bind fun _ => keeps_pure _)
  exact keeps_ite ((reads_expect _).bind fun _ => hnext) hnext

end

theorem reads_adjacentTexts : Reads adjacentTexts := by
  refine reads_repeated fun s => reads_peek.bind fun found => ?_
  split
  · exact reads_skip.bind fun _ => keeps_pure _
  · exact keeps_pure _

theorem reads_dottedName : Reads dottedName := by
  refine reads_name.bind fun _ => reads_repeated fun s => (reads_take _).bind fun _ => ?_
  exact keeps_ite (reads_name.bind fun _ => keeps_pure _) (keeps_pure _)

theorem reads_comparisonSign : Reads comparisonSign := by
  refine (reads_takeOf _).bind fun found => ?_
  split
  · exact keeps_pure _
  · refine (reads_take _).bind fun _ => keeps_ite (keeps_pure _) ?_
    refine reads_peek.bind fun _ => keeps_ite ?_ (keeps_pure _)
    refine reads_lookBeyond.bind fun _ => keeps_ite ?_ (keeps_pure _)
    exact reads_skip.bind fun _ => reads_skip.bind fun _ => keeps_pure _

theorem reads_atTupleEnd (ends : List String) : Reads (atTupleEnd ends) := by
  refine reads_peek.bind fun found => ?_
  split <;> exact keeps_pure _

theorem reads_atTestArgument : Reads atTestArgument := by
  refine reads_peek.bind fun found => ?_
  split <;> exact keeps_pure _

theorem reads_atBoundEnd : Reads atBoundEnd := by
  refine reads_peek.bind fun found => ?_
  split <;> exact keeps_pure _

/-! ### Expressions -/

/-- All readers of expressions at a depth stop for one of the causes at most. -/
structure ReadsAt (depth : Nat) : Prop where
  expression : ∀ cond, Reads (Reader.expression depth cond)
  choice : Reads (Reader.choice depth)
  disjunction : Reads (Reader.disjunction depth)
  conjunction : Reads (Reader.conjunction depth)
  negation : Reads (Reader.negation depth)
  comparison : Reads (Reader.comparison depth)
  sum : Reads (Reader.sum depth)
  concatenation : Reads (Reader.concatenation depth)
  product : Reads (Reader.product depth)
  power : Reads (Reader.power depth)
  unary : ∀ filters, Reads (Reader.unary depth filters)
  primary : Reads (Reader.primary depth)
  tuple : ∀ cond brackets ends, Reads (Reader.tuple depth cond brackets ends)
  member : ∀ cond, Reads (Reader.member depth cond)
  list : Reads (Reader.list depth)
  map : Reads (Reader.map depth)
  postfixes : ∀ e, Reads (Reader.postfixes depth e)
  followed : ∀ e, Reads (Reader.followed depth e)
  subscript : ∀ e, Reads (Reader.subscript depth e)
  subscribed : Reads (Reader.subscribed depth)
  call : ∀ e, Reads (Reader.call depth e)
  arguments : Reads (Reader.arguments depth)
  filters : ∀ e inline, Reads (Reader.filters depth e inline)
  test : ∀ e, Reads (Reader.test depth e)

theorem readsAt_zero : ReadsAt 0 := by
  constructor
  all_goals
    intros
    first
      | rw [Reader.expression] | rw [Reader.choice] | rw [Reader.disjunction]
      | rw [Reader.conjunction] | rw [Reader.negation] | rw [Reader.comparison] | rw [Reader.sum]
      | rw [Reader.concatenation] | rw [Reader.product] | rw [Reader.power] | rw [Reader.unary]
      | rw [Reader.primary] | rw [Reader.tuple] | rw [Reader.member] | rw [Reader.list]
      | rw [Reader.map] | rw [Reader.postfixes] | rw [Reader.followed] | rw [Reader.subscript]
      | rw [Reader.subscribed] | rw [Reader.call] | rw [Reader.arguments] | rw [Reader.filters]
      | rw [Reader.test]
    exact reads_tooDeep

theorem readsAt_succ {depth : Nat} (ih : ReadsAt depth) : ReadsAt (depth + 1) where
  expression cond := by
    rw [Reader.expression]
    exact keeps_ite ih.choice ih.disjunction
  choice := by
    rw [Reader.choice]
    refine ih.disjunction.bind fun _ => reads_repeated fun yes => (reads_take _).bind fun _ =>
      keeps_ite (ih.disjunction.bind fun _ => (reads_take _).bind fun _ => ?_) (keeps_pure _)
    exact keeps_ite (ih.choice.map _ |>.bind fun _ => keeps_pure _) (keeps_pure _)
  disjunction := by
    rw [Reader.disjunction]
    exact ih.conjunction.bind fun _ => reads_repeated fun e => (reads_take _).bind fun _ =>
      keeps_ite (ih.conjunction.bind fun _ => keeps_pure _) (keeps_pure _)
  conjunction := by
    rw [Reader.conjunction]
    exact ih.negation.bind fun _ => reads_repeated fun e => (reads_take _).bind fun _ =>
      keeps_ite (ih.negation.bind fun _ => keeps_pure _) (keeps_pure _)
  negation := by
    rw [Reader.negation]
    exact (reads_take _).bind fun _ => keeps_ite (ih.negation.bind fun _ => keeps_pure _)
      ih.comparison
  comparison := by
    rw [Reader.comparison]
    refine ih.sum.bind fun _ => (reads_repeated fun found => ?_).bind fun _ => keeps_pure _
    refine reads_comparisonSign.bind fun sign => ?_
    split
    · exact ih.sum.bind fun _ => keeps_pure _
    · exact keeps_pure _
  sum := by
    rw [Reader.sum]
    refine ih.concatenation.bind fun _ => reads_repeated fun e => (reads_takeOf _).bind fun op => ?_
    split
    · exact ih.concatenation.bind fun _ => keeps_pure _
    · exact keeps_pure _
  concatenation := by
    rw [Reader.concatenation]
    exact ih.product.bind fun _ => (reads_repeated fun found => (reads_take _).bind fun _ =>
      keeps_ite (ih.product.bind fun _ => keeps_pure _) (keeps_pure _)).bind fun _ => keeps_pure _
  product := by
    rw [Reader.product]
    refine ih.power.bind fun _ => reads_repeated fun e => (reads_takeOf _).bind fun op => ?_
    split
    · exact ih.power.bind fun _ => keeps_pure _
    · exact keeps_pure _
  power := by
    rw [Reader.power]
    exact (ih.unary _).bind fun _ => reads_repeated fun e => (reads_take _).bind fun _ =>
      keeps_ite ((ih.unary _).bind fun _ => keeps_pure _) (keeps_pure _)
  unary filters := by
    rw [Reader.unary]
    have hrest : ∀ e, Reads (do
        let e ← Reader.postfixes depth e
        if filters then Reader.followed depth e else return e) := fun e =>
      (ih.postfixes e).bind fun _ => keeps_ite (ih.followed _) (keeps_pure _)
    refine (reads_takeOf _).bind fun op => ?_
    dsimp only
    split
    · exact ((ih.unary _).map _).bind hrest
    · exact ih.primary.bind hrest
  primary := by
    rw [Reader.primary]
    refine reads_peek.bind fun found => ?_
    split
    · exact reads_skip.bind fun _ => keeps_pure _
    · exact reads_adjacentTexts.bind fun _ => keeps_pure _
    · exact reads_skip.bind fun _ => keeps_pure _
    · exact reads_skip.bind fun _ => keeps_pure _
    · exact reads_skip.bind fun _ => (ih.tuple _ _ _).bind fun _ => (reads_expect _).bind fun _ =>
        keeps_pure _
    · exact ih.list
    · exact ih.map
    · exact reads_malformed
  tuple cond brackets ends := by
    rw [Reader.tuple]
    refine Keeps.bind (reads_repeated fun (found, isTuple, goesOn) => ?_)
      fun (found, isTuple, _) => ?_
    · refine keeps_ite (keeps_pure _) (keeps_when (reads_expect _) fun _ => ?_)
      refine (reads_atTupleEnd ends).bind fun _ => keeps_ite (keeps_pure _) ?_
      exact (ih.member cond).bind fun _ => reads_peek.bind fun _ =>
        keeps_ite (keeps_pure _) (keeps_pure _)
    · dsimp only
      split
      · exact keeps_pure _
      · exact keeps_ite (keeps_pure _) reads_malformed
  member cond := by
    rw [Reader.member]
    exact ih.expression cond
  list := by
    rw [Reader.list]
    exact (reads_expect _).bind fun _ => (reads_listed _ (ih.expression _)).bind fun _ =>
      keeps_pure _
  map := by
    rw [Reader.map]
    refine (reads_expect _).bind fun _ => (reads_listed _ ?_).bind fun _ => keeps_pure _
    exact (ih.expression _).bind fun _ => (reads_expect _).bind fun _ =>
      (ih.expression _).bind fun _ => keeps_pure _
  postfixes e := by
    rw [Reader.postfixes]
    refine reads_repeated fun e => reads_peek.bind fun found => ?_
    split
    · exact (ih.subscript e).bind fun _ => keeps_pure _
    · exact (ih.subscript e).bind fun _ => keeps_pure _
    · exact (ih.call e).bind fun _ => keeps_pure _
    · exact keeps_pure _
  followed e := by
    rw [Reader.followed]
    refine reads_repeated fun e => reads_peek.bind fun found => ?_
    split
    · exact (ih.filters e _).bind fun _ => keeps_pure _
    · exact (ih.test e).bind fun _ => keeps_pure _
    · exact (ih.call e).bind fun _ => keeps_pure _
    · exact keeps_pure _
  subscript e := by
    rw [Reader.subscript]
    refine (reads_take _).bind fun _ => keeps_ite (reads_peek.bind fun found => ?_) ?_
    · split
      · exact reads_skip.bind fun _ => keeps_pure _
      · exact reads_skip.bind fun _ => keeps_pure _
      · exact reads_malformed
    · refine (reads_expect _).bind fun _ => (reads_repeated fun found => ?_).bind fun _ =>
        (reads_expect _).bind fun _ => keeps_pure _
      exact reads_peek.bind fun _ => keeps_ite (keeps_pure _)
        (keeps_when (reads_expect _) fun _ => ih.subscribed.bind fun _ => keeps_pure _)
  subscribed := by
    rw [Reader.subscribed]
    have hbound : Reads (do
        if ← atBoundEnd then return none else some <$> Reader.expression depth true) :=
      reads_atBoundEnd.bind fun _ => keeps_ite (keeps_pure _) ((ih.expression true).map some)
    refine reads_peek.bind fun _ =>
      keeps_ite_bind (keeps_pure _) ((ih.expression true).map some) fun start => ?_
    refine (reads_take _).bind fun _ => keeps_ite (reads_peek.bind fun _ => ?_) ?_
    · refine keeps_ite_bind (keeps_pure _) hbound fun stop => (reads_take _).bind fun _ => ?_
      exact keeps_ite_bind hbound (keeps_pure _) fun step => keeps_pure _
    · split
      · exact keeps_pure _
      · exact reads_malformed
  call e := by
    rw [Reader.call]
    exact ih.arguments.bind fun _ => keeps_pure _
  arguments := by
    rw [Reader.arguments]
    refine (reads_expect _).bind fun _ => (reads_repeated fun (a, first) => ?_).bind fun (a, _) =>
      (reads_expect _).bind fun _ => keeps_pure _
    have hlast : ∀ f : Expr String → Option (Arguments (Expr String) × Bool),
        Reads (do return f (← Reader.expression depth true)) := fun f =>
      (ih.expression true).bind fun _ => keeps_pure _
    refine reads_peek.bind fun _ => keeps_ite (keeps_pure _) ?_
    refine keeps_when (reads_expect _) fun _ => ?_
    refine reads_peek.bind fun _ => keeps_ite (keeps_pure _) ?_
    refine reads_peek.bind fun _ => keeps_ite
      (keeps_when reads_malformed fun _ => reads_skip.bind fun _ => hlast _) ?_
    refine reads_peek.bind fun _ => keeps_ite
      (keeps_when reads_malformed fun _ => reads_skip.bind fun _ => hlast _) ?_
    refine reads_peek.bind fun _ => reads_lookBeyond.bind fun _ => ?_
    split
    · exact keeps_when reads_malformed fun _ => reads_skip.bind fun _ => reads_skip.bind fun _ =>
        hlast _
    · exact keeps_when reads_malformed fun _ => hlast _
  filters e inline := by
    rw [Reader.filters]
    refine (reads_repeated fun (e, inline) => ?_).bind fun (e, _) => keeps_pure _
    refine keeps_ite_bind (keeps_pure _) (reads_take _) fun goesOn => keeps_ite ?_ (keeps_pure _)
    exact reads_dottedName.bind fun s => reads_peek.bind fun _ =>
      keeps_ite_bind ih.arguments (keeps_pure _) fun _ => keeps_pure _
  test e := by
    rw [Reader.test]
    refine (reads_expect _).bind fun _ => (reads_take _).bind fun negated =>
      reads_dottedName.bind fun s => reads_peek.bind fun _ => reads_atTestArgument.bind fun _ => ?_
    refine keeps_ite (ih.arguments.bind fun _ => keeps_pure _) (keeps_ite ?_ ?_)
    · refine reads_peek.bind fun _ => keeps_ite (reads_malformed.bind fun _ => keeps_pure _) ?_
      exact ih.primary.bind fun _ => (ih.postfixes _).bind fun _ => keeps_pure _
    · exact keeps_pure _

theorem readsAt (depth : Nat) : ReadsAt depth := by
  induction depth with
  | zero => exact readsAt_zero
  | succ depth ih => exact readsAt_succ ih

/-! ### Parts of statements -/

section
variable (depth : Nat)

theorem reads_plainName : Reads plainName :=
  reads_name.bind fun _ => keeps_ite reads_malformed (keeps_pure _)

theorem reads_oneTarget (members : Bool) : Reads (oneTarget depth members) := by
  refine reads_peek.bind fun _ => reads_lookBeyond.bind fun _ => ?_
  split
  · refine keeps_ite ?_ reads_malformed
    exact reads_skip.bind fun _ => reads_skip.bind fun _ => reads_name.bind fun _ => keeps_pure _
  · refine (readsAt depth).primary.bind fun e => ?_
    split
    · exact keeps_pure _
    · exact reads_malformed

theorem reads_target (members : Bool) (ends : List String) :
    Reads (target depth members ends) := by
  refine Keeps.bind (reads_repeated fun (found, isTuple, goesOn) => ?_)
    fun (found, isTuple, _) => ?_
  · refine keeps_ite (keeps_pure _) (keeps_when (reads_expect _) fun _ => ?_)
    refine (reads_atTupleEnd ends).bind fun _ => keeps_ite (keeps_pure _) ?_
    exact (reads_oneTarget depth members).bind fun _ => reads_peek.bind fun _ =>
      keeps_ite (keeps_pure _) (keeps_pure _)
  · dsimp only
    split
    · exact keeps_pure _
    · exact reads_malformed
    · exact keeps_pure _

theorem reads_printed : Reads (printed depth) := by
  refine Keeps.bind (reads_repeated fun found => ?_) fun _ => keeps_pure _
  refine reads_peek.bind fun _ => keeps_ite (keeps_pure _) (keeps_when (reads_expect _) fun _ => ?_)
  exact ((readsAt depth).expression true).bind fun _ => keeps_pure _

theorem reads_bindings : Reads (bindings depth) := by
  refine Keeps.bind (reads_repeated fun found => ?_) fun _ => keeps_pure _
  refine reads_peek.bind fun _ => keeps_ite (keeps_pure _) (keeps_when (reads_expect _) fun _ => ?_)
  exact (reads_target depth false []).bind fun _ => (reads_expect _).bind fun _ =>
    ((readsAt depth).expression true).bind fun _ => keeps_pure _

theorem reads_parameters : Reads (parameters depth) := by
  refine (reads_expect _).bind fun _ => Keeps.bind (reads_repeated fun found => ?_) fun _ =>
    (reads_expect _).bind fun _ => keeps_pure _
  refine reads_peek.bind fun _ => keeps_ite (keeps_pure _) (keeps_when (reads_expect _) fun _ => ?_)
  refine reads_plainName.bind fun s => (reads_take _).bind fun _ => keeps_ite ?_ ?_
  · exact ((readsAt depth).expression true).bind fun _ => keeps_pure _
  · exact keeps_ite reads_malformed (keeps_pure _)

end

theorem reads_takeNames (a b : String) : Reads (takeNames a b) := by
  refine reads_peek.bind fun _ => keeps_ite ?_ (keeps_pure _)
  refine reads_lookBeyond.bind fun _ => keeps_ite ?_ (keeps_pure _)
  exact reads_skip.bind fun _ => reads_skip.bind fun _ => keeps_pure _

theorem reads_takeContext : Reads takeContext :=
  (reads_takeNames _ _).bind fun _ => keeps_ite (keeps_pure _) (reads_takeNames _ _)

theorem reads_imported : Reads imported := by
  refine Keeps.bind (reads_repeated fun (found, goesOn) => ?_) fun (found, _) => keeps_pure _
  refine keeps_ite (keeps_pure _) (keeps_when (reads_expect _) fun _ => ?_)
  refine reads_takeContext.bind fun _ => keeps_ite (keeps_pure _) ?_
  refine reads_plainName.bind fun s => keeps_when reads_malformed fun _ => ?_
  refine (reads_take _).bind fun _ => keeps_ite_bind reads_plainName (keeps_pure _) fun s => ?_
  exact reads_takeContext.bind fun _ => keeps_ite (keeps_pure _)
    (reads_peek.bind fun _ => keeps_pure _)

/-! ### Statements -/

/-- All readers of statements at a depth stop for one of the causes at most. -/
structure ReadsStatementsAt (depth : Nat) : Prop where
  body : ∀ ends, Reads (Reader.body depth ends)
  statements : ∀ ends, Reads (Reader.statements depth ends)
  statement : Reads (Reader.statement depth)
  begunBy : ∀ word, Reads (Reader.begunBy depth word)

theorem readsStatementsAt_zero : ReadsStatementsAt 0 where
  body _ := by
    rw [Reader.body]
    exact reads_tooDeep
  statements _ := by
    rw [Reader.statements]
    exact reads_tooDeep
  statement := by
    rw [Reader.statement]
    exact reads_tooDeep
  begunBy _ := by
    rw [Reader.begunBy]
    exact reads_tooDeep

section
variable {depth : Nat} (ih : ReadsStatementsAt depth)
include ih

theorem reads_statements_succ (ends : List String) : Reads (statements (depth + 1) ends) := by
  rw [statements]
  refine Keeps.bind (reads_repeated fun (found, pieces, goesOn) => ?_)
    fun (found, pieces, _) => keeps_pure _
  refine keeps_ite (keeps_pure _) (reads_peek.bind fun next => ?_)
  split
  · exact keeps_pure _
  · exact reads_skip.bind fun _ => keeps_pure _
  · exact reads_skip.bind fun _ => ((readsAt depth).tuple _ _ _).bind fun _ =>
      (reads_expect _).bind fun _ => keeps_pure _
  · refine reads_skip.bind fun _ => reads_peek.bind fun _ => keeps_ite (keeps_pure _) ?_
    exact ih.statement.bind fun _ => (reads_expect _).bind fun _ => keeps_pure _
  · exact reads_malformed

/-- The branches of a choice, and what is done when none of them is taken. -/
theorem reads_choose {branch : Reader ((Expr String × List Statement) × String)}
    (h : Reads branch) : Reads (do
      let (first, stop) ← branch
      let (found, stop) ← repeated ([first], stop) fun (found, stop) => do
        if stop == "elif" then
          let (next, stop) ← branch
          return some (next :: found, stop)
        else return none
      let otherwise ← if stop == "else" then Prod.fst <$> Reader.body depth ["endif"] else pure []
      return Statement.choose found.reverse otherwise) := by
  refine h.bind fun (first, stop) => Keeps.bind (reads_repeated fun (found, stop) => ?_)
    fun (found, stop) => ?_
  · exact keeps_ite (h.bind fun _ => keeps_pure _) (keeps_pure _)
  · exact keeps_ite_bind ((ih.body _).map _) (keeps_pure _) fun _ => keeps_pure _

theorem reads_begunBy_succ (word : String) : Reads (begunBy (depth + 1) word) := by
  have expression := (readsAt depth).expression
  unfold begunBy
  split
  case h_1 =>
    exact reads_choose ih <| ((readsAt depth).tuple _ _ _).bind fun _ =>
      (ih.body _).bind fun _ => keeps_pure _
  case h_2 =>
    refine (reads_target depth _ _).bind fun _ => (reads_expect _).bind fun _ =>
      ((readsAt depth).tuple _ _ _).bind fun _ => (reads_take _).bind fun _ => ?_
    refine keeps_ite_bind ((expression _).map _) (keeps_pure _) fun test => ?_
    refine (reads_take _).bind fun recursive => (ih.body _).bind fun (ss, stop) => ?_
    exact keeps_ite_bind ((ih.body _).map _) (keeps_pure _) fun _ => keeps_pure _
  case h_3 =>
    refine (reads_target depth _ _).bind fun _ => (reads_take _).bind fun _ => keeps_ite ?_ ?_
    · exact ((readsAt depth).tuple _ _ _).bind fun _ => keeps_pure _
    · refine reads_peek.bind fun _ =>
        keeps_ite_bind (((readsAt depth).filters _ _).map _) (keeps_pure _) fun filter => ?_
      exact (ih.body _).bind fun _ => keeps_pure _
  case h_4 =>
    exact (reads_bindings depth).bind fun _ => (ih.body _).bind fun _ => keeps_pure _
  case h_5 =>
    exact ((readsAt depth).filters _ _).bind fun _ => (ih.body _).bind fun _ => keeps_pure _
  case h_6 =>
    exact (expression _).bind fun _ => (ih.body _).bind fun _ => keeps_pure _
  case h_7 =>
    refine reads_name.bind fun s => (reads_take _).bind fun isScoped =>
      (reads_take _).bind fun isRequired => (ih.body _).bind fun (ss, _) => ?_
    exact keeps_when reads_malformed fun _ => (reads_take _).bind fun _ => keeps_pure _
  case h_8 =>
    exact reads_plainName.bind fun _ => (reads_parameters depth).bind fun _ =>
      (ih.body _).bind fun _ => keeps_pure _
  case h_9 =>
    refine reads_peek.bind fun _ =>
      keeps_ite_bind (reads_parameters depth) (keeps_pure _) fun ps => ?_
    refine (expression _).bind fun e => ?_
    split
    · exact (ih.body _).bind fun _ => keeps_pure _
    · exact reads_malformed
  case h_10 =>
    exact (reads_printed depth).bind fun _ => keeps_pure _
  case h_11 =>
    exact (expression _).bind fun _ => keeps_pure _
  case h_12 =>
    exact (expression _).bind fun _ => (reads_takeNames _ _).bind fun _ =>
      reads_takeContext.bind fun _ => keeps_pure _
  case h_13 =>
    exact (expression _).bind fun _ => (reads_expect _).bind fun _ => reads_plainName.bind fun _ =>
      reads_takeContext.bind fun _ => keeps_pure _
  case h_14 =>
    exact (expression _).bind fun _ => (reads_expect _).bind fun _ => reads_imported.bind fun _ =>
      keeps_pure _
  case h_15 =>
    exact reads_malformed

theorem readsStatementsAt_succ : ReadsStatementsAt (depth + 1) where
  body ends := by
    rw [Reader.body]
    exact (reads_take _).bind fun _ => (reads_expect _).bind fun _ =>
      (ih.statements _).bind fun _ => reads_name.bind fun _ => keeps_pure _
  statements := reads_statements_succ ih
  statement := by
    rw [Reader.statement]
    exact reads_name.bind fun word => ih.begunBy word
  begunBy := reads_begunBy_succ ih

end

theorem readsStatementsAt (depth : Nat) : ReadsStatementsAt depth := by
  induction depth with
  | zero => exact readsStatementsAt_zero
  | succ depth ih => exact readsStatementsAt_succ ih

theorem reads_template : Reads template := by
  refine ((readsStatementsAt maxDepth).statements []).bind fun ss => reads_peek.bind fun next => ?_
  split
  · exact keeps_pure _
  · exact reads_malformed

/-- A text that is not read as statements is so for one of the causes. -/
theorem stops_statementsOf (source : String) : Stops ReadDefect (statementsOf source) :=
  (reads_template _ (Token.sound_read source)).stops.map

end Reader

end SecurityScan.Template
