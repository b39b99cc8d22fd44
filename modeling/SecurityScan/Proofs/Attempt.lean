import SecurityScan.Fault

/-!
# What attempts come to

The value of a step that may fail, of two such steps and of a loop of them.
-/

namespace SecurityScan

theorem Noted.value_foldlM {α β : Type} (f : β → α → Noted β) (b : β) (xs : List α) :
    (xs.foldlM f b).value = xs.foldl (fun b x => (f b x).value) b := by
  induction xs generalizing b with
  | nil => rfl
  | cons x xs ih => rw [List.foldlM_cons, Noted.value_bind, ih, List.foldl_cons]

theorem Attempt.value_bind {α β : Type} (x : Attempt α) (f : α → Attempt β) :
    (x >>= f).run.value = match x.run.value with
      | .ok a => (f a).run.value
      | .error e => .error e := by
  rw [ExceptT.run_bind]
  cases x.run with
  | mk value notes => cases value <;> rfl

theorem Attempt.ofExcept_bind {α β : Type} (x : Except Fault α) (f : α → Except Fault β) :
    (Attempt.ofExcept x >>= fun a => Attempt.ofExcept (f a)) = Attempt.ofExcept (x >>= f) := by
  cases x <;> rfl

theorem exists_of_bind {α β ε : Type} {x : Except ε α} {f : α → Except ε β} {b : β}
    (h : x >>= f = .ok b) : ∃ a, x = .ok a ∧ f a = .ok b := by
  cases x with
  | error e => cases h
  | ok a => exact ⟨a, rfl, h⟩

theorem exists_of_mapM_cons {α β ε : Type} {f : α → Except ε β} {x : α} {xs : List α} {ys : List β}
    (h : (x :: xs).mapM f = .ok ys) : ∃ y rest, f x = .ok y ∧ xs.mapM f = .ok rest ∧ y :: rest = ys := by
  rw [List.mapM_cons] at h
  obtain ⟨y, hy, h⟩ := exists_of_bind h
  obtain ⟨rest, hrest, h⟩ := exists_of_bind h
  exact ⟨y, rest, hy, hrest, Except.ok.inj h⟩

/-! ## Loops that cannot fail -/

section
variable {α β ε : Type}

theorem mapM_eq_ok {f : α → Except ε β} {g : α → β} {xs : List α}
    (h : ∀ x ∈ xs, f x = .ok (g x)) : xs.mapM f = .ok (xs.map g) := by
  induction xs with
  | nil => rfl
  | cons x xs ih =>
    obtain ⟨hx, hxs⟩ := List.forall_mem_cons.mp h
    rw [List.mapM_cons, hx, ih hxs]
    rfl

theorem filterAuxM_eq_ok {p : α → Except ε Bool} {q : α → Bool} {xs : List α}
    (h : ∀ x ∈ xs, p x = .ok (q x)) (acc : List α) :
    xs.filterAuxM p acc = .ok ((xs.filter q).reverse ++ acc) := by
  induction xs generalizing acc with
  | nil => rfl
  | cons x xs ih =>
    obtain ⟨hx, hxs⟩ := List.forall_mem_cons.mp h
    have hstep : (x :: xs).filterAuxM p acc = xs.filterAuxM p (cond (q x) (x :: acc) acc) := by
      rw [List.filterAuxM, hx]
      rfl
    rw [hstep, ih hxs]
    cases hq : q x <;> simp [hq]

theorem filterM_eq_ok {p : α → Except ε Bool} {q : α → Bool} {xs : List α}
    (h : ∀ x ∈ xs, p x = .ok (q x)) : xs.filterM p = .ok (xs.filter q) := by
  rw [List.filterM, filterAuxM_eq_ok h, List.append_nil]
  show Except.ok (xs.filter q).reverse.reverse = _
  rw [List.reverse_reverse]

end

/-! ## Properties of results -/

/-- What comes of `x`, if anything does, has the property `P`. -/
def Gives {α ε : Type} (P : α → Prop) (x : Except ε α) : Prop := ∀ a, x = .ok a → P a

section
variable {α β ε : Type} {P : α → Prop} {Q : β → Prop}

theorem gives_ok {a : α} (h : P a) : Gives P (.ok a : Except ε α) := by
  rintro _ ⟨⟩
  exact h

theorem gives_error {e : ε} : Gives P (.error e : Except ε α) := by
  rintro _ ⟨⟩

theorem Gives.bind {x : Except ε α} {f : α → Except ε β} (hx : Gives P x)
    (hf : ∀ a, P a → Gives Q (f a)) : Gives Q (x >>= f) := by
  cases x with
  | error e => exact gives_error
  | ok a => exact hf a (hx a rfl)

theorem gives_bind {x : Except ε α} {f : α → Except ε β} (h : ∀ a, Gives Q (f a)) :
    Gives Q (x >>= f) :=
  Gives.bind (P := fun _ => True) (fun _ _ => trivial) fun a _ => h a

theorem Gives.map {x : Except ε α} {f : α → β} (hx : Gives P x) (hf : ∀ a, P a → Q (f a)) :
    Gives Q (f <$> x) := by
  cases x with
  | error e => exact gives_error
  | ok a => exact gives_ok (hf a (hx a rfl))

theorem gives_map {x : Except ε α} {f : α → β} (h : ∀ a, Q (f a)) : Gives Q (x.map f) :=
  Gives.map (P := fun _ => True) (fun _ _ => trivial) fun a _ => h a

theorem Gives.mapError {φ : Type} {x : Except ε α} (hx : Gives P x) (f : ε → φ) :
    Gives P (x.mapError f) := by
  cases x with
  | error e => exact gives_error
  | ok a => exact gives_ok (hx a rfl)

theorem gives_attempt {x : Attempt α} {f : α → Attempt β} (h : ∀ a, Gives Q (f a).run.value) :
    Gives Q (x >>= f).run.value := by
  rw [Attempt.value_bind]
  cases x.run.value with
  | error e => exact gives_error
  | ok a => exact h a

end

/-! ## Steps that return -/

def Returns {α ε : Type} (x : Except ε α) : Prop := ∃ a, x = .ok a

section
variable {α β ε : Type}

@[simp] theorem returns_ok {a : α} : Returns (.ok a : Except ε α) := ⟨a, rfl⟩

@[simp] theorem returns_pure {a : α} : Returns (pure a : Except ε α) := ⟨a, rfl⟩

@[simp] theorem not_returns_error {e : ε} : ¬Returns (.error e : Except ε α) := by
  rintro ⟨_, h⟩
  cases h

theorem returns_bind_ok {x : Except ε α} {a : α} (h : x = .ok a) (f : α → Except ε β) :
    Returns (x >>= f) ↔ Returns (f a) := by
  rw [h]
  exact Iff.rfl

theorem returns_bind {x : Except ε α} {f : α → Except ε β} :
    Returns (x >>= f) ↔ ∃ a, x = .ok a ∧ Returns (f a) := by
  cases x with
  | error e => exact iff_of_false not_returns_error fun ⟨_, h, _⟩ => nomatch h
  | ok a => simp only [returns_bind_ok rfl, Except.ok.injEq, exists_eq_left']

theorem returns_of_bind {x : Except ε α} {f : α → Except ε β} (h : Returns (x >>= f)) : Returns x := by
  obtain ⟨a, ha, -⟩ := returns_bind.mp h
  exact ⟨a, ha⟩

/-- A step that is followed by one that returns or not, whatever came of the first. -/
theorem returns_bind_and {x : Except ε α} {f : α → Except ε β} {P : Prop}
    (h : ∀ a, Returns (f a) ↔ P) : Returns (x >>= f) ↔ Returns x ∧ P := by
  simp only [returns_bind, h, exists_and_right]
  rfl

theorem returns_bind_iff {x : Except ε α} {f : α → Except ε β} (h : ∀ a, Returns (f a)) :
    Returns (x >>= f) ↔ Returns x := by
  rw [returns_bind_and fun a => iff_true_intro (h a), and_true]

theorem returns_mapM {f : α → Except ε β} {xs : List α} :
    Returns (xs.mapM f) ↔ ∀ x ∈ xs, Returns (f x) := by
  induction xs with
  | nil => simp
  | cons x xs ih =>
    rw [List.mapM_cons, List.forall_mem_cons, ← ih]
    constructor
    · rintro ⟨ys, h⟩
      obtain ⟨y, hy, h⟩ := exists_of_bind h
      obtain ⟨rest, hrest, -⟩ := exists_of_bind h
      exact ⟨⟨y, hy⟩, ⟨rest, hrest⟩⟩
    · rintro ⟨⟨y, hy⟩, ⟨rest, hrest⟩⟩
      rw [hy, hrest]
      exact ⟨y :: rest, rfl⟩

theorem returns_of_filterAuxM {p : α → Except ε Bool} {xs acc : List α}
    (h : Returns (xs.filterAuxM p acc)) : ∀ x ∈ xs, Returns (p x) := by
  induction xs generalizing acc with
  | nil => simp
  | cons x xs ih =>
    rw [List.filterAuxM] at h
    obtain ⟨ys, h⟩ := h
    obtain ⟨b, hb, h⟩ := exists_of_bind h
    exact List.forall_mem_cons.mpr ⟨⟨b, hb⟩, ih ⟨ys, h⟩⟩

theorem returns_of_filterM {p : α → Except ε Bool} {xs : List α} (h : Returns (xs.filterM p)) :
    ∀ x ∈ xs, Returns (p x) :=
  returns_of_filterAuxM (returns_of_bind h)

end

/-! ## Steps that stop -/

/-- What stops `x`, if anything does, has the property `P`. -/
def Stops {α ε : Type} (P : ε → Prop) (x : Except ε α) : Prop := ∀ e, x = .error e → P e

section
variable {α β ε : Type} {P : ε → Prop}

theorem stops_ok {a : α} : Stops P (.ok a : Except ε α) := by
  rintro _ ⟨⟩

theorem stops_error {e : ε} (h : P e) : Stops P (.error e : Except ε α) := by
  rintro _ ⟨⟩
  exact h

theorem Stops.bind {x : Except ε α} {f : α → Except ε β} (hx : Stops P x)
    (hf : ∀ a, x = .ok a → Stops P (f a)) : Stops P (x >>= f) := by
  cases x with
  | error e => exact stops_error (hx e rfl)
  | ok a => exact hf a rfl

theorem Stops.map {x : Except ε α} (hx : Stops P x) {f : α → β} : Stops P (x.map f) := by
  cases x with
  | error e => exact stops_error (hx e rfl)
  | ok a => exact stops_ok

theorem Stops.mono {Q : ε → Prop} {x : Except ε α} (hx : Stops P x) (h : ∀ e, P e → Q e) :
    Stops Q x := fun e he => h e (hx e he)

theorem Stops.mapError {φ : Type} {Q : φ → Prop} {x : Except ε α} {f : ε → φ} (hx : Stops P x)
    (h : ∀ e, P e → Q (f e)) : Stops Q (x.mapError f) := by
  cases x with
  | error e => exact stops_error (h e (hx e rfl))
  | ok a => exact stops_ok

theorem stops_mapM {f : α → Except ε β} (h : ∀ x, Stops P (f x)) (xs : List α) :
    Stops P (xs.mapM f) := by
  induction xs with
  | nil => exact stops_ok
  | cons x xs ih =>
    rw [List.mapM_cons]
    exact (h x).bind fun _ _ => ih.bind fun _ _ => stops_ok

end

/-! ## Steps with a state -/

/-- What a step comes to when it is taken in the state `s`, and what may stop it there. -/
structure Ends {α σ ε : Type} (P : α → σ → Prop) (E : ε → Prop) (x : StateT σ (Except ε) α) (s : σ) :
    Prop where
  gives : Gives (fun p => P p.1 p.2) (x.run s)
  stops : Stops E (x.run s)

section
variable {α β σ ε : Type} {P : α → σ → Prop} {Q : β → σ → Prop} {E : ε → Prop} {s : σ}

theorem ends_pure {a : α} (h : P a s) : Ends P E (pure a) s := ⟨gives_ok h, stops_ok⟩

theorem ends_throw {e : ε} (h : E e) : Ends P E (throw e) s := ⟨gives_error, stops_error h⟩

theorem ends_get {P : σ → σ → Prop} (h : P s s) : Ends P E get s := ⟨gives_ok h, stops_ok⟩

theorem ends_modify {P : Unit → σ → Prop} {f : σ → σ} (h : P () (f s)) : Ends P E (modify f) s :=
  ⟨gives_ok h, stops_ok⟩

theorem ends_lift {x : Except ε α} (hP : Gives (P · s) x) (hE : Stops E x) :
    Ends P E (liftM x : StateT σ (Except ε) α) s := by
  cases x with
  | error e => exact ⟨gives_error, stops_error (hE e rfl)⟩
  | ok a => exact ⟨gives_ok (hP a rfl), stops_ok⟩

theorem Ends.bind {x : StateT σ (Except ε) α} {f : α → StateT σ (Except ε) β} (hx : Ends P E x s)
    (hf : ∀ a t, P a t → Ends Q E (f a) t) : Ends Q E (x >>= f) s where
  gives := hx.gives.bind fun p hp => (hf p.1 p.2 hp).gives
  stops := hx.stops.bind fun p hp => (hf p.1 p.2 (hx.gives p hp)).stops

theorem Ends.mono {P' : α → σ → Prop} {E' : ε → Prop} {x : StateT σ (Except ε) α}
    (h : Ends P E x s) (hP : ∀ a t, P a t → P' a t) (hE : ∀ e, E e → E' e) : Ends P' E' x s where
  gives p hp := hP _ _ (h.gives p hp)
  stops e he := hE _ (h.stops e he)

end

/-! ## Steps that keep a property of their state -/

/-- From a state with the property `I` a step comes to such a state again, or `E` stops it. -/
def Keeps {α σ ε : Type} (I : σ → Prop) (E : ε → Prop) (x : StateT σ (Except ε) α) : Prop :=
  ∀ s, I s → Ends (fun _ t => I t) E x s

section
variable {α β σ ε : Type} {I : σ → Prop} {E : ε → Prop}

theorem keeps_pure (a : α) : Keeps I E (pure a : StateT σ (Except ε) α) := fun _ h => ends_pure h

theorem keeps_throw {e : ε} (h : E e) : Keeps I E (throw e : StateT σ (Except ε) α) :=
  fun _ _ => ends_throw h

theorem Keeps.bind {x : StateT σ (Except ε) α} {f : α → StateT σ (Except ε) β} (hx : Keeps I E x)
    (hf : ∀ a, Keeps I E (f a)) : Keeps I E (x >>= f) :=
  fun s h => (hx s h).bind fun a t ht => hf a t ht

theorem Keeps.map {x : StateT σ (Except ε) α} (hx : Keeps I E x) (f : α → β) :
    Keeps I E (f <$> x) :=
  hx.bind fun a => keeps_pure (f a)

section
variable {c : Prop} [Decidable c]

theorem keeps_ite {x y : StateT σ (Except ε) α} (hx : Keeps I E x) (hy : Keeps I E y) :
    Keeps I E (if c then x else y) := by
  split
  · exact hx
  · exact hy

/-- What comes after a choice comes after both sides of it. -/
theorem keeps_ite_bind {x y : StateT σ (Except ε) α} {f : α → StateT σ (Except ε) β}
    (hx : Keeps I E x) (hy : Keeps I E y) (hf : ∀ a, Keeps I E (f a)) :
    Keeps I E (if c then x >>= f else y >>= f) :=
  keeps_ite (hx.bind hf) (hy.bind hf)

/-- What comes after a step comes also where the step is left out. -/
theorem keeps_when {x : StateT σ (Except ε) Unit} {f : Unit → StateT σ (Except ε) β}
    (hx : Keeps I E x) (hf : ∀ a, Keeps I E (f a)) :
    Keeps I E (if c then x >>= f else f ()) :=
  keeps_ite (hx.bind hf) (hf ())

end

theorem keeps_mapM {f : α → StateT σ (Except ε) β} (h : ∀ a, Keeps I E (f a)) (xs : List α) :
    Keeps I E (xs.mapM f) := by
  induction xs with
  | nil => exact keeps_pure []
  | cons x xs ih =>
    rw [List.mapM_cons]
    exact (h x).bind fun _ => ih.bind fun _ => keeps_pure _

theorem keeps_option_mapM {f : α → StateT σ (Except ε) β} (h : ∀ a, Keeps I E (f a))
    (x : Option α) : Keeps I E (x.mapM f) := by
  cases x with
  | none => exact keeps_pure none
  | some x => exact (h x).map some

end

end SecurityScan
