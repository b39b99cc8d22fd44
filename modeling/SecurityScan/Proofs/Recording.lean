import SecurityScan.Scan.Run

/-!
# Recorded sessions

What a session asks can be recorded: each question with its answer, in order. The record stands
beside the state, where no question sees it, so a recorded session does what the session does. What
a session adds to the record is told step by step, whatever state it starts from.
-/

namespace SecurityScan

namespace Session

variable {σ τ ε α β : Type}

theorem bind_apply (x : Session σ α) (f : α → Session σ β) (s : σ) :
    (x >>= f) s = x s >>= fun r => f r.1 r.2 := rfl

/-! ## Recording -/

/-- A question that is put on record together with its answer. -/
def recorded (ask : α → Session σ β) (a : α) : Session (σ × List (α × β)) β := fun s =>
  let r := ask a s.1
  ⟨(r.value.1, r.value.2, s.2 ++ [(a, r.value.1)]), r.notes⟩

/-- A step that has nothing to do with the record. -/
def unrecorded (x : Session σ α) : Session (σ × τ) α := fun s =>
  let r := x s.1
  ⟨(r.value.1, r.value.2, s.2), r.notes⟩

/-! ## A recorded session does what the session does -/

/-- `x` does what `y` does, the record aside. -/
def Follows (x : Session (σ × τ) α) (y : Session σ α) : Prop :=
  ∀ s t, (x (s, t)).value.1 = (y s).value.1 ∧ (x (s, t)).value.2.1 = (y s).value.2 ∧
    (x (s, t)).notes = (y s).notes

theorem follows_recorded (ask : α → Session σ β) (a : α) : Follows (recorded ask a) (ask a) :=
  fun _ _ => ⟨rfl, rfl, rfl⟩

theorem follows_unrecorded (x : Session σ α) : Follows (unrecorded (τ := τ) x) x :=
  fun _ _ => ⟨rfl, rfl, rfl⟩

theorem follows_ofNoted (x : Noted α) : Follows (ofNoted x : Session (σ × τ) α) (ofNoted x) :=
  fun _ _ => ⟨rfl, rfl, rfl⟩

theorem follows_pure (a : α) : Follows (pure a : Session (σ × τ) α) (pure a) :=
  fun _ _ => ⟨rfl, rfl, rfl⟩

theorem Follows.bind {x : Session (σ × τ) α} {y : Session σ α} {f : α → Session (σ × τ) β}
    {g : α → Session σ β} (hx : Follows x y) (hf : ∀ a, Follows (f a) (g a)) :
    Follows (x >>= f) (y >>= g) := by
  intro s t
  obtain ⟨hv, hs, hn⟩ := hx s t
  obtain ⟨hv', hs', hn'⟩ := hf (y s).value.1 (y s).value.2 (x (s, t)).value.2.2
  have hr : (x (s, t)).value.2 = ((y s).value.2, (x (s, t)).value.2.2) := by rw [← hs]
  simp only [bind_apply, Noted.value_bind, Noted.notes_bind]
  rw [hv, hr, hn, hn']
  exact ⟨hv', hs', rfl⟩

/-! ## What is added to the record -/

/-- From every state `x` adds to the record some `es`, with which `P` holds of its result. -/
def Writes (x : Session (σ × List ε) α) (P : α → List ε → Prop) : Prop :=
  ∀ s t, ∃ es, (x (s, t)).value.2.2 = t ++ es ∧ P (x (s, t)).value.1 es

theorem writes_recorded (ask : α → Session σ β) (a : α) :
    Writes (recorded ask a) fun b es => es = [(a, b)] :=
  fun _ _ => ⟨_, rfl, rfl⟩

theorem writes_unrecorded (x : Session σ α) :
    Writes (unrecorded (τ := List ε) x) fun _ es => es = [] :=
  fun _ t => ⟨[], (List.append_nil t).symm, rfl⟩

theorem writes_ofNoted (x : Noted α) :
    Writes (ofNoted x : Session (σ × List ε) α) fun a es => a = x.value ∧ es = [] :=
  fun _ t => ⟨[], (List.append_nil t).symm, rfl, rfl⟩

theorem writes_pure (a : α) :
    Writes (pure a : Session (σ × List ε) α) fun b es => b = a ∧ es = [] :=
  fun _ t => ⟨[], (List.append_nil t).symm, rfl, rfl⟩

theorem Writes.imp {x : Session (σ × List ε) α} {P Q : α → List ε → Prop} (hx : Writes x P)
    (h : ∀ a es, P a es → Q a es) : Writes x Q := by
  intro s t
  obtain ⟨es, ht, hp⟩ := hx s t
  exact ⟨es, ht, h _ _ hp⟩

theorem Writes.bind {x : Session (σ × List ε) α} {f : α → Session (σ × List ε) β}
    {P : α → List ε → Prop} {Q : β → List ε → Prop} (hx : Writes x P)
    (hf : ∀ a es, P a es → Writes (f a) fun b fs => Q b (es ++ fs)) : Writes (x >>= f) Q := by
  intro s t
  obtain ⟨es, ht, hp⟩ := hx s t
  obtain ⟨fs, ht', hq⟩ := hf _ es hp (x (s, t)).value.2.1 (t ++ es)
  have hr : (x (s, t)).value.2 = ((x (s, t)).value.2.1, t ++ es) := by rw [← ht]
  refine ⟨es ++ fs, ?_, ?_⟩
  · rw [bind_apply, Noted.value_bind, hr, ht', List.append_assoc]
  · rw [bind_apply, Noted.value_bind, hr]
    exact hq

/-- A step that adds nothing to the record, after another. -/
theorem Writes.before {x : Session (σ × List ε) α} {f : α → Session (σ × List ε) β}
    {P : List ε → Prop} (hx : Writes x fun _ es => P es)
    (hf : ∀ a, Writes (f a) fun _ es => es = []) : Writes (x >>= f) fun _ es => P es := by
  refine hx.bind fun a es hes => (hf a).imp fun b fs hfs => ?_
  rw [hfs, List.append_nil]
  exact hes

theorem writes_nothing_pure (a : α) : Writes (pure a : Session (σ × List ε) α) fun _ es => es = [] :=
  (writes_pure a).imp fun _ _ h => h.2

theorem writes_nothing_ofNoted (x : Noted α) :
    Writes (ofNoted x : Session (σ × List ε) α) fun _ es => es = [] :=
  (writes_ofNoted x).imp fun _ _ h => h.2

end Session

/-! ## Steps that come to an end -/

namespace ScanStep

variable {σ τ ε α β : Type}

theorem map_eq_bind (f : α → β) (x : ScanStep σ α) : f <$> x = x >>= fun a => pure (f a) := rfl

/-- `x` does what `y` does, the record aside. -/
def Follows (x : ScanStep (σ × τ) α) (y : ScanStep σ α) : Prop := Session.Follows x.run y.run

/-- From every state `x` comes to a result and adds to the record some `es` so that `P` holds. -/
def Writes (x : ScanStep (σ × List ε) α) (P : α → List ε → Prop) : Prop :=
  Session.Writes x.run fun r es => ∃ a, r = .ok a ∧ P a es

theorem follows_pure (a : α) : Follows (pure a : ScanStep (σ × τ) α) (pure a) :=
  fun _ _ => ⟨rfl, rfl, rfl⟩

theorem follows_ofSession {x : Session (σ × τ) α} {y : Session σ α} (h : Session.Follows x y) :
    Follows (ofSession x) (ofSession y) :=
  Session.Follows.bind h fun _ => Session.follows_pure _

theorem follows_ofAttempt (x : Attempt α) :
    Follows (ofAttempt x : ScanStep (σ × τ) α) (ofAttempt x) :=
  Session.follows_ofNoted x.run

theorem follows_note (level : Level) (text : String) :
    Follows (note level text : ScanStep (σ × τ) Unit) (note level text) :=
  follows_ofSession (Session.follows_ofNoted (SecurityScan.note level text))

theorem Follows.bind {x : ScanStep (σ × τ) α} {y : ScanStep σ α} {f : α → ScanStep (σ × τ) β}
    {g : α → ScanStep σ β} (hx : Follows x y) (hf : ∀ a, Follows (f a) (g a)) :
    Follows (x >>= f) (y >>= g) := by
  unfold Follows
  rw [ExceptT.run_bind, ExceptT.run_bind]
  refine Session.Follows.bind hx fun r => ?_
  cases r with
  | ok a => exact hf a
  | error e => exact Session.follows_pure _

theorem Follows.map (f : α → β) {x : ScanStep (σ × τ) α} {y : ScanStep σ α} (hx : Follows x y) :
    Follows (f <$> x) (f <$> y) := by
  rw [map_eq_bind, map_eq_bind]
  exact hx.bind fun a => follows_pure (f a)

theorem writes_pure {P : α → List ε → Prop} {a : α} (h : P a []) :
    Writes (pure a : ScanStep (σ × List ε) α) P :=
  fun _ t => ⟨[], (List.append_nil t).symm, a, rfl, h⟩

theorem writes_ofSession {x : Session (σ × List ε) α} {P : α → List ε → Prop}
    (h : Session.Writes x P) : Writes (ofSession x) P := by
  intro s t
  obtain ⟨es, ht, hp⟩ := h s t
  exact ⟨es, ht, _, rfl, hp⟩

theorem writes_ofAttempt {x : Attempt α} {a : α} (h : x.run.value = .ok a) :
    Writes (ofAttempt x : ScanStep (σ × List ε) α) fun b es => b = a ∧ es = [] :=
  fun _ t => ⟨[], (List.append_nil t).symm, a, h, rfl, rfl⟩

theorem writes_note (level : Level) (text : String) :
    Writes (note level text : ScanStep (σ × List ε) Unit) fun a es => a = () ∧ es = [] :=
  writes_ofSession (Session.writes_ofNoted (SecurityScan.note level text))

theorem Writes.imp {x : ScanStep (σ × List ε) α} {P Q : α → List ε → Prop} (hx : Writes x P)
    (h : ∀ a es, P a es → Q a es) : Writes x Q :=
  Session.Writes.imp hx fun _ es ⟨a, hr, hp⟩ => ⟨a, hr, h a es hp⟩

theorem Writes.bind {x : ScanStep (σ × List ε) α} {f : α → ScanStep (σ × List ε) β}
    {P : α → List ε → Prop} {Q : β → List ε → Prop} (hx : Writes x P)
    (hf : ∀ a es, P a es → Writes (f a) fun b fs => Q b (es ++ fs)) : Writes (x >>= f) Q := by
  unfold Writes
  rw [ExceptT.run_bind]
  refine Session.Writes.bind hx ?_
  rintro _ es ⟨a, rfl, hp⟩
  exact hf a es hp

theorem Writes.map (f : α → β) {x : ScanStep (σ × List ε) α} {P : α → List ε → Prop}
    {Q : β → List ε → Prop} (hx : Writes x P) (h : ∀ a es, P a es → Q (f a) es) :
    Writes (f <$> x) Q := by
  rw [map_eq_bind]
  refine hx.bind fun a es hp => writes_pure ?_
  rw [List.append_nil]
  exact h a es hp

/-- A step before another that adds nothing to the record. -/
theorem Writes.after {x : ScanStep (σ × List ε) α} {f : α → ScanStep (σ × List ε) β}
    {P : α → Prop} {Q : β → List ε → Prop} (hx : Writes x fun a es => P a ∧ es = [])
    (hf : ∀ a, P a → Writes (f a) Q) : Writes (x >>= f) Q := by
  refine hx.bind fun a es h => ?_
  rw [h.2]
  exact hf a h.1

end ScanStep

end SecurityScan
