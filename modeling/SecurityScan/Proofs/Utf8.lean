import SecurityScan.Proofs.Attempt
import SecurityScan.Text.Utf8

/-!
# Decoding bytes in parts

Bytes that stand for a text do so from wherever they are taken on, and where they end in the middle
of a character those before it stand for a text.
-/

namespace SecurityScan.Text.Utf8

/-! ## The first character -/

/-- What stands at the start of bytes: a character, the start of one that they break off, or bytes
that start none. -/
inductive Head (a : UInt8) (rest : Bytes) : Prop
  | whole (c : Char) (n : Nat) (hle : n ≤ rest.length)
      (h : ∀ j tail, decodeFrom j (a :: rest.take n ++ tail) =
        (do return c :: (← decodeFrom (j + (n + 1)) tail))) : Head a rest
  | early (n : Nat) (h : ∀ j, decodeFrom j (a :: rest) = .error ⟨a, j, j + n, .endsEarly⟩) :
      Head a rest
  | wrong (n : Nat) (r : Reason) (hr : r ≠ .endsEarly)
      (h : ∀ j tail, decodeFrom j (a :: rest ++ tail) = .error ⟨a, j, j + n, r⟩) : Head a rest

section
variable {a : UInt8}

theorem head_two (hlength : sequenceLength a = some 2) (rest : Bytes) : Head a rest := by
  have heq := fun j bs => decodeFrom.eq_def j (a :: bs)
  match rest with
  | [] => exact .early 1 fun j => by simp [heq, hlength]
  | b :: rest =>
    by_cases hb : isTail b
    · refine .whole (Char.ofNat (a.toNat % 32 * 64 + low6 b)) 1 (by simp) fun j tail => ?_
      simp [heq, hlength, hb]
    · refine .wrong 1 .badContinuation nofun fun j tail => ?_
      simp [heq, hlength, hb]

theorem head_three (hlength : sequenceLength a = some 3) (rest : Bytes) : Head a rest := by
  have heq := fun j bs => decodeFrom.eq_def j (a :: bs)
  match rest with
  | [] => exact .early 1 fun j => by simp [heq, hlength]
  | b :: rest =>
    by_cases hb : isSecond a b
    · match rest with
      | [] => exact .early 2 fun j => by simp [heq, hlength, hb]
      | c :: rest =>
        by_cases hc : isTail c
        · refine .whole (Char.ofNat ((a.toNat % 16 * 64 + low6 b) * 64 + low6 c)) 2 (by simp)
            fun j tail => ?_
          simp [heq, hlength, hb, hc]
        · refine .wrong 2 .badContinuation nofun fun j tail => ?_
          simp [heq, hlength, hb, hc]
    · refine .wrong 1 .badContinuation nofun fun j tail => ?_
      rw [List.cons_append, List.cons_append]
      generalize rest ++ tail = more
      cases more <;> simp [heq, hlength, hb]

theorem head_four (hlength : sequenceLength a = some 4) (rest : Bytes) : Head a rest := by
  have heq := fun j bs => decodeFrom.eq_def j (a :: bs)
  match rest with
  | [] => exact .early 1 fun j => by simp [heq, hlength]
  | b :: rest =>
    by_cases hb : isSecond a b
    · match rest with
      | [] => exact .early 2 fun j => by simp [heq, hlength, hb]
      | c :: rest =>
        by_cases hc : isTail c
        · match rest with
          | [] => exact .early 3 fun j => by simp [heq, hlength, hb, hc]
          | d :: rest =>
            by_cases hd : isTail d
            · refine .whole (Char.ofNat (((a.toNat % 8 * 64 + low6 b) * 64 + low6 c) * 64 + low6 d))
                3 (by simp) fun j tail => ?_
              simp [heq, hlength, hb, hc, hd]
            · refine .wrong 3 .badContinuation nofun fun j tail => ?_
              simp [heq, hlength, hb, hc, hd]
        · refine .wrong 2 .badContinuation nofun fun j tail => ?_
          simp only [List.cons_append]
          generalize rest ++ tail = more
          cases more <;> simp [heq, hlength, hb, hc]
    · refine .wrong 1 .badContinuation nofun fun j tail => ?_
      rw [List.cons_append, List.cons_append]
      generalize rest ++ tail = more
      match more with
      | [] | [c] | c :: d :: more => simp [heq, hlength, hb]

end

theorem head (a : UInt8) (rest : Bytes) : Head a rest := by
  have heq := fun j bs => decodeFrom.eq_def j (a :: bs)
  have hlengths : sequenceLength a ∈ [none, some 1, some 2, some 3, some 4] := by
    unfold sequenceLength
    repeat' split
    all_goals simp
  simp only [List.mem_cons, List.not_mem_nil, or_false] at hlengths
  rcases hlengths with h | h | h | h | h
  · refine .wrong 1 .badStart nofun fun j tail => ?_
    simp [heq, h]
  · refine .whole (Char.ofNat a.toNat) 0 (Nat.zero_le _) fun j tail => ?_
    simp [heq, h]
  · exact head_two h rest
  · exact head_three h rest
  · exact head_four h rest

/-! ## All characters -/

/-- `k` bytes stand for characters whatever follows them. -/
def StandFor (bs : Bytes) (k : Nat) (cs : List Char) : Prop :=
  ∀ j tail, decodeFrom j (bs ++ tail) = (do return cs ++ (← decodeFrom (j + k) tail))

/-- How far bytes are characters: all of them are, or those before place `k` are and what follows is
broken off or starts none. -/
inductive Reading (bs : Bytes) : Prop
  | whole (cs : List Char) (h : StandFor bs bs.length cs) : Reading bs
  | early (cs : List Char) (k n : Nat) (a : UInt8)
      (h : ∀ j, decodeFrom j bs = .error ⟨a, j + k, j + k + n, .endsEarly⟩)
      (hbefore : StandFor (bs.take k) k cs) : Reading bs
  | wrong (k n : Nat) (a : UInt8) (r : Reason) (hr : r ≠ .endsEarly)
      (h : ∀ j tail, decodeFrom j (bs ++ tail) = .error ⟨a, j + k, j + k + n, r⟩) : Reading bs

theorem reading (bs : Bytes) : Reading bs := by
  match bs with
  | [] => exact .whole [] fun j tail => by simp
  | a :: rest =>
    cases head a rest with
    | early n h => exact .early [] 0 n a (fun j => h j) fun j tail => by simp
    | wrong n r hr h => exact .wrong 0 n a r hr fun j tail => h j tail
    | whole c n hle h =>
      -- the first character takes `n + 1` bytes, the others are read by induction
      have hrest : ∀ tail, a :: rest ++ tail = a :: rest.take n ++ (rest.drop n ++ tail) := by
        intro tail
        rw [List.cons_append, List.cons_append, ← List.append_assoc, List.take_append_drop]
      have hplace : ∀ j k, j + (n + 1) + k = j + (n + 1 + k) := fun j k => Nat.add_assoc ..
      cases reading (rest.drop n) with
      | whole cs ih =>
        refine .whole (c :: cs) fun j tail => ?_
        have hlength : j + (n + 1) + (rest.drop n).length = j + (a :: rest).length := by
          simp only [List.length_drop, List.length_cons]
          omega
        rw [hrest, h, ih, hlength]
        simp
      | early cs k m b ih hbefore =>
        refine .early (c :: cs) (n + 1 + k) m b (fun j => ?_) fun j tail => ?_
        · have hall := hrest []
          rw [List.append_nil, List.append_nil] at hall
          rw [hall, h, ih, hplace]
          rfl
        · have htake : (a :: rest).take (n + 1 + k) = a :: rest.take n ++ (rest.drop n).take k := by
            rw [Nat.add_right_comm, List.take_succ_cons, List.take_add, List.cons_append]
          rw [htake, List.append_assoc, h, hbefore, hplace]
          simp
      | wrong k m b r hr ih =>
        refine .wrong (n + 1 + k) m b r hr fun j tail => ?_
        rw [hrest, h, ih, hplace]
        rfl
termination_by bs.length
decreasing_by
  simp only [List.length_drop, List.length_cons]
  omega

/-- The characters that bytes stand for. -/
def text? (bs : Bytes) : Option (List Char) := (decodeFrom 0 bs).toOption

theorem text?_eq_some {bs : Bytes} {cs : List Char} :
    text? bs = some cs ↔ decodeFrom 0 bs = .ok cs := by
  rw [text?]
  cases decodeFrom 0 bs with
  | error e =>
    constructor
    · rintro ⟨⟩
    · rintro ⟨⟩
  | ok ds => exact ⟨fun h => congrArg _ (Option.some.inj h), fun h => congrArg _ (Except.ok.inj h)⟩

theorem StandFor.decodeFrom {bs : Bytes} {k : Nat} {cs : List Char} (h : StandFor bs k cs)
    (i : Nat) : decodeFrom i bs = .ok cs := by
  have hnil := h i []
  rw [List.append_nil] at hnil
  rw [hnil, Utf8.decodeFrom]
  exact congrArg Except.ok (List.append_nil cs)

/-- The place at which bytes stand tells only where a fault is. -/
theorem toOption_decodeFrom (i : Nat) (bs : Bytes) : (decodeFrom i bs).toOption = text? bs := by
  rw [text?]
  cases reading bs with
  | whole cs h => rw [h.decodeFrom, h.decodeFrom]
  | early cs k n a h hbefore =>
    rw [h, h]
    rfl
  | wrong k n a r hr h =>
    have hnil := fun j => h j []
    simp only [List.append_nil] at hnil
    rw [hnil, hnil]
    rfl

theorem toOption_bind {cs : List Char} {x : Except Error (List Char)} :
    (do return cs ++ (← x) : Except Error (List Char)).toOption = x.toOption.map (cs ++ ·) := by
  cases x <;> rfl

theorem StandFor.text?_append {bs : Bytes} {k : Nat} {cs : List Char} (h : StandFor bs k cs)
    (tail : Bytes) : text? (bs ++ tail) = (text? tail).map (cs ++ ·) := by
  rw [text?, h 0 tail, toOption_bind, toOption_decodeFrom]

end SecurityScan.Text.Utf8
