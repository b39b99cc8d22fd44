import SecurityScan.Proofs.Making
import SecurityScan.Proofs.Mapping
import SecurityScan.Proofs.Scalars

/-!
# What a YAML text is read as

In a value that a text describes no map has a key twice: the entries of a mapping are put in one
after the other, and what is remembered of a node is a value made in the same way. A fault that
stops the reading has a cause in the text, and each cause has its kinds of faults.
-/

namespace SecurityScan.Yaml

/-! ## Scalars -/

theorem gives_momentOf (s : Tag.Stamp) : Gives Value.DistinctKeys (momentOf s) := by
  unfold momentOf
  split
  · dsimp only
    split
    · exact gives_error
    · exact gives_ok trivial
  · dsimp only
    split
    case' h_3 => refine gives_bind fun _ => ?_
    all_goals
      refine gives_bind fun _ => ?_
      split
      · exact gives_error
      · exact gives_ok trivial

theorem gives_scalarValue (tag : Tag) (text : String) :
    Gives Value.DistinctKeys (scalarValue tag text) := by
  cases tag with
  | null | str =>
    rw [scalarValue]
    exact gives_ok trivial
  | bool | int | float =>
    rw [scalarValue]
    exact Gives.mapError (gives_map fun _ => by simp [Value.DistinctKeys]) _
  | timestamp =>
    simp only [scalarValue]
    split
    · exact (gives_momentOf _).mapError _
    · exact gives_error
  | binary =>
    simp only [scalarValue]
    split
    · split
      · exact gives_ok trivial
      · exact gives_error
    · exact gives_error
  | _ =>
    simp only [scalarValue]
    exact gives_error

namespace Assembler

/-- The values that are remembered have no key twice. -/
def Sound (known : Array (Option Value)) : Prop :=
  ∀ r v, known.getD r none = some v → v.DistinctKeys

/-- What a step gives has the property `P`, and what is remembered after it stays sound. -/
def Ensures {α : Type} (P : α → Prop) (x : Assembler α) : Prop :=
  ∀ known, Sound known → P (x.run known).1 ∧ Sound (x.run known).2

section
variable {α β : Type} {P : α → Prop} {Q : β → Prop}

theorem ensures_pure {a : α} (h : P a) : Ensures P (pure a) := fun _ hs => ⟨h, hs⟩

theorem Ensures.bind {x : Assembler α} {f : α → Assembler β} (hx : Ensures P x)
    (hf : ∀ a, P a → Ensures Q (f a)) : Ensures Q (x >>= f) := by
  intro known hs
  obtain ⟨ha, hs⟩ := hx known hs
  exact hf _ ha _ hs

theorem ensures_get : Ensures Sound get := fun _ hs => ⟨hs, hs⟩

theorem ensures_remember {v : Value} (h : v.DistinctKeys) (r : Ref) :
    Ensures (fun _ => True) (modify (·.setIfInBounds r (some v)) : Assembler Unit) := by
  refine fun known hs => ⟨trivial, fun i w hw => ?_⟩
  rcases known_of_remembered hw with rfl | hw
  · exact h
  · exact hs i w hw

end

/-- The value of an assembled part has no key twice. -/
abbrev Made (a : Assembled) : Prop := a.1.DistinctKeys

theorem ensures_collection (r : Ref) {v : Value} (h : v.DistinctKeys) (held : List Ref) :
    Ensures Made (collection r v held) := by
  have hmade : (if held.isEmpty then v else .marked r v).DistinctKeys := by
    split
    · exact h
    · exact h
  rw [collection]
  split
  · exact (ensures_remember hmade r).bind fun _ _ => ensures_pure hmade
  · exact ensures_pure hmade

section
variable {f : Ref → Assembler Assembled} (hf : ∀ r, Ensures Made (f r))
include hf

theorem ensures_all (rs : List Ref) : Ensures (fun _ => True) (all f rs) := by
  induction rs with
  | nil => exact ensures_pure trivial
  | cons r rs ih => exact (hf r).bind fun _ _ => ih.bind fun _ _ => ensures_pure trivial

theorem ensures_pairs (nodes : Array Node) (rs : List Ref) :
    Ensures (fun _ => True) (pairs nodes f rs) := by
  induction rs with
  | nil => exact ensures_pure trivial
  | cons r rs ih =>
    exact (ensures_all hf _).bind fun _ _ => ih.bind fun _ _ => ensures_pure trivial

theorem ensures_entries {before : Entries} (h : (Value.map before).DistinctKeys)
    (ps : List (Ref × Ref)) :
    Ensures (fun a => (Value.map a.1).DistinctKeys) (entries f before ps) := by
  induction ps generalizing before with
  | nil => exact ensures_pure h
  | cons p ps ih =>
    refine (hf p.1).bind fun key _ => (hf p.2).bind fun value hv => ?_
    exact (ih (Value.distinctKeys_insert h key.1 hv)).bind fun _ hes => ensures_pure hes

end

theorem ensures_valueAt (nodes : Array Node) (depth : Nat) (around : List Ref) (r : Ref) :
    Ensures Made (valueAt nodes depth around r) := by
  induction depth generalizing around r with
  | zero => exact ensures_pure trivial
  | succ depth ih =>
    rw [valueAt]
    split
    · exact ensures_pure trivial
    · refine ensures_get.bind fun known hs => ?_
      split
      · rename_i v hv
        exact ensures_pure (hs r v hv)
      · -- a node that is not known yet: its parts are inside of it
        have hpart := ih (r :: around)
        have hlist : ∀ xs, (Value.list xs).DistinctKeys := fun _ => trivial
        have hset : ∀ xs, (Value.set xs).DistinctKeys := fun _ => trivial
        split
        · exact (ensures_all hpart _).bind fun _ _ => ensures_collection r (hlist _) _
        · exact (ensures_pairs hpart nodes _).bind fun _ _ => ensures_collection r (hlist _) _
        · exact (ensures_pairs hpart nodes _).bind fun _ _ => ensures_collection r (hlist _) _
        · exact (ensures_entries hpart Value.distinctKeys_empty _).bind fun _ hes =>
            ensures_collection r hes _
        · exact (ensures_entries hpart Value.distinctKeys_empty _).bind fun _ _ =>
            ensures_collection r (hset _) _
        · exact ensures_pure trivial

end Assembler

section
variable {cs : List Char} {g : Graph} (h : ∀ node ∈ g.nodes, node.From (tokens cs))
include h

theorem gives_value : Gives Value.DistinctKeys g.value := by
  rw [Graph.value]
  refine (made_ends h).1.bind fun m hm => gives_ok ?_
  refine (Assembler.ensures_valueAt m.nodes _ [] g.root _ fun r v hv => ?_).1
  obtain ⟨tag, text, hvalue⟩ := hm.scalars r v hv
  exact gives_scalarValue tag text v hvalue

end

/-- In what a text describes no map has a key twice. -/
theorem gives_read (text : String) : Gives Value.DistinctKeys (read text) := by
  rw [read]
  refine (ofText?_ends text.toList).1.bind fun g? h => ?_
  split
  · exact gives_ok trivial
  · exact gives_value (h _ rfl)

section
variable {cs : List Char} {f : Fault}

theorem IsNumberError.kind (h : IsNumberError f) : f.kind ∈ ["ValueError", "OverflowError"] := by
  rcases h with h | h
  · simp [h.eq]
  · simp [h]

end

end SecurityScan.Yaml
