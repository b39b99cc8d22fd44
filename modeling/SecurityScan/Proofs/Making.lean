import SecurityScan.Proofs.Nodes
import SecurityScan.Proofs.Scanning
import SecurityScan.Yaml.Reader

/-!
# What stops the making of the values of a YAML text

The steps that make values keep every node one that can come from the tokens. So what stops them
short of a rule of YAML is a scalar whose text does not fit its tag, and this needs a plain scalar
of that form or a tag that is written, or mappings that take pairs from one another too deep.
-/

namespace SecurityScan.Yaml

/-- Whether a mapping may take pairs from others. -/
def MayMerge (all : List Token) : Prop :=
  (∃ text, Token.scalar true text ∈ all ∧ Tag.ofPlain text = .merge) ∨ HasTag all

/-- Why a text is not read although it keeps the rules of YAML. -/
inductive Cause (cs : List Char) : Fault → Prop
  | number {f : Fault} (h : BadNumber cs f) : Cause cs f
  /-- Collections nest too deep. -/
  | nesting (h : Node.maxDepth ≤ (tokens cs).countP Token.opens) : Cause cs .tooDeep
  /-- Too many mappings take pairs from one another. -/
  | merging (h : MayMerge (tokens cs)) : Cause cs .tooDeep
  /-- The text of a plain scalar does not make the value that its form promises. -/
  | plain {text : String} {f : Fault} (h : Token.scalar true text ∈ tokens cs)
      (hf : scalarValue (Tag.ofPlain text) text = .error (.fault f)) : Cause cs f
  /-- A text does not make a value with the tag that is written on it. -/
  | tagged {tag : Tag} {text : String} {f : Fault} (h : HasTag (tokens cs))
      (htext : HasText (tokens cs) text) (hf : scalarValue tag text = .error (.fault f)) : Cause cs f
  /-- A mapping stands for a moment. -/
  | moment (h : HasTag (tokens cs)) : Cause cs (.wrongKind "expected string or bytes-like object")

/-- A fault that stops the reading has a cause in the text. -/
def Caused (cs : List Char) (e : Stop) : Prop := ∀ f, e = .fault f → Cause cs f

section
variable {all : List Token} {cs : List Char}

theorem caused_malformed : Caused cs .malformed := by
  rintro f ⟨⟩

theorem caused_fault {f : Fault} (h : Cause cs f) : Caused cs (.fault f) := by
  rintro _ ⟨⟩
  exact h

/-- A scalar that a token is for and that has no value. -/
theorem stops_scalarValue {tag : Tag} {text : String} (htext : HasText (tokens cs) text)
    (htag : TagFits (tokens cs) tag text) : Stops (Caused cs) (scalarValue tag text) := by
  rintro _ h f rfl
  rcases htag with rfl | rfl | ⟨hmem, rfl⟩ | htag
  · cases h
  · cases h
  · exact .plain hmem h
  · exact .tagged htag htext h

theorem mayMerge_of_tag {node : Node} (h : node.From all) (ht : node.tag = .merge) :
    MayMerge all := by
  cases node with
  | scalar tag text =>
    obtain rfl : tag = .merge := ht
    rcases h.2 with h | h | ⟨hmem, hform⟩ | h
    · cases h
    · cases h
    · exact .inl ⟨text, hmem, hform.symm⟩
    · exact .inr h
  | seq tag items =>
    obtain rfl : tag = .merge := ht
    exact .inr (h.resolve_left nofun)
  | map tag pairs =>
    obtain rfl : tag = .merge := ht
    exact .inr (h.resolve_left nofun)

theorem from_withTag_str {node : Node} (h : node.From all) (ht : node.tag = .value) :
    (node.withTag .str).From all := by
  cases node with
  | scalar tag text => exact ⟨h.1, .inl rfl⟩
  | seq tag items =>
    obtain rfl : tag = .value := ht
    exact .inr (h.resolve_left nofun)
  | map tag pairs =>
    obtain rfl : tag = .value := ht
    exact .inr (h.resolve_left nofun)

end

/-- What is known after a value is remembered is this value or was known before. -/
theorem known_of_remembered {known : Array (Option Value)} {r i : Ref} {v w : Value}
    (h : (known.setIfInBounds r (some v)).getD i none = some w) :
    w = v ∨ known.getD i none = some w := by
  rw [Array.getD_eq_getD_getElem?] at h ⊢
  rw [Array.getElem?_setIfInBounds] at h
  split at h
  · split at h
    · exact .inl (Option.some.inj h).symm
    · cases h
  · exact .inr h

/-- Whether a text stands for a value. -/
def IsScalarValue (v : Value) : Prop := ∃ tag text, scalarValue tag text = .ok v

namespace Maker

/-- The nodes come from the tokens, and what scalars are known to stand for from a text. -/
structure Intact (cs : List Char) (m : Making) : Prop where
  nodes : ∀ node ∈ m.nodes, node.From (tokens cs)
  scalars : ∀ r v, m.scalars.getD r none = some v → IsScalarValue v

/-- A step keeps what is made intact, gives what `P` says of and is stopped only with a cause. -/
def Makes {α : Type} (cs : List Char) (P : α → Prop) (x : Maker α) : Prop :=
  ∀ m, Intact cs m → Ends (fun a m' => P a ∧ Intact cs m') (Caused cs) x m

/-- Any result at all. -/
abbrev Any {α : Type} (_ : α) : Prop := True

section
variable {α β : Type} {cs : List Char} {P : α → Prop} {Q : β → Prop}

theorem makes_pure {a : α} (h : P a) : Makes cs P (pure a) := fun _ hm => ends_pure ⟨h, hm⟩

theorem makes_throw {e : Stop} (h : Caused cs e) : Makes cs P (throw e) := fun _ _ => ends_throw h

theorem makes_malformed : Makes cs P (throw .malformed) := makes_throw caused_malformed

theorem makes_get : Makes cs (Intact cs) get := fun _ hm => ends_get ⟨hm, hm⟩

theorem Makes.bind {x : Maker α} {f : α → Maker β} (hx : Makes cs P x)
    (hf : ∀ a, P a → Makes cs Q (f a)) : Makes cs Q (x >>= f) := fun m hm =>
  (hx m hm).bind fun a m' h => hf a h.1 m' h.2

theorem makes_mapM {f : α → Maker β} (h : ∀ a, Makes cs Q (f a)) (xs : List α) :
    Makes cs Any (xs.mapM f) := by
  induction xs with
  | nil => exact makes_pure trivial
  | cons x xs ih =>
    rw [List.mapM_cons]
    exact (h x).bind fun _ _ => ih.bind fun _ _ => makes_pure trivial

theorem makes_forM {f : α → Maker PUnit} (h : ∀ a, Makes cs Any (f a)) (xs : List α) :
    Makes cs Any (xs.forM f) := by
  induction xs with
  | nil => exact makes_pure trivial
  | cons x xs ih => exact (h x).bind fun _ _ => ih

theorem makes_findM? {f : α → Maker Bool} (h : ∀ a, Makes cs Any (f a)) (xs : List α) :
    Makes cs Any (xs.findM? f) := by
  induction xs with
  | nil => exact makes_pure trivial
  | cons x xs ih =>
    rw [List.findM?]
    refine (h x).bind fun b _ => ?_
    split
    · exact makes_pure trivial
    · exact ih

/-! ## Nodes -/

theorem Intact.node {m : Making} (hm : Intact cs m) (r : Ref) :
    (m.nodes.getD r .empty).From (tokens cs) := by
  rw [Array.getD_eq_getD_getElem?]
  cases h : m.nodes[r]? with
  | none => exact Node.from_empty
  | some node => exact hm.nodes node (Array.mem_of_getElem? h)

theorem ends_nodeAt {E : Stop → Prop} (m : Making) (r : Ref) :
    Ends (fun node m' => node = m.nodes.getD r .empty ∧ m' = m) E (nodeAt r) m :=
  ⟨gives_ok ⟨rfl, rfl⟩, stops_ok⟩

theorem makes_nodeAt (r : Ref) : Makes cs (·.From (tokens cs)) (nodeAt r) := by
  refine fun m hm => (ends_nodeAt m r).mono (fun node m' h => ?_) fun _ => id
  obtain ⟨rfl, rfl⟩ := h
  exact ⟨hm.node r, hm⟩

theorem ends_tagAt {E : Stop → Prop} (m : Making) (r : Ref) :
    Ends (fun tag m' => tag = (m.nodes.getD r .empty).tag ∧ m' = m) E (tagAt r) m :=
  ⟨gives_ok ⟨rfl, rfl⟩, stops_ok⟩

theorem makes_tagAt (r : Ref) : Makes cs Any (tagAt r) :=
  (makes_nodeAt r).bind fun _ _ => makes_pure trivial

theorem makes_pairsAt (r : Ref) : Makes cs Any (pairsAt r) := by
  refine (makes_nodeAt r).bind fun node _ => ?_
  split <;> exact makes_pure trivial

theorem makes_replace (r : Ref) {node : Node} (h : node.From (tokens cs)) :
    Makes cs Any (replace r node) := by
  refine fun m hm => ends_modify ⟨trivial, fun n hn => ?_, hm.scalars⟩
  rcases Array.mem_or_eq_of_mem_setIfInBounds hn with hn | rfl
  · exact hm.nodes n hn
  · exact h

theorem makes_replacePairs (r : Ref) (pairs : List (Ref × Ref)) :
    Makes cs Any (replacePairs r pairs) := by
  refine (makes_nodeAt r).bind fun node hnode => ?_
  split
  · rename_i tag _
    have h : (Node.map tag pairs).From (tokens cs) := hnode
    exact makes_replace r h
  · exact makes_pure trivial

/-! ## Merged mappings -/

section
variable {flatten : Ref → Maker Unit} (hf : MayMerge (tokens cs) → ∀ r, Makes cs Any (flatten r))
include hf

theorem makes_pairsOf (hmerge : MayMerge (tokens cs)) (r : Ref) : Makes cs Any (pairsOf flatten r) := by
  refine (makes_nodeAt r).bind fun node _ => ?_
  split
  · exact (hf hmerge r).bind fun _ _ => makes_pairsAt r
  · exact makes_malformed

theorem makes_pairsFrom (hmerge : MayMerge (tokens cs)) (source : Ref) :
    Makes cs Any (pairsFrom flatten source) := by
  have hpairs := makes_pairsOf hf hmerge
  refine (makes_nodeAt source).bind fun node _ => ?_
  split
  · exact (makes_mapM hpairs _).bind fun _ _ => makes_pure trivial
  · exact hpairs source

/-- Other mappings are looked at under a key that merges only. -/
theorem makes_takenFrom (r : Ref) (left place : Nat) :
    Makes cs Any (takenFrom flatten r left place) := by
  induction left generalizing place with
  | zero => exact makes_pure trivial
  | succ left ih =>
    refine (makes_pairsAt r).bind fun pairs _ => ?_
    split
    · exact makes_pure trivial
    · refine (makes_nodeAt _).bind fun node hnode => ?_
      split
      · rename_i hmerge
        refine (makes_pairsAt r).bind fun _ _ => (makes_replacePairs r _).bind fun _ _ => ?_
        exact (makes_pairsFrom hf (mayMerge_of_tag hnode hmerge) _).bind fun _ _ =>
          (ih _).bind fun _ _ => makes_pure trivial
      · rename_i hvalue
        exact (makes_replace _ (from_withTag_str hnode hvalue)).bind fun _ _ => ih _
      · exact ih _

end

theorem makes_flatten (depth : Nat) (hdepth : depth = 0 → MayMerge (tokens cs)) (r : Ref) :
    Makes cs Any (flatten depth r) := by
  induction depth generalizing r with
  | zero => exact makes_throw (caused_fault (.merging (hdepth rfl)))
  | succ depth ih =>
    refine (makes_pairsAt r).bind fun pairs _ => ?_
    refine (makes_takenFrom (fun hmerge r => ih (fun _ => hmerge) r) r _ _).bind fun taken _ => ?_
    split
    · exact (makes_pairsAt r).bind fun _ _ => makes_replacePairs r _
    · exact makes_pure trivial

/-! ## Meeting and filling -/

theorem makes_scalarText (htag : HasTag (tokens cs)) (depth : Nat) (r : Ref) :
    Makes cs (HasText (tokens cs)) (scalarText depth r) := by
  induction depth generalizing r with
  | zero => exact makes_throw (caused_fault (.merging (.inr htag)))
  | succ depth ih =>
    refine (makes_nodeAt r).bind fun node hnode => ?_
    split
    · exact makes_pure hnode.1
    · exact makes_malformed
    · refine (makes_findM? (fun _ => (makes_tagAt _).bind fun _ _ => makes_pure trivial) _).bind
        fun found _ => ?_
      split
      · exact ih _
      · exact makes_malformed

theorem makes_scalarValue {tag : Tag} {text : String} (htext : HasText (tokens cs) text)
    (htag : TagFits (tokens cs) tag text) : Makes cs IsScalarValue (scalarValue tag text) :=
  fun _ hm => ends_lift (fun _ h => ⟨⟨tag, text, h⟩, hm⟩) (stops_scalarValue htext htag)

/-- A node that is no collection is a scalar, or a mapping that a tag is written on. -/
theorem ends_scalarAt {m : Making} (hm : Intact cs m) {r : Ref}
    (hr : isCollection (m.nodes.getD r .empty).tag = false) :
    Ends (fun v m' => IsScalarValue v ∧ Intact cs m') (Caused cs) (scalarAt r) m := by
  have hnode := hm.node r
  refine (ends_nodeAt m r).bind fun node m' h => ?_
  obtain ⟨rfl, rfl⟩ := h
  split
  · rename_i hscalar
    rw [hscalar] at hnode
    exact makes_scalarValue hnode.1 hnode.2 _ hm
  · exact makes_malformed _ hm
  · rename_i tag pairs hmap
    rw [hmap] at hnode hr
    have htag : HasTag (tokens cs) := hnode.resolve_left fun h => by cases h; cases hr
    refine (makes_scalarText htag maxDepth r).bind (fun text htext => ?_) _ hm
    dsimp only
    split
    · exact (makes_throw (P := fun _ => False) (caused_fault (.moment htag))).bind
        fun _ h => h.elim
    · exact makes_scalarValue htext (.inr (.inr (.inr htag)))

theorem makes_remember {v : Value} (h : IsScalarValue v) (r : Ref) :
    Makes cs Any (modify fun m => { m with scalars := m.scalars.setIfInBounds r (some v) }) := by
  refine fun m hm => ends_modify ⟨trivial, hm.nodes, fun i w hw => ?_⟩
  rcases known_of_remembered hw with rfl | hw
  · exact h
  · exact hm.scalars i w hw

theorem makes_meet (r : Ref) : Makes cs Any (meet r) := by
  have hmet : Makes cs Any
      (modify fun m => { m with isMet := m.isMet.setIfInBounds r true } : Maker Unit) :=
    fun m hm => ends_modify ⟨trivial, hm.nodes, hm.scalars⟩
  have hwait : Makes cs Any (modify fun m => { m with waiting := r :: m.waiting } : Maker Unit) :=
    fun m hm => ends_modify ⟨trivial, hm.nodes, hm.scalars⟩
  refine makes_get.bind fun m _ => ?_
  dsimp only
  split
  · intro m hm
    refine (ends_tagAt m r).bind fun tag m' h => ?_
    obtain ⟨rfl, rfl⟩ := h
    split
    · exact hwait.bind (fun _ _ => hmet) _ hm
    · rename_i hr
      exact (ends_scalarAt hm (Bool.eq_false_iff.mpr hr)).bind fun v m' h =>
        (makes_remember h.1 r).bind (fun _ _ => hmet) m' h.2
  · exact makes_pure trivial

theorem makes_meetPairs (pairs : List (Ref × Ref)) : Makes cs Any (meetPairs pairs) := by
  induction pairs with
  | nil => exact makes_pure trivial
  | cons p pairs ih =>
    refine (makes_meet _).bind fun _ _ => (makes_tagAt _).bind fun _ _ => ?_
    dsimp only
    split
    · exact (makes_malformed (P := fun _ => False)).bind fun _ h => h.elim
    · exact (makes_meet _).bind fun _ _ => ih

theorem makes_meetSingle (item : Ref) : Makes cs Any (meetSingle item) := by
  refine (makes_nodeAt item).bind fun node _ => ?_
  split
  · exact (makes_meet _).bind fun _ _ => makes_meet _
  · exact makes_malformed

theorem makes_fill (r : Ref) : Makes cs Any (fill r) := by
  have hpairs : Makes cs Any (do
      flatten maxDepth r
      meetPairs (← pairsAt r)) :=
    (makes_flatten maxDepth nofun r).bind fun _ _ => (makes_pairsAt r).bind fun _ _ =>
      makes_meetPairs _
  refine (makes_nodeAt r).bind fun node _ => ?_
  split
  · exact makes_forM makes_meet _
  · exact makes_forM makes_meetSingle _
  · exact makes_forM makes_meetSingle _
  · exact hpairs
  · exact hpairs
  · exact makes_malformed

theorem makes_rounds (left : Nat) : Makes cs Any (rounds left) := by
  induction left with
  | zero => exact makes_pure trivial
  | succ left ih =>
    refine makes_get.bind fun m _ => ?_
    dsimp only
    split
    · refine Makes.bind (P := Any) (fun m hm => ends_modify ⟨trivial, hm.nodes, hm.scalars⟩)
        fun _ _ => (makes_forM makes_fill _).bind fun _ _ => ih
    · exact makes_pure trivial

end

end Maker

/-- What is made of nodes that come from the tokens is intact, and a fault that stops the making has
a cause in the tokens. -/
theorem made_ends {cs : List Char} {g : Graph} (h : ∀ node ∈ g.nodes, node.From (tokens cs)) :
    Gives (Maker.Intact cs) g.made ∧ Stops (Caused cs) g.made := by
  have hintact : Maker.Intact cs ⟨g.nodes, Array.replicate g.nodes.size false,
      Array.replicate g.nodes.size none, []⟩ := by
    refine ⟨h, fun r v hv => ?_⟩
    rw [Array.getD_eq_getD_getElem?, Array.getElem?_replicate] at hv
    split at hv <;> cases hv
  have hends := (Maker.makes_meet g.root).bind
    (fun _ _ => Maker.makes_rounds (g.nodes.size + 1)) _ hintact
  exact ⟨hends.gives.bind fun p hp => gives_ok hp.2, hends.stops.bind fun _ _ => stops_ok⟩

end SecurityScan.Yaml
