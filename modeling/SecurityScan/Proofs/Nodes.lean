import SecurityScan.Proofs.Attempt
import SecurityScan.Yaml.Node

/-!
# Where the nodes of a YAML text come from

Each scalar among the nodes has the text of a token, and the tag that this text tells by its form
unless tags are written in the text. What stops the reading of the nodes short of a rule of YAML is
a fault of the tokens or the depth of the text, and each level of that depth takes a token.
-/

namespace SecurityScan.Yaml

namespace Token

/-- Whether a token begins a part of a collection, or a collection in brackets. -/
def opens : Token → Bool
  | .flowStart _ | .blockEntry | .key => true
  | _ => false

end Token

section
variable (all : List Token)

/-- Whether a tag is written anywhere. -/
def HasTag : Prop := ∃ t, Token.tag t ∈ all

/-- Whether a text is empty or that of a scalar. -/
def HasText (text : String) : Prop := text = "" ∨ ∃ plain, Token.scalar plain text ∈ all

/-- Whether a scalar with this text may have got this tag. -/
def TagFits (tag : Tag) (text : String) : Prop :=
  tag = .str ∨ tag = .null ∨ (Token.scalar true text ∈ all ∧ tag = Tag.ofPlain text) ∨ HasTag all

/-- Whether a node can come from the tokens. -/
def Node.From : Node → Prop
  | .scalar tag text => HasText all text ∧ TagFits all tag text
  | .seq tag _ => tag = .seq ∨ HasTag all
  | .map tag _ => tag = .map ∨ HasTag all

end

/-- What may stop the reading of what is left of the tokens, when collections may nest `depth` more
levels: a fault of the tokens, or as many tokens that begin a part. -/
def Blocks (ts : List Token) (depth : Nat) (e : Stop) : Prop :=
  ∀ f, e = .fault f → Token.stop (.fault f) ∈ ts ∨ f = .tooDeep ∧ depth ≤ ts.countP Token.opens

section
variable {ts rest : List Token} {depth less : Nat} {e : Stop}

theorem blocks_malformed : Blocks ts depth .malformed := by
  rintro f ⟨⟩

theorem Blocks.mono (h : Blocks rest depth e) (hrest : rest <:+ ts) (hd : less ≤ depth) :
    Blocks ts less e := by
  rintro f rfl
  rcases h f rfl with hstop | ⟨hdeep, hcount⟩
  · exact .inl (hrest.subset hstop)
  · exact .inr ⟨hdeep, Nat.le_trans hd (Nat.le_trans hcount hrest.sublist.countP_le)⟩

/-- A token that begins a part makes room for one more level. -/
theorem Blocks.cons {t : Token} (h : Blocks ts depth e) (ht : t.opens = true) :
    Blocks (t :: ts) (depth + 1) e := by
  rintro f rfl
  rcases h f rfl with hstop | ⟨hdeep, hcount⟩
  · exact .inl (List.mem_cons_of_mem _ hstop)
  · refine .inr ⟨hdeep, ?_⟩
    rw [List.countP_cons_of_pos ht]
    exact Nat.add_le_add_right hcount 1

end

namespace Node

/-- The tokens left are the last of all, and every node comes from these. -/
structure Sound (all : List Token) (r : Reading) : Prop where
  rest : r.tokens <:+ all
  nodes : ∀ node ∈ r.nodes, node.From all

/-- The state `r` after tokens were taken from `ts`. -/
structure Follows (all ts : List Token) (r : Reading) : Prop extends Sound all r where
  left : r.tokens <:+ ts

/-- A step of the grammar that reads on, gives what `P` says of and is stopped only as it may be
where collections nest `depth` more levels. -/
def Walks {α : Type} (all : List Token) (depth : Nat) (P : α → Prop) (x : Grammar α) : Prop :=
  ∀ r, Sound all r → Ends (fun a r' => P a ∧ Follows all r.tokens r') (Blocks r.tokens depth) x r

/-- The same of a step that is taken before the token `t` only. -/
def WalksAt {α : Type} (all : List Token) (depth : Nat) (t : Token) (x : Grammar α) : Prop :=
  ∀ r, Sound all r → r.tokens.head? = some t →
    Ends (fun _ r' => Follows all r.tokens r') (Blocks r.tokens depth) x r

/-- Any result at all. -/
abbrev Any {α : Type} (_ : α) : Prop := True

section
variable {α β : Type} {all : List Token} {depth less : Nat} {P : α → Prop} {Q : β → Prop}
  {x : Grammar α} {f : α → Grammar β} {t : Token}

theorem Sound.follows {r : Reading} (h : Sound all r) : Follows all r.tokens r := ⟨h, List.suffix_rfl⟩

theorem walks_pure {a : α} (h : P a) : Walks all depth P (pure a) := fun _ hr =>
  ends_pure ⟨h, hr.follows⟩

theorem walks_malformed : Walks all depth P (throw .malformed) := fun _ _ =>
  ends_throw blocks_malformed

theorem walks_get : Walks all depth Any get := fun _ hr => ends_get ⟨trivial, hr.follows⟩

theorem Walks.bind (hx : Walks all depth P x) (hf : ∀ a, P a → Walks all depth Q (f a)) :
    Walks all depth Q (x >>= f) := by
  intro r hr
  refine (hx r hr).bind fun a r' ⟨ha, hr'⟩ => ?_
  refine (hf a ha r' hr'.toSound).mono (fun b r'' ⟨hb, hr''⟩ => ?_) fun e he => ?_
  · exact ⟨hb, hr''.toSound, hr''.left.trans hr'.left⟩
  · exact he.mono hr'.left (Nat.le_refl _)

theorem Walks.antitone (hx : Walks all depth P x) (h : less ≤ depth) : Walks all less P x :=
  fun r hr => (hx r hr).mono (fun _ _ => id) fun _ he => he.mono List.suffix_rfl h

theorem Walks.at (hx : Walks all depth P x) : WalksAt all depth t x := fun r hr _ =>
  (hx r hr).mono (fun _ _ h => h.2) fun _ => id

/-! ## Single tokens -/

theorem ends_peek {r : Reading} : Ends (fun t r' => r' = r ∧ r.tokens.head? = some t)
    (Blocks r.tokens depth) peek r := by
  refine (ends_get (P := fun r' r'' => r' = r ∧ r'' = r) ⟨rfl, rfl⟩).bind ?_
  rintro _ _ ⟨rfl, rfl⟩
  split
  · exact ends_throw blocks_malformed
  · rename_i s _ ht
    refine ends_throw fun f hf => .inl ?_
    rw [ht, hf]
    exact List.mem_cons_self
  · rename_i t _ _ ht
    exact ends_pure ⟨rfl, by rw [ht]; rfl⟩

theorem walks_peek : Walks all depth (· ∈ all) peek := by
  refine fun r hr => ends_peek.mono (fun t r' h => ?_) fun _ => id
  obtain ⟨rfl, ht⟩ := h
  exact ⟨hr.rest.subset (List.mem_of_head? ht), hr.follows⟩

/-- What is done after a look at the next token may depend on it. -/
theorem walks_peek_bind {f : Token → Grammar β} (h : ∀ t ∈ all, WalksAt all depth t (f t)) :
    Walks all depth Any (peek >>= f) := by
  intro r hr
  refine ends_peek.bind ?_
  rintro t _ ⟨rfl, ht⟩
  exact (h t (hr.rest.subset (List.mem_of_head? ht)) _ hr ht).mono (fun _ _ h => ⟨trivial, h⟩)
    fun _ => id

theorem Sound.tail {r : Reading} (h : Sound all r) :
    Follows all r.tokens { r with tokens := r.tokens.tail } :=
  ⟨⟨(List.tail_suffix _).trans h.rest, h.nodes⟩, List.tail_suffix _⟩

theorem walks_skip : Walks all depth Any skip := fun _ hr => ends_modify ⟨trivial, hr.tail⟩

/-- What follows a token that begins a part may nest one level less. -/
theorem Walks.after {r : Reading} (hx : Walks all depth P x) (hr : Sound all r)
    (ht : t.opens = true) (hhead : r.tokens.head? = some t) :
    Ends (fun a r' => P a ∧ Follows all r.tokens r') (Blocks r.tokens (depth + 1)) x
      { r with tokens := r.tokens.tail } := by
  have hr' := hr.tail
  obtain ⟨rest, hrest⟩ : ∃ rest, r.tokens = t :: rest := List.head?_eq_some_iff.mp hhead
  refine (hx _ hr'.toSound).mono (fun _ r'' h => ?_) fun e he => ?_
  · exact ⟨h.1, h.2.toSound, h.2.left.trans hr'.left⟩
  · rw [hrest] at he ⊢
    exact he.cons ht

theorem walksAt_skip (ht : t.opens = true) (hx : Walks all depth P x) :
    WalksAt all (depth + 1) t (skip >>= fun _ => x) := by
  intro r hr hhead
  refine (ends_modify (P := fun _ r' => r' = { r with tokens := r.tokens.tail }) rfl).bind ?_
  rintro _ _ rfl
  exact (hx.after hr ht hhead).mono (fun _ _ h => h.2) fun _ => id

theorem ends_skipIf {r : Reading} : Ends (fun b r' =>
      if b then r.tokens.head? = some t ∧ r' = { r with tokens := r.tokens.tail } else r' = r)
    (Blocks r.tokens depth) (skipIf t) r := by
  refine ends_peek.bind fun u r' hu => ?_
  obtain ⟨rfl, hhead⟩ := hu
  split
  · rename_i h
    obtain rfl : u = t := h
    refine (ends_modify (P := fun _ s => s = { r' with tokens := r'.tokens.tail }) rfl).bind ?_
    rintro _ _ rfl
    exact ends_pure ⟨hhead, rfl⟩
  · exact ends_pure rfl

theorem walks_skipIf : Walks all depth Any (skipIf t) := by
  refine walks_peek.bind fun _ _ => ?_
  split
  · exact walks_skip.bind fun _ _ => walks_pure trivial
  · exact walks_pure trivial

theorem walks_skipIf_bind {f : Bool → Grammar β} (ht : t.opens = true)
    (hy : Walks all (depth - 1) Q (f true)) (hz : Walks all depth Q (f false)) :
    Walks all depth Q (skipIf t >>= f) := by
  refine fun r hr => ends_skipIf.bind fun b r' h => ?_
  cases b with
  | true =>
    obtain ⟨hhead, rfl⟩ := h
    exact (hy.after hr ht hhead).mono (fun _ _ => id) fun _ he =>
      he.mono List.suffix_rfl (Nat.le_add_of_sub_le (Nat.le_refl _))
  | false =>
    obtain rfl : r' = r := h
    exact hz r' hr

theorem walks_atOneOf (ts : List Token) : Walks all depth Any (atOneOf ts) :=
  walks_peek.bind fun _ _ => walks_pure trivial

theorem walks_expect : Walks all depth Any (expect t) := by
  refine walks_skipIf.bind fun _ _ => ?_
  split
  · exact walks_malformed
  · exact walks_pure trivial

/-! ## Properties -/

theorem walks_tagName (w : WrittenTag) : Walks all depth Any (tagName w) := by
  rw [tagName]
  split
  · exact walks_pure trivial
  · refine walks_get.bind fun _ _ => ?_
    split
    · exact walks_pure trivial
    · exact walks_malformed

theorem walks_anchorHere? : Walks all depth Any anchorHere? := by
  refine walks_peek.bind fun _ _ => ?_
  split
  · exact walks_skip.bind fun _ _ => walks_pure trivial
  · exact walks_pure trivial

theorem walks_tagHere? : Walks all depth (fun w? => w?.isSome → HasTag all) tagHere? := by
  refine walks_peek.bind fun t ht => ?_
  split
  · exact walks_skip.bind fun _ _ => walks_pure fun _ => ⟨_, ht⟩
  · exact walks_pure nofun

theorem walks_properties : Walks all depth (fun p => p.2.isSome → HasTag all) properties := by
  refine walks_anchorHere?.bind fun first _ => walks_tagHere?.bind fun tag htag => ?_
  dsimp only
  split
  case' h_1 => refine walks_anchorHere?.bind fun _ _ => ?_
  case' h_2 => refine (walks_pure (P := Any) trivial).bind fun _ _ => ?_
  all_goals
    split
    · exact (walks_tagName _).bind fun _ _ => walks_pure fun _ => htag rfl
    · exact walks_pure (by rintro ⟨⟩)

/-! ## The table -/

theorem walks_add {node : Node} (h : node.From all) : Walks all depth Any (add node) := by
  refine walks_get.bind fun _ _ => ?_
  refine Walks.bind (P := Any) (fun r hr => ends_modify ⟨trivial, ⟨hr.rest, ?_⟩, List.suffix_rfl⟩)
    fun _ _ => walks_pure trivial
  intro n hn
  rcases Array.mem_push.mp hn with hn | rfl
  · exact hr.nodes n hn
  · exact h

theorem walks_replace {node : Node} (h : node.From all) (place : Ref) :
    Walks all depth Any (replace place node) := by
  refine fun r hr => ends_modify ⟨trivial, ⟨hr.rest, fun n hn => ?_⟩, List.suffix_rfl⟩
  rcases Array.mem_or_eq_of_mem_setIfInBounds hn with hn | rfl
  · exact hr.nodes n hn
  · exact h

theorem walks_bind (name : Option String) (place : Ref) :
    Walks all depth Any (Node.bind name place) := by
  rw [Node.bind.eq_def]
  split
  · exact fun r hr => ends_modify ⟨trivial, ⟨hr.rest, hr.nodes⟩, List.suffix_rfl⟩
  · exact walks_pure trivial

theorem walks_addScalar (name : Option String) {tag : Tag} {text : String}
    (htext : HasText all text) (htag : TagFits all tag text) :
    Walks all depth Any (addScalar name tag text) := by
  have hnode : (Node.scalar tag text).From all := ⟨htext, htag⟩
  exact (walks_add hnode).bind fun _ _ => (walks_bind _ _).bind fun _ _ => walks_pure trivial

theorem walks_addSeq (name : Option String) {tag : Tag} {items : Grammar (List Ref)}
    (htag : tag = .seq ∨ HasTag all) (hitems : Walks all depth Any items) :
    Walks all depth Any (addSeq name tag items) := by
  have hnode : ∀ refs, (Node.seq tag refs).From all := fun _ => htag
  exact (walks_add (hnode _)).bind fun _ _ => (walks_bind _ _).bind fun _ _ =>
    hitems.bind fun _ _ => (walks_replace (hnode _) _).bind fun _ _ => walks_pure trivial

theorem walks_addMap (name : Option String) {tag : Tag} {pairs : Grammar (List (Ref × Ref))}
    (htag : tag = .map ∨ HasTag all) (hpairs : Walks all depth Any pairs) :
    Walks all depth Any (addMap name tag pairs) := by
  have hnode : ∀ refs, (Node.map tag refs).From all := fun _ => htag
  exact (walks_add (hnode _)).bind fun _ _ => (walks_bind _ _).bind fun _ _ =>
    hpairs.bind fun _ _ => (walks_replace (hnode _) _).bind fun _ _ => walks_pure trivial

theorem from_empty : empty.From all := ⟨.inl rfl, .inr (.inl rfl)⟩

section
variable {tag : Option String} (h : tag.isSome → HasTag all)
include h

theorem collectionTag_fits (usual : Tag) : collectionTag tag usual = usual ∨ HasTag all := by
  rw [collectionTag.eq_def]
  split
  · exact .inl rfl
  · exact .inl rfl
  · exact .inr (h rfl)

theorem scalarTag_fits {plain : Bool} {text : String} (ht : Token.scalar plain text ∈ all) :
    TagFits all (scalarTag tag plain text) text := by
  cases tag with
  | some _ => exact .inr (.inr (.inr (h rfl)))
  | none =>
    cases plain with
    | true => exact .inr (.inr (.inl ⟨ht, rfl⟩))
    | false => exact .inl rfl

theorem scalarTag_empty_fits : TagFits all (scalarTag tag true "") "" := by
  cases tag with
  | some _ => exact .inr (.inr (.inr (h rfl)))
  | none => exact .inr (.inl (by decide))

end

/-! ## The grammar -/

/-- The steps of the grammar with this fuel: each is stopped only as it may be. A step that begins
with a token of its own has one level more. -/
structure AllWalk (all : List Token) (fuel : Nat) : Prop where
  node (depth : Nat) (block indentless : Bool) :
    Walks all depth Any (node fuel depth block indentless)
  blockItems (depth : Nat) (indentless : Bool) :
    Walks all (depth + 1) Any (blockItems fuel depth indentless)
  blockPairs (depth : Nat) : Walks all (depth + 1) Any (blockPairs fuel depth)
  flowItems (depth : Nat) (first : Bool) : Walks all depth Any (flowItems fuel depth first)
  flowPairs (depth : Nat) (first : Bool) : Walks all depth Any (flowPairs fuel depth first)
  flowPair (depth : Nat) (close : Token) : Walks all depth Any (flowPair fuel depth close)

/-- A part that may be left out. -/
theorem walks_atOneOf_bind {ts : List Token} {x : Grammar Ref} {f : Ref → Grammar β}
    (hx : Walks all depth Any x) (hf : ∀ r, Walks all depth Q (f r)) :
    Walks all depth Q (atOneOf ts >>= fun b => if b = true then add empty >>= f else x >>= f) := by
  refine (walks_atOneOf _).bind fun b _ => ?_
  split
  · exact (walks_add from_empty).bind fun r _ => hf r
  · exact hx.bind fun r _ => hf r

/-- A rule that has to be kept before the next step. -/
theorem walks_unless {b : Bool} {x : Grammar β} (hx : Walks all depth Q x) :
    Walks all depth Q (if b = true then throw .malformed >>= fun _ : Unit => x else x) := by
  split
  · exact (walks_malformed (P := fun _ => False)).bind fun _ h => h.elim
  · exact hx

/-- An entry that a comma has to stand before unless it is the first one. -/
theorem walks_separated {first : Bool} {x : Grammar β} (hx : Walks all depth Q x) :
    Walks all depth Q (if (!first) = true then expect t >>= fun _ => x else x) := by
  split
  · exact walks_expect.bind fun _ _ => hx
  · exact hx

section
variable {fuel : Nat} (h : AllWalk all fuel)
include h

theorem AllWalk.node_succ (depth : Nat) (block indentless : Bool) :
    Walks all depth Any (Node.node (fuel + 1) depth block indentless) := by
  cases depth with
  | zero =>
    rw [Node.node]
    · exact fun r _ => ends_throw fun f hf => .inr ⟨(Stop.fault.inj hf).symm, Nat.zero_le _⟩
    · simp
  | succ depth =>
    rw [Node.node]
    refine walks_peek.bind fun t _ => ?_
    split
    · refine walks_skip.bind fun _ _ => walks_get.bind fun _ _ => ?_
      split
      · exact walks_pure trivial
      · exact walks_malformed
    · refine walks_properties.bind fun p htag => ?_
      obtain ⟨name, tag⟩ := p
      dsimp only
      generalize hcontent : (peek >>= _ : Grammar Ref) = content
      have hwalks : Walks all (depth + 1) Any content := by
        subst hcontent
        have hseq := collectionTag_fits htag .seq
        have hmap := collectionTag_fits htag .map
        refine walks_peek_bind fun t ht => ?_
        split
        · exact (walks_skip.bind fun _ _ =>
            walks_addScalar name (.inr ⟨_, ht⟩) (scalarTag_fits htag ht)).at
        · exact walksAt_skip rfl (walks_addSeq name hseq (h.flowItems _ _))
        · exact walksAt_skip rfl (walks_addMap name hmap (h.flowPairs _ _))
        · refine Walks.at (P := Any) ?_
          split
          · exact walks_addSeq name hseq (h.blockItems _ _)
          · split
            · exact walks_skip.bind fun _ _ => walks_addSeq name hseq (h.blockItems _ _)
            · split
              · exact walks_skip.bind fun _ _ => walks_addMap name hmap (h.blockPairs _)
              · split
                · exact walks_addScalar name (.inl rfl) (scalarTag_empty_fits htag)
                · exact walks_malformed
      split
      · exact walks_get.bind fun _ _ => walks_unless hwalks
      · exact hwalks

theorem AllWalk.blockItems_succ (depth : Nat) (indentless : Bool) :
    Walks all (depth + 1) Any (Node.blockItems (fuel + 1) depth indentless) := by
  have hrest := (h.blockItems depth indentless).antitone (Nat.le_succ depth)
  rw [Node.blockItems]
  refine walks_skipIf_bind rfl ?_ ?_
  · exact walks_atOneOf_bind (h.node _ _ _) fun _ => hrest.bind fun _ _ => walks_pure trivial
  · rw [if_neg Bool.false_ne_true]
    dsimp only
    split
    · exact walks_expect.bind fun _ _ => walks_pure trivial
    · exact walks_pure trivial

theorem AllWalk.blockPairs_succ (depth : Nat) :
    Walks all (depth + 1) Any (Node.blockPairs (fuel + 1) depth) := by
  have hrest := (h.blockPairs depth).antitone (Nat.le_succ depth)
  rw [Node.blockPairs]
  refine walks_skipIf_bind rfl ?_ ?_
  · refine walks_atOneOf_bind (h.node _ _ _) fun _ => walks_skipIf.bind fun _ _ => ?_
    split
    · exact walks_atOneOf_bind (h.node _ _ _) fun _ => hrest.bind fun _ _ => walks_pure trivial
    · exact (walks_add from_empty).bind fun _ _ => hrest.bind fun _ _ => walks_pure trivial
  · exact walks_expect.bind fun _ _ => walks_pure trivial

theorem AllWalk.flowPair_succ (depth : Nat) (close : Token) :
    Walks all depth Any (Node.flowPair (fuel + 1) depth close) := by
  rw [Node.flowPair]
  refine walks_atOneOf_bind (h.node _ _ _) fun _ => walks_skipIf.bind fun _ _ => ?_
  split
  · exact walks_atOneOf_bind (h.node _ _ _) fun _ => walks_pure trivial
  · exact (walks_add from_empty).bind fun _ _ => walks_pure trivial

theorem AllWalk.flowItems_succ (depth : Nat) (first : Bool) :
    Walks all depth Any (Node.flowItems (fuel + 1) depth first) := by
  have hrest := h.flowItems depth false
  rw [Node.flowItems]
  refine walks_skipIf.bind fun _ _ => ?_
  split
  · exact walks_pure trivial
  · refine walks_separated ?_
    refine walks_skipIf_bind rfl ?_ ?_
    · refine (walks_addMap none (.inl rfl) ?_).bind fun _ _ =>
        (hrest.antitone (Nat.sub_le _ _)).bind fun _ _ => walks_pure trivial
      exact (h.flowPair _ _).bind fun _ _ => walks_pure trivial
    · refine walks_skipIf.bind fun _ _ => ?_
      split
      · exact walks_pure trivial
      · exact (h.node _ _ _).bind fun _ _ => hrest.bind fun _ _ => walks_pure trivial

theorem AllWalk.flowPairs_succ (depth : Nat) (first : Bool) :
    Walks all depth Any (Node.flowPairs (fuel + 1) depth first) := by
  have hrest := h.flowPairs depth false
  rw [Node.flowPairs]
  refine walks_skipIf.bind fun _ _ => ?_
  split
  · exact walks_pure trivial
  · refine walks_separated (walks_skipIf.bind fun _ _ => ?_)
    split
    · exact (h.flowPair _ _).bind fun _ _ => hrest.bind fun _ _ => walks_pure trivial
    · refine walks_skipIf.bind fun _ _ => ?_
      split
      · exact walks_pure trivial
      · exact (h.node _ _ _).bind fun _ _ => (walks_add from_empty).bind fun _ _ =>
          hrest.bind fun _ _ => walks_pure trivial

end

theorem allWalk (fuel : Nat) : AllWalk all fuel := by
  induction fuel with
  | zero =>
    constructor
    all_goals
      intros
      simp only [Node.node, Node.blockItems, Node.blockPairs, Node.flowItems, Node.flowPairs,
        Node.flowPair]
      exact walks_malformed
  | succ fuel h =>
    exact ⟨h.node_succ, h.blockItems_succ, h.blockPairs_succ, h.flowItems_succ, h.flowPairs_succ,
      h.flowPair_succ⟩

/-! ## Documents -/

theorem walks_directives (fuel : Nat) (hasVersion : Bool) (handles : List (String × String)) :
    Walks all depth Any (directives fuel hasVersion handles) := by
  induction fuel generalizing hasVersion handles with
  | zero => exact walks_malformed
  | succ fuel ih =>
    rw [directives]
    refine walks_peek.bind fun _ _ => ?_
    split
    · exact walks_skip.bind fun _ _ => walks_unless (ih _ _)
    · exact walks_skip.bind fun _ _ => walks_unless (ih _ _)
    · exact walks_skip.bind fun _ _ => ih _ _
    · exact walks_pure trivial

theorem walks_skipEnds (fuel : Nat) : Walks all depth Any (skipEnds fuel) := by
  induction fuel with
  | zero => exact walks_pure trivial
  | succ fuel ih =>
    refine walks_skipIf.bind fun _ _ => ?_
    split
    · exact ih
    · exact walks_pure trivial

theorem walks_document (fuel : Nat) : Walks all maxDepth Any (document fuel) := by
  have hend : ∀ root : Ref, Walks all maxDepth Any (do
      skipEnds fuel
      if (← peek) = .streamEnd then return some root else throw .malformed : Grammar _) := by
    intro root
    refine (walks_skipEnds fuel).bind fun _ _ => walks_peek.bind fun _ _ => ?_
    split
    · exact walks_pure trivial
    · exact walks_malformed
  have hall : AllWalk all fuel := allWalk fuel
  have hnode := hall.node maxDepth true false
  refine walks_peek.bind fun first _ => ?_
  dsimp only
  split
  · exact walks_pure trivial
  · split
    · refine (walks_directives _ _ _).bind fun handles _ => ?_
      refine Walks.bind (P := Any) (fun r hr => ends_modify ⟨trivial, ⟨hr.rest, hr.nodes⟩,
        List.suffix_rfl⟩) fun _ _ => walks_expect.bind fun _ _ => walks_peek.bind fun _ _ => ?_
      split
      any_goals exact (walks_add from_empty).bind fun root _ => hend root
      exact hnode.bind fun root _ => hend root
    · exact hnode.bind fun root _ => hend root

end

end Node

/-- Where a text is read as nodes these come from its tokens. What stops it is a fault of a token or
a depth that a part of the text begins at each level of. -/
theorem ofText?_ends (cs : List Char) :
    Gives (fun g? => ∀ g ∈ g?, ∀ node ∈ g.nodes, node.From (tokens cs)) (Graph.ofText? cs) ∧
    Stops (Blocks (tokens cs) Node.maxDepth) (Graph.ofText? cs) := by
  have hsound : Node.Sound (tokens cs) ⟨tokens cs, Node.usualHandles, [], #[]⟩ :=
    ⟨List.suffix_rfl, by simp⟩
  have hends := Node.walks_document (3 * (tokens cs).length + 3) _ hsound
  refine ⟨hends.gives.bind fun p hp => gives_ok ?_, hends.stops.bind fun _ _ => stops_ok⟩
  intro g hg
  obtain ⟨r, -, rfl⟩ := Option.map_eq_some_iff.mp hg
  exact hp.2.nodes

end SecurityScan.Yaml
